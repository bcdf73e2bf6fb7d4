import TableRobot.Interpreter.Basic
import TableRobot.Proofs.Command.Builtin
import TableRobot.Proofs.Lexicon.Adoption
/-!
# Keywords that answer

An interpreter made after adoptions has a row for every keyword of a
single-word kind.  The keyword is served if it is the last that its kind was
adopted under: then the text is answered by what the kind does.  The earlier
keywords of the kind keep their rows, but no command answers to them.
-/

namespace TableRobot

open Lexicon (Tidy adoptAll latest?)
open Text (capitals isAllBlank trim)

/-! ## Rows -/

namespace Transitions

variable {lex : Lexicon}

theorem admits_of_isCommand {k : Kind} (h : k.isCommand = true) :
    admits k = .ok (!k.takesArguments) := by
  cases k with
  | builtin b => rfl
  | custom c => rfl
  | outsider title => cases h

/-- The kind that a keyword has in its row: the one that it means, if that takes no arguments. -/
def rowKind? (lex : Lexicon) (w : Text) : Option Kind :=
  (lex.kind? w).filter fun k => !k.takesArguments

def rowsOf (lex : Lexicon) (ws : List Text) : List (Text × Kind) :=
  ws.filterMap fun w => (rowKind? lex w).map fun k => (w, k)

theorem rowsFor_eq {ws : List Text} (hcapitals : ∀ w ∈ ws, capitals w = w)
    (hcommand : ∀ w ∈ ws, ∀ k, lex.kind? w = some k → k.isCommand = true) :
    rowsFor lex ws = .ok (rowsOf lex ws) := by
  induction ws with
  | nil => rfl
  | cons v vs ih =>
      have hrest := ih (fun w hw => hcapitals w (List.mem_cons_of_mem v hw))
        fun w hw => hcommand w (List.mem_cons_of_mem v hw)
      unfold rowsFor
      rw [hcapitals v List.mem_cons_self, rowsOf, List.filterMap_cons, rowKind?]
      cases hv : lex.kind? v with
      | none => exact hrest
      | some q =>
          simp only [admits_of_isCommand (hcommand v List.mem_cons_self q hv), hrest]
          cases hq : q.takesArguments with
          | true =>
              simp only [Option.filter, hq]
              rfl
          | false =>
              simp only [Option.filter, hq]
              rfl

theorem lookup_rowsOf (lex : Lexicon) (ws : List Text) (w : Text) :
    (rowsOf lex ws).lookup w = if w ∈ ws then rowKind? lex w else none := by
  induction ws with
  | nil => rfl
  | cons v vs ih =>
      rw [rowsOf] at ih ⊢
      rw [List.filterMap_cons]
      by_cases hwv : w = v
      · subst hwv
        rw [if_pos List.mem_cons_self]
        cases hrow : rowKind? lex w with
        | none =>
            rw [hrow, ite_self] at ih
            exact ih
        | some k => exact List.lookup_cons_self
      · have hne : (w == v) = false := by simpa using hwv
        have hmem : w ∈ v :: vs ↔ w ∈ vs := by simp [hwv]
        simp only [hmem, ← ih]
        cases rowKind? lex v with
        | none => rfl
        | some k =>
            simp only [Option.map_some]
            rw [List.lookup_cons, hne]

theorem value_build (hlex : Tidy lex) :
    (build lex).value = (lex, .ok ⟨rowsOf lex lex.sortedKeys⟩) := by
  have hcapitals : ∀ w ∈ lex.sortedKeys, capitals w = w := by
    intro w hw
    obtain ⟨k, hk⟩ := Lexicon.mem_sortedKeys.1 hw
    exact (hlex.isKey hk).capitals_eq
  have hrows := rowsFor_eq hcapitals fun w _ k => hlex.isCommand
  rw [build, (Lexicon.settles_of_discovered hlex.discovered).value_afterDiscovery, hrows]
  rfl

theorem entry_of_kind? {w : Text} {k : Kind} {a : Action} (hw : lex.kind? w = some k)
    (hk : k.IsSingleWord a) : entry ⟨rowsOf lex lex.sortedKeys⟩ true w = .run k := by
  have hmem : w ∈ lex.sortedKeys := Lexicon.mem_sortedKeys.2 ⟨k, hw⟩
  have hrow : rowKind? lex w = some k := by
    rw [rowKind?, hw, Option.filter, hk.takesArguments]
    rfl
  rw [entry, lookup_rowsOf, if_pos hmem, hrow]
  rfl

end Transitions

/-! ## Answers to keywords -/

namespace Interpreter

/-- The answer to a text whose command has been accepted: what its action makes of the robot, or
a crash. -/
def answerOf [Routines] (i : Interpreter) (lex : Lexicon) (c : Command) :
    Lexicon × Interpreter × Outcome :=
  match ((c.bind i.size).perform i.robot).value with
  | .ok (moved, outcome) => (lex, i.commit moved outcome, outcome)
  | .error _ => (lex, i, .refused .crashed)

section

variable [Routines] {i : Interpreter} {lex : Lexicon}

theorem process_keyword {t : Text} (htrim : trim t = t) (hne : t ≠ [])
    (hread : Placement.read? t = none) :
    (i.process lex (some t)).value = match (i.dispatchKeyword lex (capitals t)).value with
      | .ok (robot, outcome) => (lex, i.commit robot outcome, outcome)
      | .error _ => (lex, i, .refused .crashed) := by
  have hblank : isAllBlank t = false := by
    cases hblank : isAllBlank t with
    | false => rfl
    | true => exact absurd (htrim.symm.trans (Text.trim_of_isAllBlank hblank)) hne
  simp only [process, hblank, Bool.false_eq_true, if_false, htrim, dispatch, hread, keywordOf,
    Logged.value_bind, Logged.value_pure]
  cases (i.dispatchKeyword lex (capitals t)).value with
  | error fault => rfl
  | ok result => rfl

theorem run_of_valid {c : Command} (h : c.valid = true) :
    (match (i.run c).value with
      | .ok (robot, outcome) => (lex, i.commit robot outcome, outcome)
      | .error _ => (lex, i, .refused .crashed)) = i.answerOf lex c := by
  have hvalid : (c.bind i.size).valid = true := h
  rw [run, Command.value_execute hvalid, answerOf]
  cases ((c.bind i.size).perform i.robot).value with
  | error fault => rfl
  | ok result =>
      obtain ⟨moved, outcome⟩ := result
      cases hs : outcome.success with
      | true => simp only [hs, if_true]
      | false => simp only [hs, commit, Bool.false_eq_true, if_false]

variable {w l : Text} {k : Kind} {a : Action}

theorem process_keyword_of_entry (hlex : Tidy lex) (hw : lex.kind? w = some k)
    (hk : k.IsSingleWord a) (hl : lex.labels.lookup k = some l)
    (hentry : i.transitions.entry i.robot.placed w = .run k) (hread : Placement.read? w = none) :
    (i.process lex (some w)).value =
      if w = l then i.answerOf lex (.single k a w) else (lex, i, .refused .unknown) := by
  have hkey := hlex.isKey hw
  rw [process_keyword hkey.trim_eq hkey.ne_nil hread, dispatchKeyword]
  simp only [hkey.capitals_eq, hentry, hlex.newCommand hk hl, Command.attempt_single]
  by_cases hwl : w = l
  · subst hwl
    simp only [if_true]
    exact run_of_valid rfl
  · simp only [if_neg hwl]
    rfl

/-- After adoptions under trimmed names a single-word kind has one keyword that is served, the
last that it was adopted under, or the one that it was built in with.  From that keyword the
lexicon makes a command of the kind, and an interpreter made after the adoptions answers it by
what the kind does to the robot once that has been placed.  The other keywords of the kind stay
bound to it and are refused. -/
theorem latest_keywords_answer {size : Int} (hsize : 1 ≤ size) {adoptions : List (Text × Kind)}
    (hnames : ∀ e ∈ adoptions, trim e.1 = e.1 ∧ e.1 ≠ [])
    (h : adoptAll .initial adoptions = .ok lex) :
    ∃ i, (new lex size).value = (lex, .ok i) ∧ i.size = size ∧ i.robot = .initial ∧
      ∀ w k a, lex.kind? w = some k → k.IsSingleWord a →
        (∃ l, latest? adoptions k = some l ∧ lex.kind? l = some k) ∧
        (lex.summon [w]).value =
          (lex, .ok (if latest? adoptions k = some w then .command (.single k a w)
            else .declined "Command validation failed".toList)) ∧
        ∀ r : Robot, r.placed = true → Placement.read? w = none →
          (({ i with robot := r } : Interpreter).process lex (some w)).value =
            if latest? adoptions k = some w then
              ({ i with robot := r } : Interpreter).answerOf lex (.single k a w)
            else (lex, { i with robot := r }, .refused .unknown) := by
  have hlex : Tidy lex := Lexicon.tidy_initial.adoptAll hnames h
  have hnew : (new lex size).value =
      (lex, .ok ⟨size, ⟨Transitions.rowsOf lex lex.sortedKeys⟩, .initial⟩) := by
    rw [new, if_neg (by omega), Logged.value_bind, Transitions.value_build hlex]
    rfl
  refine ⟨_, hnew, rfl, rfl, ?_⟩
  intro w k a hw hk
  obtain ⟨l, hl⟩ := hlex.labelled hw
  have hlatest : latest? adoptions k = some l := by
    rw [← hl, Lexicon.label?_adoptAll k h]
    rfl
  have hserved : latest? adoptions k = some w ↔ w = l := by
    rw [hlatest, Option.some.injEq, eq_comm]
  simp only [hserved]
  refine ⟨⟨l, hlatest, hlex.kind?_label hl⟩, hlex.summon hw hk hl, ?_⟩
  intro r hr hread
  apply process_keyword_of_entry hlex hw hk hl _ hread
  simp only [hr, Transitions.entry_of_kind? hw hk]

end

/-- A robot steps to a keyword that its kind was adopted under, here in a spelling with a
ligature. -/
theorem latest_keywords_answer_ligature :
    (1 : Int) ≤ 6 ∧ ∃ adoptions lex i, adoptions = [("\ufb06ep".toList, Kind.builtin .move)] ∧
      (∀ e ∈ adoptions, trim e.1 = e.1 ∧ e.1 ≠ []) ∧ adoptAll .initial adoptions = .ok lex ∧
      (new lex 6).value = (lex, .ok i) ∧ lex.kind? "STEP".toList = some (.builtin .move) ∧
      (lex.summon ["STEP".toList]).value =
        (lex, .ok (.command (.single (.builtin .move) (.builtin .move) "STEP".toList))) ∧
      (({ i with robot := ⟨true, ⟨1, 1⟩, .east⟩ } : Interpreter).process lex
        (some "STEP".toList)).value =
          (lex, { i with robot := ⟨true, ⟨2, 1⟩, .east⟩ }, .moved ⟨2, 1⟩) := by
  have hsize : (1 : Int) ≤ 6 := by decide
  have hnames : ∀ e ∈ [("\ufb06ep".toList, Kind.builtin .move)], trim e.1 = e.1 ∧ e.1 ≠ [] := by
    decide +kernel
  obtain ⟨lex, hadopt, hkind⟩ :
      ∃ lex, adoptAll .initial [("\ufb06ep".toList, .builtin .move)] = .ok lex ∧
        lex.kind? "STEP".toList = some (.builtin .move) := ⟨_, rfl, rfl⟩
  have hlatest : latest? [("\ufb06ep".toList, Kind.builtin .move)] (.builtin .move) =
      some "STEP".toList := by
    decide +kernel
  have hread : Placement.read? "STEP".toList = none := by decide +kernel
  obtain ⟨i, hnew, hisize, -, hkeywords⟩ := latest_keywords_answer hsize hnames hadopt
  obtain ⟨-, hsummon, hprocess⟩ := hkeywords _ _ _ hkind (.builtin (by decide))
  refine ⟨hsize, _, lex, i, rfl, hnames, hadopt, hnew, hkind, ?_, ?_⟩
  · rw [hsummon, if_pos hlatest]
  · rw [hprocess _ rfl hread, if_pos hlatest, answerOf, hisize]
    rfl

/-- Adopted under a second keyword, steps are not made by the first any more, although it still
means them. -/
theorem first_keyword_refused :
    ∃ lex i, adoptAll .initial [("STEP".toList, .builtin .move)] = .ok lex ∧
      lex.kind? "MOVE".toList = some (.builtin .move) ∧
      (lex.summon ["MOVE".toList]).value =
        (lex, .ok (.declined "Command validation failed".toList)) ∧
      (new lex 6).value = (lex, .ok i) ∧
      (({ i with robot := ⟨true, ⟨1, 1⟩, .east⟩ } : Interpreter).process lex
        (some "MOVE".toList)).value =
          (lex, { i with robot := ⟨true, ⟨1, 1⟩, .east⟩ }, .refused .unknown) := by
  exact ⟨_, _, rfl, rfl, rfl, rfl, rfl⟩

end Interpreter

end TableRobot
