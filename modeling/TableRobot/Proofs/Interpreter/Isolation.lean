import TableRobot.Proofs.Interpreter.Refinement
import TableRobot.Proofs.Interpreter.Rejection
import TableRobot.Proofs.Lexicon.Operations
/-!
# Interpreters apart from their lexicon

An interpreter takes its transitions from the lexicon once, while placements go
through the lexicon as it is.  If only built-in kinds were bound when the
interpreter was made, nothing that is done with the lexicon later reaches its
answers, with one exception: a placement has the lexicon discovered, and where
another kind has taken a built-in keyword the discovery fails and the placement
with it.
-/

namespace TableRobot

open Lexicon (AtHome Blocked Loyal Operation OwnNames Reached Settles rival?_eq_some_iff
  settles_of_discovered)
open Text (isAllBlank trim)

/-! ## Placements -/

def isPlacement (raw : Option Text) : Bool := (raw.bind Placement.read?).isSome

theorem exists_read?_of_isPlacement {raw : Option Text} (h : isPlacement raw = true) :
    ∃ t p, raw = some t ∧ isAllBlank t = false ∧ Placement.read? (trim t) = some p := by
  obtain ⟨p, hp⟩ := Option.isSome_iff_exists.1 h
  obtain ⟨t, rfl, ht⟩ := Option.bind_eq_some_iff.1 hp
  exact ⟨t, p, rfl, Placement.isAllBlank_of_read? ht, (Placement.read?_trim t).trans ht⟩

namespace Reference

theorem refuse_ne_crashed {r : Robot} {message : Text} (h : message ≠ Refusal.crashed.message) :
    (refuse r message).2 ≠ .refused .crashed :=
  fun heq => h (congrArg Outcome.message heq)

theorem AnswersPlacement.ne_crashed {size : Int} {r : Robot} {p : Placement}
    {a : Robot × Outcome} (h : AnswersPlacement size r p a) : a.2 ≠ .refused .crashed := by
  cases h with
  | unread => exact refuse_ne_crashed (by decide +kernel)
  | outside => exact refuse_ne_crashed (by decide +kernel)
  | unspelt => exact refuse_ne_crashed (by decide +kernel)
  | unturned => exact refuse_ne_crashed (by decide +kernel)
  | put =>
      intro h
      cases congrArg Outcome.success h

end Reference

/-! ## Rows -/

theorem Transitions.kind?_of_mem_rowsFor {lex : Lexicon} {ws : List Text}
    {rows : List (Text × Kind)} (h : rowsFor lex ws = .ok rows) {e : Text × Kind}
    (he : e ∈ rows) : lex.kind? (Text.capitals e.1) = some e.2 := by
  induction ws generalizing rows with
  | nil =>
      obtain rfl := Except.ok.inj h
      cases he
  | cons w ws ih =>
      unfold rowsFor at h
      split at h
      · exact ih h he
      · next k hk =>
          split at h
          · cases h
          · cases hrest : rowsFor lex ws with
            | error fault =>
                rw [hrest] at h
                cases h
            | ok rest =>
                rw [hrest] at h
                obtain rfl := Except.ok.inj h
                rcases List.mem_cons.1 he with rfl | he
                · exact hk
                · exact ih hrest he
          · exact ih h he

namespace Interpreter

variable {lex made settled : Lexicon} {i j : Interpreter} {size : Int}

def RunsBuiltins (i : Interpreter) : Prop :=
  ∀ placed w k, i.transitions.entry placed w = .run k → ∃ b : Builtin, k = .builtin b

/-- The lexicon that an interpreter was made with is read for its rows, so an interpreter among
built-in kinds runs nothing else. -/
theorem runsBuiltins_of_new (hnew : (new lex size).value = (made, .ok i))
    (honly : ∀ w k, made.kind? w = some k → ∃ b : Builtin, w = b.keyword ∧ k = .builtin b) :
    RunsBuiltins i := by
  intro placed w k hentry
  obtain ⟨-, hrows⟩ := rows_of_new hnew
  unfold Transitions.entry at hentry
  split at hentry
  · next q hq =>
      have hkind := Transitions.kind?_of_mem_rowsFor hrows (Lexicon.mem_of_lookup hq)
      obtain ⟨b, -, rfl⟩ := honly _ _ hkind
      unfold Transitions.ofKind at hentry
      split at hentry
      · cases hentry
      · cases hentry
        exact ⟨b, rfl⟩
  · cases hentry

/-- Holds of a lexicon in which a kind that is not built in has a built-in keyword, as long as it
has not been discovered. -/
def TakenOver (lex : Lexicon) : Prop :=
  lex.discovered = false ∧
    ∃ (b : Builtin) (k : Kind), lex.kind? b.keyword = some k ∧ ∀ c : Builtin, k ≠ .builtin c

theorem blocked_iff_takenOver (hlex : Loyal lex) (h : AtHome lex) :
    lex.Blocked ↔ TakenOver lex := by
  constructor
  · rintro ⟨hdiscovered, b, k, hrival⟩
    obtain ⟨hk, hne⟩ := rival?_eq_some_iff.1 hrival
    refine ⟨hdiscovered, b, k, hk, ?_⟩
    rintro c rfl
    obtain rfl := h c b hk
    exact hne (hlex.made c) rfl
  · rintro ⟨hdiscovered, b, k, hk, hne⟩
    exact ⟨hdiscovered, b, k, rival?_eq_some_iff.2 ⟨hk, fun _ => hne b⟩⟩

section

variable [Routines]

/-! ## Texts -/

theorem process_fst_of_discovered (i : Interpreter) (h : lex.discovered = true)
    (raw : Option Text) : (i.process lex raw).value.1 = lex := by
  rcases i.process_fst lex raw with hnext | hnext
  · exact hnext
  · rw [hnext, (settles_of_discovered h).value_discover]

theorem loyal_process (h : Loyal lex) (i : Interpreter) (raw : Option Text) :
    Loyal (i.process lex raw).value.1 := by
  rcases i.process_fst lex raw with hnext | hnext
  · rwa [hnext]
  · rw [hnext]
    exact h.discover

theorem atHome_process (h : AtHome lex) (hnames : OwnNames lex) (i : Interpreter)
    (raw : Option Text) : AtHome (i.process lex raw).value.1 := by
  rcases i.process_fst lex raw with hnext | hnext
  · rwa [hnext]
  · rw [hnext]
    exact h.discover hnames

theorem dispatchKeyword_of_ownNames (hi : RunsBuiltins i) (hlex : OwnNames lex)
    (hmade : OwnNames made) (w : Text) : i.dispatchKeyword lex w = i.dispatchKeyword made w := by
  rw [dispatchKeyword, dispatchKeyword]
  cases hentry : i.transitions.entry i.robot.placed w with
  | refuse reason => rfl
  | run k =>
      obtain ⟨b, rfl⟩ := hi _ _ _ hentry
      simp only [hlex.newCommand, hmade.newCommand]

theorem value_dispatchPlacement_of_loyal (h : Loyal lex) (hfree : ¬lex.Blocked) {cmd : Text}
    {p : Placement} (hp : Placement.read? cmd = some p) :
    (i.dispatchPlacement lex p).value.2 = .ok (Reference.place i.size i.robot p) := by
  obtain ⟨settled, hsettles, hsettled⟩ := h.exists_settles hfree
  have hplace := hsettled.kind?_keyword hsettles.discovered .place
  rw [dispatchPlacement_of_settles hsettled.ownNames hsettles hplace hp]

theorem process_of_blocked (h : Loyal lex) (hblocked : lex.Blocked) {raw : Option Text}
    (hraw : isPlacement raw = true) : (i.process lex raw).value.2 = (i, .refused .crashed) := by
  obtain ⟨t, p, rfl, hblank, hp⟩ := exists_read?_of_isPlacement hraw
  obtain ⟨-, b, k, -, hfault⟩ := h.exists_fault hblocked
  have hsummon : (lex.summon p.parts).value.2 = .error _ :=
    Lexicon.value_afterDiscovery_of_fault hfault _
  apply process_of_fault hblank
  rw [dispatch, hp]
  simp only [dispatchPlacement, Logged.value_bind]
  cases hresult : (lex.summon p.parts).value with
  | mk next result =>
      rw [hresult] at hsummon
      obtain rfl := hsummon
      rfl

theorem process_of_free (hi : RunsBuiltins i) (hlex : Loyal lex) (hmade : Loyal made)
    (hdiscovered : made.discovered = true) {raw : Option Text}
    (hfree : ¬(isPlacement raw = true ∧ lex.Blocked)) :
    (i.process lex raw).value.2 = (i.process made raw).value.2 := by
  cases raw with
  | none => rfl
  | some t =>
      apply process_congr
      rw [dispatch, dispatch]
      cases hp : Placement.read? (trim t) with
      | none =>
          simp only [Logged.value_bind, Logged.value_pure,
            dispatchKeyword_of_ownNames hi hlex.ownNames hmade.ownNames]
      | some p =>
          have hplacement : isPlacement (some t) = true := by
            rw [isPlacement, Option.bind_some, ← Placement.read?_trim, hp]
            rfl
          have hmadefree : ¬made.Blocked := by
            rintro ⟨hmade, -⟩
            exact Bool.false_ne_true (hmade.symm.trans hdiscovered)
          rw [value_dispatchPlacement_of_loyal hlex (fun h => hfree ⟨hplacement, h⟩) hp,
            value_dispatchPlacement_of_loyal hmade hmadefree hp]

theorem process_ne_crashed (h : Loyal lex) (hfree : ¬lex.Blocked) {raw : Option Text}
    (hraw : isPlacement raw = true) : (i.process lex raw).value.2.2 ≠ .refused .crashed := by
  obtain ⟨t, p, rfl, hblank, hp⟩ := exists_read?_of_isPlacement hraw
  have hdispatch : (i.dispatch lex (trim t)).value.2 =
      .ok (Reference.place i.size i.robot p) := by
    rw [dispatch, hp]
    exact value_dispatchPlacement_of_loyal h hfree hp
  rw [i.value_process lex hblank, hdispatch]
  exact (Reference.answersPlacement_place _ _ _).ne_crashed

/-! ## Runs beside a busy lexicon -/

structure Answered where
  raw : Option Text
  lexicon : Lexicon
  outcome : Outcome

/-- Holds of all texts but placements that crashed. -/
def Answered.survives (a : Answered) : Bool :=
  !(isPlacement a.raw && a.outcome == .refused .crashed)

/-- Holds of the texts that an interpreter has processed, the lexicon and the interpreter at each
point of a run that begins with the making of the interpreter and in which operations on the
lexicon stand between the texts in any number. -/
inductive Interleaving (made : Lexicon) (i : Interpreter) :
    List Answered → Lexicon → Interpreter → Prop where
  | start : Interleaving made i [] made i
  | operation {calls : List Answered} {lex : Lexicon} {j : Interpreter}
      (h : Interleaving made i calls lex j) (op : Operation) (hop : op.IsProper) :
      Interleaving made i calls (lex.after op) j
  | text {calls : List Answered} {lex : Lexicon} {j : Interpreter}
      (h : Interleaving made i calls lex j) (raw : Option Text) :
      Interleaving made i (calls ++ [⟨raw, lex, (j.process lex raw).value.2.2⟩])
        (j.process lex raw).value.1 (j.process lex raw).value.2.1

structure Aside (made : Lexicon) (i : Interpreter) (calls : List Answered) (lex : Lexicon)
    (j : Interpreter) : Prop where
  loyal : Loyal lex
  atHome : AtHome lex
  robot : ∃ r, j = { i with robot := r }
  lost : ∀ a ∈ calls, isPlacement a.raw = true →
    (a.outcome = .refused .crashed ↔ TakenOver a.lexicon)
  kept : (i.processAll made ((calls.filter Answered.survives).map Answered.raw)).value =
    (made, j, (calls.filter Answered.survives).map Answered.outcome)

theorem Aside.operation {calls : List Answered} (h : Aside made i calls lex j) {op : Operation}
    (hop : op.IsProper) : Aside made i calls (lex.after op) j where
  loyal := h.loyal.leaves (lex.leaves_after op) hop.not_renames
  atHome := h.atHome.leaves h.loyal.ownNames (lex.leaves_after op) hop
  robot := h.robot
  lost := h.lost
  kept := h.kept

theorem Aside.text {calls : List Answered} (h : Aside made i calls lex j)
    (hi : RunsBuiltins i) (hmade : Loyal made) (hdiscovered : made.discovered = true)
    (raw : Option Text) :
    Aside made i (calls ++ [⟨raw, lex, (j.process lex raw).value.2.2⟩])
      (j.process lex raw).value.1 (j.process lex raw).value.2.1 := by
  have hj : RunsBuiltins j := by
    obtain ⟨r, rfl⟩ := h.robot
    exact hi
  have hrobot : ∃ r, (j.process lex raw).value.2.1 = { i with robot := r } := by
    obtain ⟨r, rfl⟩ := h.robot
    exact exists_robot_process _ lex raw
  have hloyal : Loyal (j.process lex raw).value.1 := loyal_process h.loyal j raw
  have hhome : AtHome (j.process lex raw).value.1 := atHome_process h.atHome h.loyal.ownNames j raw
  by_cases hlost : isPlacement raw = true ∧ lex.Blocked
  · obtain ⟨hraw, hblocked⟩ := hlost
    have hprocess := process_of_blocked (i := j) h.loyal hblocked hraw
    have hcrash : (j.process lex raw).value.2.2 = .refused .crashed := congrArg Prod.snd hprocess
    have htaken : TakenOver lex := (blocked_iff_takenOver h.loyal h.atHome).1 hblocked
    refine ⟨hloyal, hhome, hrobot, ?_, ?_⟩
    · apply List.forall_mem_append.2 ⟨h.lost, List.forall_mem_singleton.2 ?_⟩
      intro _
      exact iff_of_true hcrash htaken
    · have hdrop : Answered.survives ⟨raw, lex, .refused .crashed⟩ = false := by
        simp [Answered.survives, hraw]
      rw [hcrash, List.filter_append, List.filter_cons_of_neg (by simp [hdrop]), List.filter_nil,
        List.append_nil, hprocess]
      exact h.kept
  · have hprocess := process_of_free hj h.loyal hmade hdiscovered hlost
    have hsurvives : isPlacement raw = true → (j.process lex raw).value.2.2 ≠ .refused .crashed :=
      fun hraw => process_ne_crashed h.loyal (fun hblocked => hlost ⟨hraw, hblocked⟩) hraw
    refine ⟨hloyal, hhome, hrobot, ?_, ?_⟩
    · apply List.forall_mem_append.2 ⟨h.lost, List.forall_mem_singleton.2 ?_⟩
      intro hraw
      apply iff_of_false (hsurvives hraw)
      intro htaken
      exact hlost ⟨hraw, (blocked_iff_takenOver h.loyal h.atHome).2 htaken⟩
    · have hkeep : Answered.survives ⟨raw, lex, (j.process lex raw).value.2.2⟩ = true := by
        cases hraw : isPlacement raw with
        | true => simp [Answered.survives, hsurvives hraw]
        | false => simp [Answered.survives, hraw]
      have hstays := process_fst_of_discovered j hdiscovered raw
      rw [List.filter_append, List.filter_cons_of_pos hkeep, List.filter_nil,
        List.map_append, List.map_append, value_processAll_append, h.kept]
      simp only [List.map_cons, List.map_nil, processAll, Logged.value_bind, Logged.value_map,
        Logged.value_pure, hstays, hprocess]

theorem Interleaving.aside {calls : List Answered} (h : Interleaving made i calls lex j)
    (hi : RunsBuiltins i) (hmade : Loyal made) (hhome : AtHome made)
    (hdiscovered : made.discovered = true) : Aside made i calls lex j := by
  induction h with
  | start =>
      refine ⟨hmade, hhome, ⟨i.robot, rfl⟩, ?_, rfl⟩
      intro a ha
      cases ha
  | operation h op hop ih => exact ih.operation hop
  | text h raw ih => exact ih.text hi hmade hdiscovered raw

/-- An interpreter that was made while nothing but the built-in kinds was bound.  Between its
texts anything may be done with the lexicon, as long as the built-in kinds keep their names and
take no keywords from each other.  A text then has the outcome and the effect that it has with
the lexicon as it was at the making, and so has the whole run, but for placements that come while
discovery has not been made and a kind that is not built in has taken a built-in keyword: these
crash and change nothing, and no other placement crashes. -/
theorem texts_are_isolated_from_lexicon (hreached : Reached lex)
    (hnew : (new lex size).value = (made, .ok i))
    (honly : ∀ w k, made.kind? w = some k → ∃ b : Builtin, w = b.keyword ∧ k = .builtin b)
    {calls : List Answered} {later : Lexicon} (h : Interleaving made i calls later j) :
    (∀ raw, isPlacement raw = true → TakenOver later →
        (j.process later raw).value.2 = (j, .refused .crashed)) ∧
      (∀ raw, ¬(isPlacement raw = true ∧ TakenOver later) →
        (j.process later raw).value.2 = (j.process made raw).value.2) ∧
      (∀ a ∈ calls, isPlacement a.raw = true →
        (a.outcome = .refused .crashed ↔ TakenOver a.lexicon)) ∧
      (i.processAll made ((calls.filter Answered.survives).map Answered.raw)).value =
        (made, j, (calls.filter Answered.survives).map Answered.outcome) := by
  have hi := runsBuiltins_of_new hnew honly
  obtain ⟨hsettles, -⟩ := rows_of_new hnew
  have hmade : Loyal made := by
    have hdiscover := hreached.loyal.discover
    rwa [hsettles.value_discover] at hdiscover
  have hhome : AtHome made := by
    intro b c hc
    obtain ⟨d, hd, hbd⟩ := honly _ _ hc
    cases hbd
    exact (Builtin.eq_of_keyword_eq hd).symm
  have haside := h.aside hi hmade hhome hsettles.discovered
  have hj : RunsBuiltins j := by
    obtain ⟨r, rfl⟩ := haside.robot
    exact hi
  have htaken := blocked_iff_takenOver haside.loyal haside.atHome
  refine ⟨fun raw hraw hlater => ?_, fun raw hfree => ?_, haside.lost, haside.kept⟩
  · exact process_of_blocked haside.loyal (htaken.2 hlater) hraw
  · apply process_of_free hj haside.loyal hmade hsettles.discovered
    rwa [htaken]

end

/-- Between two texts the bindings are cleared and the keyword of reports is taken: from then on a
placement crashes, while steps are made as before. -/
theorem texts_are_isolated_from_lexicon_report_taken :
    (new .initial 6).value = (.initial, .ok (standard 6 .initial)) ∧
      (∀ w k, Lexicon.initial.kind? w = some k →
        ∃ b : Builtin, w = b.keyword ∧ k = .builtin b) ∧
      ∃ calls later, Interleaving .initial (standard 6 .initial) calls later
          (standard 6 ⟨true, ⟨1, 1⟩, .east⟩) ∧
        calls.map Answered.outcome = [.placed ⟨1, 1⟩ .east] ∧ TakenOver later ∧
        ((standard 6 ⟨true, ⟨1, 1⟩, .east⟩).process later (some "PLACE 0,0".toList)).value.2 =
          (standard 6 ⟨true, ⟨1, 1⟩, .east⟩, .refused .crashed) ∧
        ((standard 6 ⟨true, ⟨1, 1⟩, .east⟩).process later (some "move".toList)).value.2 =
          ((standard 6 ⟨true, ⟨1, 1⟩, .east⟩).process .initial (some "move".toList)).value.2 := by
  have hnew : (new .initial 6).value = (.initial, .ok (standard 6 .initial)) :=
    new_initial (by decide)
  have honly : ∀ w k, Lexicon.initial.kind? w = some k →
      ∃ b : Builtin, w = b.keyword ∧ k = .builtin b :=
    fun w k => Lexicon.exists_builtin_of_kind?
  have hplaced : ((standard 6 .initial).process .initial (some "PLACE 1,1,EAST".toList)).value =
      (.initial, standard 6 ⟨true, ⟨1, 1⟩, .east⟩, .placed ⟨1, 1⟩ .east) := by
    decide +kernel
  have hstart : Interleaving .initial (standard 6 .initial) [] .initial (standard 6 .initial) :=
    .start
  have htext := hstart.text (some "PLACE 1,1,EAST".toList)
  rw [hplaced] at htext
  have hadopt : (Operation.adopt "report".toList Lexicon.walker).IsProper := by
    intro b hb
    exact absurd hb (Lexicon.walker_ne_builtin b)
  have hbusy := (htext.operation .clear trivial).operation _ hadopt
  have htaken : TakenOver ((Lexicon.initial.after .clear).after
      (.adopt "report".toList Lexicon.walker)) :=
    ⟨rfl, .report, Lexicon.walker, rfl, Lexicon.walker_ne_builtin⟩
  obtain ⟨hlost, hkept, -, -⟩ :=
    texts_are_isolated_from_lexicon .start hnew honly hbusy
  refine ⟨hnew, honly, _, _, hbusy, rfl, htaken, hlost _ ?_ htaken, hkept _ ?_⟩
  · decide +kernel
  · rintro ⟨hplacement, -⟩
    revert hplacement
    decide +kernel

end Interpreter

end TableRobot
