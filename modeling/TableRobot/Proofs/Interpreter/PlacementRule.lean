import TableRobot.Proofs.Interpreter.Isolation
import TableRobot.Proofs.Interpreter.Keywords
import TableRobot.Proofs.Lexicon.FirstWins
/-!
# The placement rule

What an interpreter does about a text is settled before anything is executed:
either it answers at once or it has a command to execute.  Commands come from
two sides.  Keywords are looked up in the transitions, which leave out the
kinds that take arguments and, before the robot has been placed, those that
need it to be.  Placements go through the lexicon, and there the keyword of
placements belongs to the built-in kind or discovery has failed.  So the rule
holds for all kinds, whatever is bound before or after the interpreter is made.
-/

namespace TableRobot

open Lexicon (Loyal Operation Reached Settles WellKeyed)
open Text (capitals isAllBlank trim)

/-! ## Kinds of commands -/

namespace Command

variable {c : Command} {k : Kind} {name : Text}

theorem kind_of_new (h : Command.new k name = .ok c) : c.kind = k := by
  unfold Command.new at h
  split at h
  · exact Except.ok.inj h ▸ rfl
  · split at h
    · exact Except.ok.inj h ▸ rfl
    · cases h
  · cases h

theorem kind_examinePlacement (c : Command) (words : List Text) :
    (c.examinePlacement words).1.kind = c.kind := by
  unfold examinePlacement
  split
  · rfl
  · split
    · rfl
    · split
      · simp only
        split <;> rfl
      · rfl
      · rfl

theorem kind_respond (c : Command) (reply : Reply) : (c.respond reply).1.kind = c.kind := by
  cases reply <;> rfl

variable [Routines]

theorem kind_examine (c : Command) (words : List Text) :
    (c.examine words).1.kind = c.kind := by
  unfold examine
  cases c.matching with
  | keyword => rfl
  | placement => exact c.kind_examinePlacement words
  | accept => exact c.kind_respond _
  | decline reason => exact c.kind_respond _
  | throw message => exact c.kind_respond _
  | spoil message => exact c.kind_respond _
  | coded routine => exact c.kind_respond _

/-- A match may spoil a command, but it does not make another kind of it. -/
theorem kind_attempt (c : Command) (words : List Text) :
    (c.attempt words).1.kind = c.kind := by
  have hexamine := c.kind_examine words
  rw [attempt]
  cases hresult : c.examine words with
  | mk d verdict =>
      rw [hresult] at hexamine
      cases verdict with
      | ok verdict => exact hexamine
      | error fault => exact hexamine

end Command

/-! ## Rows of kinds -/

namespace Transitions

variable {lex : Lexicon} {t : Transitions} {ws : List Text} {rows : List (Text × Kind)}
  {placed : Bool} {w : Text} {k : Kind}

theorem rowsFor_cons_ok (h : rowsFor lex (w :: ws) = .ok rows) :
    (∀ k, lex.kind? (capitals w) = some k → k.isCommand = true) ∧
      ∃ rest, rowsFor lex ws = .ok rest := by
  unfold rowsFor at h
  split at h
  · next hw =>
      refine ⟨fun k hk => ?_, rows, h⟩
      cases hw.symm.trans hk
  · next q hw =>
      have hq : q.isCommand = true := by
        cases q with
        | builtin b => rfl
        | custom c => rfl
        | outsider title => cases h
      refine ⟨fun k hk => ?_, ?_⟩
      · obtain rfl := Option.some.inj (hw.symm.trans hk)
        exact hq
      · rw [admits_of_isCommand hq] at h
        cases hrest : rowsFor lex ws with
        | ok rest => exact ⟨rest, rfl⟩
        | error fault =>
            rw [hrest] at h
            cases hflag : q.takesArguments with
            | true =>
                rw [hflag] at h
                cases h
            | false =>
                rw [hflag] at h
                cases h

theorem isCommand_of_rowsFor (h : rowsFor lex ws = .ok rows) :
    ∀ w ∈ ws, ∀ k, lex.kind? (capitals w) = some k → k.isCommand = true := by
  induction ws generalizing rows with
  | nil => exact List.forall_mem_nil _
  | cons v ws ih =>
      obtain ⟨hv, rest, hrest⟩ := rowsFor_cons_ok h
      exact List.forall_mem_cons.2 ⟨hv, ih hrest⟩

theorem lookup_rows (hlex : WellKeyed lex.bindings)
    (h : rowsFor lex lex.sortedKeys = .ok rows) (w : Text) : rows.lookup w = rowKind? lex w := by
  have hcapitals : ∀ v ∈ lex.sortedKeys, capitals v = v := by
    intro v hv
    obtain ⟨k, hk⟩ := Lexicon.mem_sortedKeys.1 hv
    exact hlex.capitals_eq_of_kind? hk
  have hrows := rowsFor_eq hcapitals fun v hv k hk =>
    isCommand_of_rowsFor h v hv k (by rwa [hcapitals v hv])
  obtain rfl := Except.ok.inj (h.symm.trans hrows)
  rw [lookup_rowsOf]
  by_cases hw : w ∈ lex.sortedKeys
  · rw [if_pos hw]
  · have hnone : lex.kind? w = none := by
      apply Option.eq_none_iff_forall_ne_some.2
      intro k hk
      exact hw (Lexicon.mem_sortedKeys.2 ⟨k, hk⟩)
    rw [if_neg hw, rowKind?, hnone]
    rfl

theorem ofKind_eq_run_iff {q : Kind} :
    ofKind placed q = .run k ↔ q = k ∧ (placed = true ∨ k.needsPlacement = false) := by
  unfold ofKind
  split
  · next hguard =>
      rw [Bool.and_eq_true, Bool.not_eq_true'] at hguard
      apply iff_of_false
      · intro h
        cases h
      · rintro ⟨rfl, hplaced | hneeds⟩
        · exact Bool.false_ne_true (hguard.1.symm.trans hplaced)
        · exact Bool.false_ne_true (hneeds.symm.trans hguard.2)
  · next hguard =>
      have hfree : placed = true ∨ q.needsPlacement = false := by
        cases placed with
        | true => exact .inl rfl
        | false => exact .inr (by simpa using hguard)
      constructor
      · intro h
        cases h
        exact ⟨rfl, hfree⟩
      · rintro ⟨rfl, -⟩
        rfl

theorem entry_eq_run_iff (h : ∀ w, t.rows.lookup w = rowKind? lex w) :
    t.entry placed w = .run k ↔ lex.kind? w = some k ∧ k.takesArguments = false ∧
      (placed = true ∨ k.needsPlacement = false) := by
  have hrow : ∀ q, rowKind? lex w = some q ↔ lex.kind? w = some q ∧ q.takesArguments = false := by
    intro q
    rw [rowKind?, Option.filter_eq_some_iff, Bool.not_eq_true']
  rw [entry, h, ← and_assoc, ← hrow]
  cases rowKind? lex w with
  | none => simp
  | some q => rw [ofKind_eq_run_iff, Option.some.injEq]

theorem entry_eq_refuse (h : ∀ k, t.entry placed w ≠ .run k) :
    t.entry placed w = .refuse (fallback placed) := by
  unfold entry at h ⊢
  split
  · next k hk =>
      rw [hk] at h
      unfold ofKind at h ⊢
      split
      · next hguard =>
          rw [Bool.and_eq_true, Bool.not_eq_true'] at hguard
          rw [hguard.1]
          rfl
      · next hguard => exact absurd (if_neg hguard) (h k)
  · rfl

end Transitions

namespace Interpreter

variable {lex made : Lexicon} {i j : Interpreter} {size : Int}

/-! ## Plans -/

/-- What is to be done about a text: it is answered at once, or a command is executed. -/
inductive Plan where
  | answer (o : Outcome)
  | execute (c : Command)

section

variable [Routines]

def planPlacement (lex : Lexicon) (p : Placement) : Logged (Lexicon × Except Fault Plan) := do
  match ← lex.summon p.parts with
  | (lex, .error fault) => pure (lex, .error fault)
  | (lex, .ok .unknown) => pure (lex, .ok (.answer (.refused .unknown)))
  | (lex, .ok (.declined reason)) => pure (lex, .ok (.answer (.failed reason)))
  | (lex, .ok (.command c)) => pure (lex, .ok (.execute c))

def planKeyword (i : Interpreter) (lex : Lexicon) (keyword : Text) : Except Fault Plan :=
  match i.transitions.entry i.robot.placed keyword with
  | .refuse r => .ok (.answer (.refused r))
  | .run k =>
      match lex.newCommand k with
      | .error fault => .error fault
      | .ok c =>
          match c.attempt [keyword] with
          | (c, .accepted) => .ok (.execute c)
          | (_, .declined reason) =>
              .ok (.answer (.failed (Lexicon.Summons.reason reason Refusal.unknown.message)))

def plan (i : Interpreter) (lex : Lexicon) (cmd : Text) :
    Logged (Lexicon × Except Fault Plan) :=
  match Placement.read? cmd with
  | some p => planPlacement lex p
  | none => pure (lex, i.planKeyword lex (keywordOf cmd))

def follow (i : Interpreter) : Except Fault Plan → Logged (Except Fault (Robot × Outcome))
  | .error fault => pure (.error fault)
  | .ok (.answer o) => pure (.ok (i.robot, o))
  | .ok (.execute c) => i.run c

theorem dispatchPlacement_eq_plan (i : Interpreter) (lex : Lexicon) (p : Placement) :
    i.dispatchPlacement lex p = (do
      let (lex, plan) ← planPlacement lex p
      let result ← i.follow plan
      pure (lex, result)) := by
  rw [dispatchPlacement, planPlacement, bind_assoc]
  congr 1
  funext answer
  obtain ⟨lex, result⟩ := answer
  cases result with
  | error fault => rfl
  | ok summons => cases summons <;> rfl

theorem dispatchKeyword_eq_plan (i : Interpreter) (lex : Lexicon) (keyword : Text) :
    i.dispatchKeyword lex keyword = i.follow (i.planKeyword lex keyword) := by
  unfold dispatchKeyword planKeyword
  cases i.transitions.entry i.robot.placed keyword with
  | refuse r => rfl
  | run k =>
      cases hnew : lex.newCommand k with
      | error fault =>
          simp only [hnew]
          rfl
      | ok c =>
          simp only [hnew]
          cases c.attempt [keyword] with
          | mk c verdict => cases verdict <;> rfl

/-- Texts are dispatched in two steps: the plan is made, and then a command is executed if the plan
has one. -/
theorem dispatch_eq_plan (i : Interpreter) (lex : Lexicon) (cmd : Text) :
    i.dispatch lex cmd = (do
      let (lex, plan) ← i.plan lex cmd
      let result ← i.follow plan
      pure (lex, result)) := by
  rw [dispatch, plan]
  cases Placement.read? cmd with
  | some p => exact i.dispatchPlacement_eq_plan lex p
  | none => simp only [dispatchKeyword_eq_plan, pure_bind]

def planFor (i : Interpreter) (lex : Lexicon) (raw : Option Text) : Except Fault Plan :=
  match raw with
  | none => .ok (.answer (.refused .empty))
  | some t =>
      if isAllBlank t then .ok (.answer (.refused .empty)) else (i.plan lex (trim t)).value.2

theorem value_process_eq_plan (i : Interpreter) (lex : Lexicon) (raw : Option Text) :
    (i.process lex raw).value.2 = i.concluded (i.follow (i.planFor lex raw)).value := by
  cases raw with
  | none => rfl
  | some t =>
      rw [planFor]
      cases hblank : isAllBlank t with
      | true =>
          rw [i.value_process_of_blank lex hblank]
          rfl
      | false =>
          rw [i.value_process lex hblank, dispatch_eq_plan]
          rfl

/-! ## Both ways to a command -/

theorem entry_of_planKeyword {w : Text} {c : Command}
    (h : i.planKeyword lex w = .ok (.execute c)) :
    i.transitions.entry i.robot.placed w = .run c.kind := by
  unfold planKeyword at h
  split at h
  · cases h
  · next k hentry =>
      split at h
      · cases h
      · next d hnew =>
          have hkind := d.kind_attempt [w]
          split at h
          · next hattempt =>
              rw [hattempt, Command.kind_of_new hnew] at hkind
              cases h
              rw [hentry, hkind]
          · cases h

/-- With a loyal lexicon only the built-in kind of placements comes to be executed by a text that
has the shape of one. -/
theorem kind_of_planPlacement (hlex : Loyal lex) {p : Placement} {c : Command}
    (h : (planPlacement lex p).value.2 = .ok (.execute c)) : c.kind = .builtin .place := by
  have hsummon : (lex.summon p.parts).value.2 = .ok (.command c) := by
    simp only [planPlacement, Logged.value_bind] at h
    split at h
    · cases h
    · cases h
    · cases h
    · next hvalue =>
        cases h
        rw [hvalue]
  by_cases hblocked : lex.Blocked
  · obtain ⟨-, b, k, -, hfault⟩ := hlex.exists_fault hblocked
    have hnone : (lex.summon p.parts).value.2 = .error _ :=
      Lexicon.value_afterDiscovery_of_fault hfault _
    cases hnone.symm.trans hsummon
  · obtain ⟨settled, hsettles, hsettled⟩ := hlex.exists_settles hblocked
    have hplace : settled.kind? (capitals Placement.keyword) = some (.builtin .place) := by
      rw [Placement.capitals_keyword]
      exact hsettled.kind?_keyword hsettles.discovered .place
    obtain ⟨ws, hws⟩ := p.exists_parts
    rw [hws, hsettled.ownNames.value_summon hsettles hplace, Lexicon.Summons.ofBuiltin] at hsummon
    have hkind := (Command.fresh .place).kind_attempt (Placement.keyword :: ws)
    split at hsummon
    · next hattempt =>
        rw [hattempt] at hkind
        cases hsummon
        exact hkind
    · cases hsummon

theorem kind_or_entry_of_planFor (hlex : Loyal lex) {raw : Option Text} {c : Command}
    (h : i.planFor lex raw = .ok (.execute c)) :
    c.kind = .builtin .place ∨
      ∃ w, i.transitions.entry i.robot.placed w = .run c.kind := by
  unfold planFor at h
  split at h
  · cases h
  · next t =>
      split at h
      · cases h
      · rw [plan] at h
        cases hread : Placement.read? (trim t) with
        | some p =>
            rw [hread] at h
            exact .inl (kind_of_planPlacement hlex h)
        | none =>
            rw [hread] at h
            exact .inr ⟨_, entry_of_planKeyword h⟩

/-! ## Runs beside a shared lexicon -/

/-- Holds of the lexicon and the interpreter at each point of a run that begins with the making of
the interpreter.  Calls and operations on the lexicon follow each other in any order; no operation
gives a built-in kind another name. -/
inductive Underway (made : Lexicon) (i : Interpreter) : Lexicon → Interpreter → Prop where
  | start : Underway made i made i
  | operation {lex : Lexicon} {j : Interpreter} (h : Underway made i lex j) (op : Operation)
      (hop : ¬lex.Renames op) : Underway made i (lex.after op) j
  | call {lex : Lexicon} {j : Interpreter} (h : Underway made i lex j) (c : Call) :
      Underway made i (j.after lex c).1 (j.after lex c).2

theorem loyal_processAll (h : Loyal lex) (i : Interpreter) (raws : List (Option Text)) :
    Loyal (i.processAll lex raws).value.1 := by
  induction raws generalizing lex i with
  | nil => exact h
  | cons raw raws ih => exact ih (loyal_process h i raw) _

theorem transitions_process (i : Interpreter) (lex : Lexicon) (raw : Option Text) :
    (i.process lex raw).value.2.1.transitions = i.transitions := by
  obtain ⟨r, hr⟩ := i.exists_robot_process lex raw
  rw [hr]

theorem transitions_processAll (i : Interpreter) (lex : Lexicon) (raws : List (Option Text)) :
    (i.processAll lex raws).value.2.1.transitions = i.transitions := by
  induction raws generalizing lex i with
  | nil => rfl
  | cons raw raws ih => exact (ih _ _).trans (i.transitions_process lex raw)

namespace Underway

theorem loyal (h : Underway made i lex j) (hmade : Loyal made) : Loyal lex := by
  induction h with
  | start => exact hmade
  | operation h op hop ih => exact ih.leaves (Lexicon.leaves_after _ op) hop
  | call h c ih =>
      cases c with
      | process raw => exact loyal_process ih _ raw
      | processAll raws => exact loyal_processAll ih _ raws
      | reset => exact ih

theorem transitions (h : Underway made i lex j) : j.transitions = i.transitions := by
  induction h with
  | start => rfl
  | operation h op hop ih => exact ih
  | call h c ih =>
      cases c with
      | process raw => exact (transitions_process _ _ raw).trans ih
      | processAll raws => exact (transitions_processAll _ _ raws).trans ih
      | reset => exact ih

end Underway

/-- An interpreter made with a lexicon in which no built-in kind was given another name.  Its
transitions run a kind for a keyword exactly if the keyword meant that kind at the making, the kind
takes no arguments, and the robot has been placed or the kind does without; all else is refused,
before the placement for want of it.  The transitions stay, whatever is bound and processed
afterwards.  At any point there is a plan for a text, made without an execution, and what comes of
the text is what comes of following the plan.  A command that is planned is of a kind that does
without a placement unless the robot has been placed, and of a kind without arguments unless it is
the built-in kind of placements. -/
theorem commands_keep_placement_rule (hreached : Reached lex)
    (hnew : (new lex size).value = (made, .ok i)) :
    (∀ placed w k, i.transitions.entry placed w = .run k ↔
        made.kind? w = some k ∧ k.takesArguments = false ∧
          (placed = true ∨ k.needsPlacement = false)) ∧
      (∀ placed w, (∀ k, i.transitions.entry placed w ≠ .run k) →
        i.transitions.entry placed w = .refuse (if placed then .unknown else .notPlaced)) ∧
      ∀ later j, Underway made i later j →
        j.transitions = i.transitions ∧
        ∀ raw, (j.process later raw).value.2 =
            j.concluded (j.follow (j.planFor later raw)).value ∧
          ∀ c, j.planFor later raw = .ok (.execute c) →
            (j.robot.placed = false → c.kind.needsPlacement = false) ∧
              (c.kind.takesArguments = true → c.kind = .builtin .place) := by
  obtain ⟨hsettles, hrows⟩ := rows_of_new hnew
  have hmade : Loyal made := hreached.loyal.of_settles hsettles
  have hkeyed : WellKeyed made.bindings := hreached.wellKeyed.of_settles hsettles
  have hentry : ∀ placed w k, i.transitions.entry placed w = .run k ↔
      made.kind? w = some k ∧ k.takesArguments = false ∧
        (placed = true ∨ k.needsPlacement = false) :=
    fun placed w k => Transitions.entry_eq_run_iff (Transitions.lookup_rows hkeyed hrows)
  refine ⟨hentry, fun placed w => Transitions.entry_eq_refuse, fun later j hlater =>
    ⟨hlater.transitions, fun raw => ⟨j.value_process_eq_plan later raw, fun c hplan => ?_⟩⟩⟩
  rcases kind_or_entry_of_planFor (hlater.loyal hmade) hplan with hplace | ⟨w, hrun⟩
  · rw [hplace]
    exact ⟨fun _ => rfl, fun _ => rfl⟩
  · rw [hlater.transitions, hentry] at hrun
    obtain ⟨-, harguments, hplaced⟩ := hrun
    refine ⟨fun hunplaced => hplaced.resolve_left ?_, fun htakes => ?_⟩
    · rw [hunplaced]
      exact Bool.false_ne_true
    · rw [harguments] at htakes
      cases htakes

end

def beacon : Kind :=
  .custom ⟨"Beacon".toList, .keyword, some false, none, none, some (.succeed "Lit.".toList none)⟩

def cargo : Kind := .custom ⟨"Cargo".toList, .builtin .place, none, none, none, none⟩

/-- A beacon is lit before the robot has been placed, while steps have to wait.  Cargo is not taken
by keyword, and not as a placement either when it has been given that keyword. -/
theorem commands_keep_placement_rule_beacon :
    ∃ lex i later, Reached lex ∧ (new lex 6).value = (lex, .ok i) ∧
      lex.kind? "BEACON".toList = some beacon ∧ lex.kind? "CARGO".toList = some cargo ∧
      i.transitions.entry false "BEACON".toList = .run beacon ∧
      i.transitions.entry false "MOVE".toList = .refuse .notPlaced ∧
      i.transitions.entry true "CARGO".toList = .refuse .unknown ∧
      Underway lex i later i ∧ later.kind? Placement.keyword = some cargo ∧
      i.planFor later (some "beacon".toList) = .ok (.execute
        (.single beacon (.succeed "Lit.".toList none) "BEACON".toList)) ∧
      ∀ raw c, i.planFor later raw = .ok (.execute c) → c.kind ≠ cargo := by
  have hadopt : ∀ {lex : Lexicon} {name : Text} {c : Custom},
      ¬lex.Renames (.adopt name (.custom c)) := by
    intro lex name c
    have hproper : (Operation.adopt name (.custom c)).IsProper := by
      intro b hb
      cases hb
    exact hproper.not_renames
  have hclear : ∀ {lex : Lexicon}, ¬lex.Renames .clear := by
    intro lex
    have hproper : Operation.IsProper .clear := trivial
    exact hproper.not_renames
  have hreached := (Reached.start.next (.adopt "beacon".toList beacon) hadopt).next
    (.adopt "cargo".toList cargo) hadopt
  let made := (Lexicon.initial.after (.adopt "beacon".toList beacon)).after
    (.adopt "cargo".toList cargo)
  let i : Interpreter := ⟨6, ⟨[("BEACON".toList, beacon), ("LEFT".toList, .builtin .left),
    ("MOVE".toList, .builtin .move), ("REPORT".toList, .builtin .report),
    ("RIGHT".toList, .builtin .right)]⟩, .initial⟩
  have hnew : (new made 6).value = (made, .ok i) := rfl
  have hunderway : Underway made i
      ((made.after .clear).after (.adopt Placement.keyword cargo)) i :=
    (Underway.start.operation .clear hclear).operation _ hadopt
  obtain ⟨hrun, hrefuse, hlater⟩ := commands_keep_placement_rule hreached hnew
  obtain ⟨-, hplans⟩ := hlater _ _ hunderway
  refine ⟨made, i, _, hreached, hnew, rfl, rfl, (hrun false _ _).2 ⟨rfl, rfl, .inr rfl⟩,
    hrefuse false _ ?_, hrefuse true _ ?_, hunderway, rfl, rfl, ?_⟩
  · intro k hk
    obtain ⟨hmove, -, hneeds⟩ := (hrun _ _ _).1 hk
    have hmade : made.kind? "MOVE".toList = some (.builtin .move) := rfl
    obtain rfl := Option.some.inj (hmade.symm.trans hmove)
    cases hneeds with
    | inl hplaced => cases hplaced
    | inr hneeds => cases hneeds
  · intro k hk
    obtain ⟨hcargo, harguments, -⟩ := (hrun _ _ _).1 hk
    have hmade : made.kind? "CARGO".toList = some cargo := rfl
    obtain rfl := Option.some.inj (hmade.symm.trans hcargo)
    cases harguments
  · intro raw c hc hkind
    have hplace := ((hplans raw).2 c hc).2 (by rw [hkind]; rfl)
    cases hkind.symm.trans hplace

end Interpreter

end TableRobot
