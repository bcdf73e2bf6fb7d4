import TableRobot.Proofs.Interpreter.Runs
import TableRobot.Proofs.Lexicon.Discovery
/-!
# Rejections leave nothing behind

Whatever kinds are bound and whatever their routines do, a text that fails
leaves the interpreter as it was, a fault included.  Its only trace may be that
the lexicon has been discovered, and no answer depends on that: so failed texts
can be deleted from a run, and the rest of the run stays as it was.
-/

namespace TableRobot

open Lexicon (Settles)
open Text (isAllBlank trim)

/-! ## Deleting failures -/

/-- Holds of a run, as texts with their outcomes, and what is left after some of the texts
that failed have been deleted. -/
inductive Thinned : List (Option Text × Outcome) → List (Option Text × Outcome) → Prop where
  | nil : Thinned [] []
  | keep (e : Option Text × Outcome) {run rest : List (Option Text × Outcome)}
      (h : Thinned run rest) : Thinned (e :: run) (e :: rest)
  | delete {e : Option Text × Outcome} {run rest : List (Option Text × Outcome)}
      (hfail : e.2.success = false) (h : Thinned run rest) : Thinned (e :: run) rest

namespace Interpreter

variable {i : Interpreter} {lex settled : Lexicon} {size : Int}

/-! ## Before and after discovery -/

/-- An interpreter can only be made with a lexicon that settles, and its rows are those of the
settled one. -/
theorem rows_of_new (h : (new lex size).value = (settled, .ok i)) :
    Settles lex settled ∧
      Transitions.rowsFor settled settled.sortedKeys = .ok i.transitions.rows := by
  rw [new] at h
  split at h
  · cases (Prod.mk.inj h).2
  · simp only [Logged.value_bind, Transitions.build, Lexicon.afterDiscovery] at h
    cases hdiscover : lex.discover.value with
    | mk next result =>
        rw [hdiscover] at h
        cases result with
        | error fault => cases (Prod.mk.inj h).2
        | ok =>
            simp only [Logged.value_bind, Logged.value_pure] at h
            cases hrows : Transitions.rowsFor next next.sortedKeys with
            | error fault =>
                rw [hrows] at h
                cases (Prod.mk.inj h).2
            | ok rows =>
                rw [hrows] at h
                obtain ⟨rfl, hi⟩ := Prod.mk.inj h
                obtain rfl := Except.ok.inj hi
                exact ⟨hdiscover, hrows⟩

section

variable [Routines]

theorem dispatchKeyword_of_settles (h : Settles lex settled) (w : Text) :
    i.dispatchKeyword lex w = i.dispatchKeyword settled w := by
  simp only [dispatchKeyword, h.newCommand]

theorem value_dispatchPlacement_of_settles (h : Settles lex settled) (p : Placement) :
    (i.dispatchPlacement lex p).value = (i.dispatchPlacement settled p).value := by
  simp only [dispatchPlacement, Logged.value_bind, Lexicon.summon, h.value_afterDiscovery,
    h.refl.value_afterDiscovery]

theorem value_dispatch_of_settles (h : Settles lex settled) (cmd : Text) :
    (i.dispatch lex cmd).value.2 = (i.dispatch settled cmd).value.2 := by
  rw [dispatch, dispatch]
  cases Placement.read? cmd with
  | some p => exact congrArg Prod.snd (value_dispatchPlacement_of_settles h p)
  | none =>
      simp only [Logged.value_bind, Logged.value_pure, dispatchKeyword_of_settles h]

theorem dispatchPlacement_fst (i : Interpreter) (lex : Lexicon) (p : Placement) :
    (i.dispatchPlacement lex p).value.1 = lex.discover.value.1 := by
  have hsummon : (lex.summon p.parts).value.1 = lex.discover.value.1 :=
    lex.value_afterDiscovery_fst _
  simp only [dispatchPlacement, Logged.value_bind]
  cases hresult : (lex.summon p.parts).value with
  | mk next result =>
      rw [hresult] at hsummon
      cases result with
      | error fault => exact hsummon
      | ok summons => cases summons <;> exact hsummon

/-- A text leaves no trace in the lexicon, or it has it discovered. -/
theorem process_fst (i : Interpreter) (lex : Lexicon) (raw : Option Text) :
    (i.process lex raw).value.1 = lex ∨ (i.process lex raw).value.1 = lex.discover.value.1 := by
  cases raw with
  | none => exact .inl rfl
  | some t =>
      have hdispatch : (i.dispatch lex (trim t)).value.1 = lex ∨
          (i.dispatch lex (trim t)).value.1 = lex.discover.value.1 := by
        rw [dispatch]
        cases Placement.read? (trim t) with
        | some p => exact .inr (dispatchPlacement_fst i lex p)
        | none => exact .inl rfl
      cases hblank : isAllBlank t with
      | true =>
          rw [i.value_process_of_blank lex hblank]
          exact .inl rfl
      | false =>
          rw [i.value_process lex hblank]
          exact hdispatch

theorem process_congr {lex' : Lexicon} {t : Text}
    (h : (i.dispatch lex (trim t)).value.2 = (i.dispatch lex' (trim t)).value.2) :
    (i.process lex (some t)).value.2 = (i.process lex' (some t)).value.2 := by
  cases hblank : isAllBlank t with
  | true => rw [i.value_process_of_blank lex hblank, i.value_process_of_blank lex' hblank]
  | false => rw [i.value_process lex hblank, i.value_process lex' hblank, h]

theorem process_of_settles (h : Settles lex settled) (raw : Option Text) :
    (i.process lex raw).value.2 = (i.process settled raw).value.2 ∧
      Settles (i.process lex raw).value.1 settled := by
  constructor
  · cases raw with
    | none => rfl
    | some t => exact process_congr (value_dispatch_of_settles h (trim t))
  · rcases i.process_fst lex raw with hnext | hnext
    · rwa [hnext]
    · rw [hnext, h.value_discover]
      exact h.refl

/-! ## Runs -/

theorem process_of_fault {t : Text} (hblank : isAllBlank t = false) {fault : Fault}
    (h : (i.dispatch lex (trim t)).value.2 = .error fault) :
    (i.process lex (some t)).value.2 = (i, .refused .crashed) := by
  rw [i.value_process lex hblank, h]
  rfl

theorem value_processAll_cons (raw : Option Text) (raws : List (Option Text)) :
    (i.processAll lex (raw :: raws)).value.2 =
      let first := (i.process lex raw).value
      let rest := (first.2.1.processAll first.1 raws).value
      (rest.2.1, first.2.2 :: rest.2.2) := rfl

/-- Failures can be deleted from a run, also if that changes when the lexicon is discovered. -/
theorem processAll_of_thinned {lex' : Lexicon} (h : Settles lex settled)
    (h' : Settles lex' settled) {raws : List (Option Text)} {rest : List (Option Text × Outcome)}
    (hthin : Thinned (raws.zip (i.processAll lex raws).value.2.2) rest) :
    (i.processAll lex' (rest.map Prod.fst)).value.2 =
      ((i.processAll lex raws).value.2.1, rest.map Prod.snd) := by
  induction raws generalizing i lex lex' rest with
  | nil =>
      cases hthin
      rfl
  | cons raw raws ih =>
      obtain ⟨hanswer, hsettles⟩ := process_of_settles (i := i) h raw
      obtain ⟨hanswer', hsettles'⟩ := process_of_settles (i := i) h' raw
      have hsame := hanswer'.trans hanswer.symm
      simp only [value_processAll_cons, List.zip_cons_cons] at hthin ⊢
      cases hthin with
      | keep _ hthin =>
          simp only [List.map_cons, value_processAll_cons, hsame, ih hsettles hsettles' hthin]
      | delete hfail hthin =>
          rw [value_process_of_failure hfail] at hthin ⊢
          exact ih hsettles h' hthin

/-- With every lexicon with which an interpreter could be made, before its making and after
it, whatever the interpreter: a fault ends in a refusal, a text that fails leaves the
interpreter as it was, and failed texts can be deleted from a run without a change in the
other outcomes or in the interpreter at the end. -/
theorem rejections_are_inert {made : Interpreter}
    (hmade : (new lex size).value = (settled, .ok made))
    {current : Lexicon} (hcurrent : current = lex ∨ current = settled) (i : Interpreter) :
    (∀ t fault, isAllBlank t = false → (i.dispatch current (trim t)).value.2 = .error fault →
        (i.process current (some t)).value.2 = (i, .refused .crashed)) ∧
      (∀ raw, (i.process current raw).value.2.2.success = false →
        (i.process current raw).value.2.1 = i) ∧
      ∀ raws rest, Thinned (raws.zip (i.processAll current raws).value.2.2) rest →
        (i.processAll current (rest.map Prod.fst)).value.2 =
          ((i.processAll current raws).value.2.1, rest.map Prod.snd) := by
  have hsettles : Settles current settled := by
    have hlex := (rows_of_new hmade).1
    rcases hcurrent with rfl | rfl
    · exact hlex
    · exact hlex.refl
  refine ⟨fun t fault hblank hfault => process_of_fault hblank hfault,
    fun raw hfail => value_process_of_failure hfail, fun raws rest hthin => ?_⟩
  exact processAll_of_thinned hsettles hsettles hthin

end

def trespasser : Kind :=
  .custom ⟨"Trespasser".toList, .bare, none, none, none,
    some (.putAndFail ⟨9, 9⟩ .south "No way.".toList)⟩

def stranger : Kind :=
  .custom ⟨"Stranger".toList, .bare, none, none, none, some (.coded "stranger".toList)⟩

def withStrangers : Lexicon :=
  (Lexicon.initial.bound "TRESPASS".toList trespasser).bound "STRAY".toList stranger

def amongStrangers : Interpreter where
  size := 6
  transitions := ⟨[("LEFT".toList, .builtin .left), ("MOVE".toList, .builtin .move),
    ("REPORT".toList, .builtin .report), ("RIGHT".toList, .builtin .right),
    ("STRAY".toList, stranger), ("TRESPASS".toList, trespasser)]⟩
  robot := .initial

def placedAmongStrangers : Interpreter :=
  { amongStrangers with robot := ⟨true, ⟨1, 2⟩, .east⟩ }

/-- A routine that throws and a failure with a robot off the table leave a placed robot where
it is, and both can be deleted. -/
theorem rejections_are_inert_strangers :
    (new withStrangers 6).value = (withStrangers, .ok amongStrangers) ∧
      (placedAmongStrangers.process withStrangers (some "stray".toList)).value.2 =
        (placedAmongStrangers, .refused .crashed) ∧
      (placedAmongStrangers.process withStrangers (some "trespass".toList)).value.2.1 =
        placedAmongStrangers ∧
      (placedAmongStrangers.processAll withStrangers [some "MOVE".toList]).value.2 =
        ((placedAmongStrangers.processAll withStrangers
          [some "trespass".toList, some "stray".toList, some "MOVE".toList]).value.2.1,
          [.moved ⟨2, 2⟩]) := by
  have hmade : (new withStrangers 6).value = (withStrangers, .ok amongStrangers) := rfl
  have hinert := rejections_are_inert hmade (.inl rfl) placedAmongStrangers
  have houtcomes : (placedAmongStrangers.processAll withStrangers
      [some "trespass".toList, some "stray".toList, some "MOVE".toList]).value.2.2 =
      [.failed "No way.".toList, .refused .crashed, .moved ⟨2, 2⟩] := by
    decide +kernel
  refine ⟨hmade, hinert.1 "stray".toList (.thrownByAction []) rfl rfl, hinert.2.1 _ rfl,
    hinert.2.2 _ [(some "MOVE".toList, .moved ⟨2, 2⟩)] ?_⟩
  rw [houtcomes]
  exact .delete rfl (.delete rfl (.keep _ .nil))

end Interpreter

end TableRobot
