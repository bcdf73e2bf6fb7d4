import TableRobot.Proofs.Interpreter.Runs
import TableRobot.Proofs.Lexicon.Rivals
/-!
# Processing agrees with the reference

With the lexicon of the start every text does what the reference interpreter
says, at every point of every run.  The robot of a run is lawful: only from a
cell within reach is a step in machine words the exact step.
-/

namespace TableRobot

open Lexicon (OwnNames Settles ownNames_initial settles_of_discovered)
open Numeral (coordinate?)
open Text (capitals isAllBlank trim)
open Reference

/-! ## The lexicon of the start -/

def Transitions.standard : Transitions where
  rows :=
    [Builtin.left, .move, .report, .right].map fun b => (b.keyword, Kind.builtin b)

def Interpreter.standard (size : Int) (r : Robot) : Interpreter := ⟨size, .standard, r⟩

theorem Transitions.build_initial : (build .initial).value = (.initial, .ok .standard) := rfl

theorem Interpreter.new_initial {size : Int} (h : 1 ≤ size) :
    (new .initial size).value = (.initial, .ok (standard size .initial)) := by
  rw [new, if_neg (by omega), Logged.value_bind, Transitions.build_initial]
  rfl

theorem Transitions.entry_standard_false (w : Text) :
    standard.entry false w = .refuse .notPlaced := by
  unfold entry
  split
  · next k hk =>
      have hmem : (w, k) ∈ standard.rows := Lexicon.mem_of_lookup hk
      simp only [standard, List.map_cons, List.map_nil, List.mem_cons, Prod.mk.injEq,
        List.not_mem_nil, or_false] at hmem
      rcases hmem with ⟨-, rfl⟩ | ⟨-, rfl⟩ | ⟨-, rfl⟩ | ⟨-, rfl⟩ <;> rfl
  · rfl

theorem Transitions.entry_standard_keyword {b : Builtin} (hb : b ≠ .place) :
    standard.entry true b.keyword = .run (.builtin b) := by
  cases b with
  | place => exact absurd rfl hb
  | move => rfl
  | left => rfl
  | right => rfl
  | report => rfl

theorem Transitions.entry_standard_unknown {w : Text}
    (h : ∀ b : Builtin, b ≠ .place → w ≠ b.keyword) :
    standard.entry true w = .refuse .unknown := by
  have hlookup : standard.rows.lookup w = none := by
    simp [standard, h]
  rw [entry, hlookup]
  rfl

/-! ## Dispatch -/

/-- Only a success has another robot, so what is committed is the robot of the reference. -/
theorem Interpreter.commit_standard {size : Int} {r : Robot} {cmd : Text}
    {a : Robot × Outcome} (h : Answers size r cmd a) :
    (standard size r).commit a.1 a.2 = standard size a.1 := by
  rw [commit]
  split
  · rfl
  · next hfail => rw [h.keeps (by simpa using hfail)]

section

variable [Routines]

namespace Interpreter

variable {size : Int} {r : Robot}

/-- A placement does what the reference says with every lexicon that settles with placements
under their keyword: nothing else of the lexicon and nothing of the transitions is looked at. -/
theorem dispatchPlacement_of_settles {i : Interpreter} {lex settled : Lexicon}
    (hnames : OwnNames settled) (hsettles : Settles lex settled)
    (hplace : settled.kind? Placement.keyword = some (.builtin .place)) {cmd : Text}
    {p : Placement} (hp : Placement.read? cmd = some p) :
    (i.dispatchPlacement lex p).value = (settled, .ok (place i.size i.robot p)) := by
  obtain ⟨hx, hy, hword⟩ := Placement.shape_of_read? hp
  have hreadx := Numeral.readCoordinate?_eq_coordinate? hx
  have hready := Numeral.readCoordinate?_eq_coordinate? hy
  have hsummon : (lex.summon p.parts).value = (settled, .ok (.ofBuiltin .place p.parts)) := by
    have hkind : settled.kind? (capitals Placement.keyword) = some (.builtin .place) := by
      rwa [Placement.capitals_keyword]
    obtain ⟨ws, hws⟩ := p.exists_parts
    rw [hws]
    exact hnames.value_summon hsettles hkind ws
  rw [dispatchPlacement, Logged.value_bind, hsummon, Lexicon.Summons.ofBuiltin]
  by_cases hnone : coordinate? p.x = none ∨ coordinate? p.y = none
  · obtain ⟨c, hc⟩ := Command.attempt_parts_of_none (p := p) (by rwa [hreadx, hready])
    rw [hc, place_of_none hnone]
    rfl
  · rw [not_or, ← ne_eq, ← ne_eq, Option.ne_none_iff_exists', Option.ne_none_iff_exists'] at hnone
    obtain ⟨⟨x, hcx⟩, y, hcy⟩ := hnone
    rw [Command.attempt_parts_of_some (hreadx.trans hcx) (hready.trans hcy)]
    change (settled, (((Command.placing x y p.facing).bind i.size).execute i.robot).value) = _
    rw [Command.execute_placing hcx hcy hword]

theorem dispatchKeyword_standard (h : Lawful size r) (w : Text) :
    ((standard size r).dispatchKeyword .initial w).value =
      .ok (if r.placed then obey size r w
        else refuse r "Robot not yet placed. Commands ignored until a valid PLACE.".toList) := by
  have hentry : (standard size r).transitions.entry (standard size r).robot.placed w =
      Transitions.standard.entry r.placed w := rfl
  rw [dispatchKeyword, hentry]
  cases hr : r.placed with
  | false =>
      rw [Transitions.entry_standard_false]
      rfl
  | true =>
      by_cases hw : ∃ b : Builtin, b ≠ .place ∧ w = b.keyword
      · obtain ⟨b, hb, rfl⟩ := hw
        simp only [Transitions.entry_standard_keyword hb, ownNames_initial.newCommand,
          Command.attempt_keyword hb, if_true]
        exact Command.execute_keyword (h.stands hr) hb
      · have hunknown : ∀ b : Builtin, b ≠ .place → w ≠ b.keyword :=
          fun b hb hwb => hw ⟨b, hb, hwb⟩
        rw [Transitions.entry_standard_unknown hunknown, obey_of_unknown hunknown]
        rfl

theorem dispatch_standard (h : Lawful size r) {cmd : Text} (hcmd : trim cmd = cmd) :
    ((standard size r).dispatch .initial cmd).value = (.initial, .ok (answer size r cmd)) := by
  rw [dispatch, answer]
  cases hp : Placement.read? cmd with
  | some p =>
      exact dispatchPlacement_of_settles ownNames_initial (settles_of_discovered rfl) rfl hp
  | none =>
      simp only [Logged.value_bind, Logged.value_pure, dispatchKeyword_standard h, keywordOf, hcmd]

theorem process_standard (h : Lawful size r) (raw : Option Text) :
    ((standard size r).process .initial raw).value =
      (.initial, standard size (respond size r raw).1, (respond size r raw).2) := by
  cases raw with
  | none => rfl
  | some t =>
      cases hblank : isAllBlank t with
      | true =>
          rw [value_process_of_blank _ _ hblank]
          simp only [respond, hblank, if_true]
          rfl
      | false =>
          have hcommit := commit_standard (answers_answer size r (trim t))
          rw [value_process _ _ hblank, dispatch_standard h (Text.trim_trim t)]
          simp only [respond, hblank, Bool.false_eq_true, if_false, concluded, hcommit]

theorem processAll_standard (h : Lawful size r) (raws : List (Option Text)) :
    ((standard size r).processAll .initial raws).value =
      (.initial, standard size (respondAll size r raws).1, (respondAll size r raws).2) := by
  induction raws generalizing r with
  | nil => rfl
  | cons raw raws ih =>
      simp only [processAll, Logged.value_bind, process_standard h, Logged.value_map,
        ih (h.respond raw), respondAll]

/-! ## Runs -/

theorem Reachable.exists_lawful {lex : Lexicon} {i : Interpreter} (hsize : 1 ≤ size)
    (h : Reachable size lex i) : lex = .initial ∧ ∃ r, i = standard size r ∧ Lawful size r := by
  induction h with
  | fresh hnew =>
      rw [new_initial hsize] at hnew
      obtain ⟨rfl, hi⟩ := Prod.mk.inj hnew
      obtain rfl := Except.ok.inj hi
      exact ⟨rfl, .initial, rfl, .inl rfl⟩
  | call _ c ih =>
      obtain ⟨rfl, r, rfl, hr⟩ := ih
      cases c with
      | process raw =>
          simp only [after, process_standard hr]
          exact ⟨trivial, _, rfl, hr.respond raw⟩
      | processAll raws =>
          simp only [after, processAll_standard hr]
          exact ⟨trivial, _, rfl, hr.respondAll raws⟩
      | reset => exact ⟨rfl, .initial, rfl, .inl rfl⟩

/-- With the lexicon of the start an interpreter is made for every table, and at each point of
each run a text, or the absence of one, has exactly the effect and the outcome that the
reference gives: nothing else of the interpreter changes, nor does the lexicon. -/
theorem process_refines_reference (hsize : 1 ≤ size) :
    (∃ i, (new .initial size).value = (.initial, .ok i) ∧ i.size = size ∧ i.robot = .initial) ∧
      ∀ lex i, Reachable size lex i → ∀ raw,
        (i.process lex raw).value =
          (lex, { i with robot := (respond size i.robot raw).1 },
            (respond size i.robot raw).2) := by
  refine ⟨⟨_, new_initial hsize, rfl, rfl⟩, fun lex i h raw => ?_⟩
  obtain ⟨rfl, r, rfl, hr⟩ := h.exists_lawful hsize
  exact process_standard hr raw

end Interpreter

end

namespace Interpreter

/-- In the corner of a small table, reached by a placement, a step east is refused. -/
theorem process_refines_reference_corner :
    (1 : Int) ≤ 6 ∧ Reachable 6 .initial (standard 6 ⟨true, ⟨5, 5⟩, .east⟩) ∧
      ((standard 6 ⟨true, ⟨5, 5⟩, .east⟩).process .initial (some " move\n".toList)).value =
        (.initial, standard 6 ⟨true, ⟨5, 5⟩, .east⟩, .refused .wouldFall) := by
  have hfresh : Reachable 6 .initial (standard 6 .initial) := .fresh (new_initial (by decide))
  have hplaced : (standard 6 .initial).after .initial
      (.process (some "place 5, 5 ,East".toList)) =
        (.initial, standard 6 ⟨true, ⟨5, 5⟩, .east⟩) := by decide +kernel
  have hcorner : Reachable 6 .initial (standard 6 ⟨true, ⟨5, 5⟩, .east⟩) := by
    have h := hfresh.call (.process (some "place 5, 5 ,East".toList))
    rwa [hplaced] at h
  refine ⟨by decide, hcorner, ?_⟩
  rw [(process_refines_reference (by decide)).2 _ _ hcorner]
  decide +kernel

end Interpreter

end TableRobot
