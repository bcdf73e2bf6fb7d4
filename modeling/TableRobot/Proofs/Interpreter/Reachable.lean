import TableRobot.Proofs.Interpreter.Refinement
/-!
# The robots that a run can lead to

Texts lead a robot from the start to every cell within reach with every facing:
a placement in the corner, steps north, steps east, and turns.  The numbers of
a placement end at 32 bits, so the cells beyond are reached by steps only, and
at the end of the word a step is refused before it can wrap around.
-/

namespace TableRobot

open Numeral (coordinate? fitsWord)
open Text (capitals isAllBlank trim)

namespace Reference

def Attains (size : Int) (r s : Robot) : Prop := ∃ raws, (respondAll size r raws).1 = s

variable {size : Int} {r s t : Robot}

namespace Attains

theorem refl (size : Int) (r : Robot) : Attains size r r := ⟨[], rfl⟩

theorem head (raw : Option Text) (h : Attains size (respond size r raw).1 s) :
    Attains size r s := by
  obtain ⟨raws, hraws⟩ := h
  exact ⟨raw :: raws, hraws⟩

theorem trans (h : Attains size r s) (h' : Attains size s t) : Attains size r t := by
  obtain ⟨raws, rfl⟩ := h
  induction raws generalizing r with
  | nil => exact h'
  | cons raw raws ih => exact head raw (ih h')

end Attains

/-! ## Steps and turns -/

theorem respond_keyword (hr : r.placed = true) {b : Builtin} (hb : b ≠ .place) :
    respond size r (some b.keyword) = obey size r b.keyword := by
  apply respond_of_keywordOf hb hr
  cases b <;> decide +kernel

theorem attains_ahead (hr : r.placed = true) (ha : (r.cell.ahead r.facing).OnTable (reach size)) :
    Attains size r (r.movedTo (r.cell.ahead r.facing)) := by
  apply Attains.head (some Builtin.move.keyword)
  have hmove : obey size r Builtin.move.keyword = move size r := rfl
  rw [respond_keyword hr (by decide), hmove, move, if_pos ha]
  exact .refl size _

theorem attains_turnedRight (hr : r.placed = true) :
    Attains size r (r.turnedTo r.facing.turnedRight) := by
  apply Attains.head (some Builtin.right.keyword)
  rw [respond_keyword hr (by decide)]
  exact .refl size _

theorem attains_facing (c : Cell) (f g : Facing) : Attains size ⟨true, c, f⟩ ⟨true, c, g⟩ := by
  have hturn : ∀ f : Facing, Attains size ⟨true, c, f⟩ ⟨true, c, f.turnedRight⟩ :=
    fun f => attains_turnedRight (r := ⟨true, c, f⟩) rfl
  have hcases : g = f ∨ g = f.turnedRight ∨ g = f.turnedRight.turnedRight ∨
      g = f.turnedRight.turnedRight.turnedRight := by
    cases f <;> cases g <;> decide
  rcases hcases with rfl | rfl | rfl | rfl
  · exact .refl size _
  · exact hturn f
  · exact (hturn f).trans (hturn _)
  · exact ((hturn f).trans (hturn _)).trans (hturn _)

theorem attains_path {f : Facing} (path : Nat → Cell)
    (hahead : ∀ k, path (k + 1) = (path k).ahead f) :
    ∀ n, (∀ k < n, (path (k + 1)).OnTable (reach size)) →
      Attains size ⟨true, path 0, f⟩ ⟨true, path n, f⟩ := by
  intro n
  induction n with
  | zero => exact fun _ => .refl size _
  | succ n ih =>
      intro htable
      have hstep := htable n (Nat.lt_succ_self n)
      rw [hahead] at hstep ⊢
      exact (ih fun k hk => htable k (Nat.lt_succ_of_lt hk)).trans
        (attains_ahead (r := ⟨true, path n, f⟩) rfl hstep)

/-! ## Every cell within reach -/

theorem attains_corner (hsize : 1 ≤ size) :
    Attains size .initial ⟨true, ⟨0, 0⟩, .north⟩ := by
  apply Attains.head (some "PLACE 0,0,NORTH".toList)
  have hread : Placement.read? "PLACE 0,0,NORTH".toList =
      some ⟨"0".toList, "0".toList, some "NORTH".toList⟩ := by decide +kernel
  have hblank : isAllBlank "PLACE 0,0,NORTH".toList = false := by decide +kernel
  have htrim : trim "PLACE 0,0,NORTH".toList = "PLACE 0,0,NORTH".toList := by decide +kernel
  have hzero : coordinate? "0".toList = some 0 := by decide +kernel
  have hcorner : Cell.OnTable ⟨0, 0⟩ size := by
    rw [Cell.onTable_mk]
    omega
  simp only [respond, hblank, Bool.false_eq_true, if_false, htrim, answer, hread, place, hzero,
    hcorner, if_true]
  exact .refl size _

theorem attains_of_stands (hsize : 1 ≤ size) (h : Stands size r) : Attains size .initial r := by
  obtain ⟨placed, ⟨x, y⟩, f⟩ := r
  obtain rfl : placed = true := h.1
  have htable : Cell.OnTable ⟨x, y⟩ (reach size) := h.2
  rw [Cell.onTable_mk] at htable
  obtain ⟨hx, hx', hy, hy'⟩ := htable
  obtain ⟨m, rfl⟩ := Int.eq_ofNat_of_zero_le hx
  obtain ⟨n, rfl⟩ := Int.eq_ofNat_of_zero_le hy
  have hnorth : Attains size ⟨true, ⟨0, 0⟩, .north⟩ ⟨true, ⟨0, n⟩, .north⟩ := by
    apply attains_path (fun k => ⟨0, k⟩) (fun k => rfl)
    intro k hk
    rw [Cell.onTable_mk]
    omega
  have heast : Attains size ⟨true, ⟨0, n⟩, .east⟩ ⟨true, ⟨m, n⟩, .east⟩ := by
    apply attains_path (fun k => ⟨k, n⟩) (fun k => rfl)
    intro k hk
    rw [Cell.onTable_mk]
    omega
  exact (((attains_corner hsize).trans hnorth).trans (attains_facing _ .north .east)).trans
    (heast.trans (attains_facing _ .east f))

theorem attains_iff_lawful (hsize : 1 ≤ size) : Attains size .initial r ↔ Lawful size r := by
  constructor
  · rintro ⟨raws, rfl⟩
    exact Lawful.respondAll (.inl rfl) raws
  · rintro (rfl | h)
    · exact .refl size _
    · exact attains_of_stands hsize h

/-! ## What a run keeps -/

/-- A robot that has not been placed is thought of in the corner, so each robot of a run has a
cell within reach. -/
theorem Lawful.onTable_reach (hsize : 1 ≤ size) (h : Lawful size r) :
    r.cell.OnTable (reach size) := by
  rcases h with rfl | h
  · unfold Robot.initial
    rw [Cell.onTable_mk, lt_reach_iff]
    omega
  · exact h.2

theorem Lawful.placed_respond (h : Lawful size r) (hr : r.placed = true) (raw : Option Text) :
    (Reference.respond size r raw).1.placed = true := by
  rcases respond_stays_or_stands h raw with hstays | hstands
  · rw [hstays]
    exact hr
  · exact hstands.1

theorem Lawful.placed_respondAll (h : Lawful size r) (hr : r.placed = true)
    (raws : List (Option Text)) : (Reference.respondAll size r raws).1.placed = true := by
  induction raws generalizing r with
  | nil => exact hr
  | cons raw raws ih => exact ih (h.respond raw) (h.placed_respond hr raw)

theorem Answers.cell {cmd : Text} {a : Robot × Outcome} (h : Answers size r cmd a)
    (hread : Placement.read? cmd = none) :
    a.1.cell = r.cell ∨ a.1.cell = r.cell.ahead r.facing := by
  cases h with
  | refused message => exact .inl rfl
  | put hp => simp [hread] at hp
  | advanced => exact .inr rfl
  | turnedLeft => exact .inl rfl
  | turnedRight => exact .inl rfl
  | told => exact .inl rfl

theorem cell_respond {t : Text} (hread : Placement.read? (trim t) = none) :
    (respond size r (some t)).1.cell = r.cell ∨
      (respond size r (some t)).1.cell = r.cell.ahead r.facing := by
  rw [respond]
  split
  · exact .inl rfl
  · exact (answers_answer size r (trim t)).cell hread

end Reference

/-! ## Runs -/

open Reference

namespace Interpreter

section

variable [Routines] {size : Int}

structure Sound (size : Int) (lex : Lexicon) (i : Interpreter) : Prop where
  onTable : i.robot.placed = true → i.robot.cell.OnTable size
  initial_of_not_placed : i.robot.placed = false → i.robot = .initial
  /-- Nothing but a reset takes the robot off the table. -/
  reset_of_not_placed : ∀ c, i.robot.placed = true →
    (i.after lex c).2.robot.placed = false → c = .reset
  fitsWord_cell : i.robot.cell.coordinates.all fitsWord = true
  /-- No text faults. -/
  dispatch_ok : ∀ t, ∃ result, (i.dispatch lex (trim t)).value = (lex, .ok result)
  /-- No step faults, nor does the look at its end, and a step that wraps around leads off the
  table. -/
  step_ok : ∀ f, ∃ target found, i.robot.cell.step f = .ok target ∧
    target.onTable i.size = .ok found ∧ (found = true → target = i.robot.cell.ahead f)
  /-- Only exact steps are committed. -/
  cell_process : ∀ t, Placement.read? (trim t) = none →
    (i.process lex (some t)).value.2.1.robot.cell = i.robot.cell ∨
      (i.process lex (some t)).value.2.1.robot.cell = i.robot.cell.ahead i.robot.facing

theorem sound_standard {r : Robot} (hsize : 1 ≤ size) (h : Lawful size r) :
    Sound size .initial (standard size r) where
  onTable hr := (h.stands hr).2.of_reach
  initial_of_not_placed hr := by
    rcases h with h | h
    · exact h
    · exact absurd (hr.symm.trans h.1) Bool.false_ne_true
  reset_of_not_placed c hr hafter := by
    cases c with
    | process raw =>
        simp only [after, process_standard h] at hafter
        exact absurd (hafter.symm.trans (h.placed_respond hr raw)) Bool.false_ne_true
    | processAll raws =>
        simp only [after, processAll_standard h] at hafter
        exact absurd (hafter.symm.trans (h.placed_respondAll hr raws)) Bool.false_ne_true
    | reset => rfl
  fitsWord_cell := Cell.fitsWord_of_onTable_reach (h.onTable_reach hsize)
  dispatch_ok t := ⟨_, dispatch_standard h (Text.trim_trim t)⟩
  step_ok f := by
    obtain ⟨target, hstep, hfound, hexact⟩ :=
      Cell.step_of_onTable_reach (h.onTable_reach hsize) f
    exact ⟨target, _, hstep, hfound, fun ha => hexact (of_decide_eq_true ha)⟩
  cell_process t hread := by
    rw [process_standard h]
    exact cell_respond hread

theorem exists_reachable_of_lawful {r : Robot} (hsize : 1 ≤ size) (h : Lawful size r) :
    ∃ raws, ((standard size .initial).processAll .initial raws).value.2.1 = standard size r := by
  obtain ⟨raws, hraws⟩ := (attains_iff_lawful hsize).2 h
  refine ⟨raws, ?_⟩
  rw [processAll_standard (.inl rfl), hraws]

theorem reachable_standard {r : Robot} (hsize : 1 ≤ size) (h : Lawful size r) :
    Reachable size .initial (standard size r) := by
  obtain ⟨raws, hraws⟩ := (attains_iff_lawful hsize).2 h
  have hcall := (Reachable.fresh (new_initial hsize)).call (.processAll raws)
  simp only [after, processAll_standard (.inl rfl), hraws] at hcall
  exact hcall

/-- The robots of the runs on a table, and likewise those of the runs by texts alone, are the
robot of the start and all robots that stand within reach. No point of a run has a fault, a
robot off the table or a step that wrapped around, and only a reset ends a placement. -/
theorem reachable_robots (hsize : 1 ≤ size) :
    (∀ r : Robot, (∃ lex i, Reachable size lex i ∧ i.robot = r) ↔
        r = .initial ∨ r.placed = true ∧ r.cell.OnTable (reach size)) ∧
      (∀ r : Robot, (∃ lex i raws, (new .initial size).value = (lex, .ok i) ∧
          (i.processAll lex raws).value.2.1.robot = r) ↔
        r = .initial ∨ r.placed = true ∧ r.cell.OnTable (reach size)) ∧
      ∀ lex i, Reachable size lex i → Sound size lex i := by
  have hnew := new_initial hsize
  refine ⟨fun r => ⟨?_, fun h => ?_⟩, fun r => ⟨?_, fun h => ?_⟩, fun lex i h => ?_⟩
  · rintro ⟨lex, i, hreach, rfl⟩
    obtain ⟨-, r, rfl, hr⟩ := hreach.exists_lawful hsize
    exact hr
  · obtain ⟨raws, hraws⟩ := exists_reachable_of_lawful hsize h
    refine ⟨_, _, (Reachable.fresh hnew).call (.processAll raws), ?_⟩
    rw [after, hraws]
    rfl
  · rintro ⟨lex, i, raws, hi, rfl⟩
    obtain ⟨rfl, hok⟩ := Prod.mk.inj (hnew.symm.trans hi)
    obtain rfl := Except.ok.inj hok
    rw [processAll_standard (.inl rfl)]
    exact Lawful.respondAll (.inl rfl) raws
  · obtain ⟨raws, hraws⟩ := exists_reachable_of_lawful hsize h
    exact ⟨_, _, raws, hnew, by rw [hraws]; rfl⟩
  · obtain ⟨rfl, r, rfl, hr⟩ := h.exists_lawful hsize
    exact sound_standard hsize hr

end

/-- On a table larger than the word a run leads to the last cell that the word counts, and no
run leads past it. -/
theorem reachable_robots_at_word_end :
    (1 : Int) ≤ 9223372036854775810 ∧
      (∃ lex i, Reachable 9223372036854775810 lex i ∧
        i.robot = ⟨true, ⟨9223372036854775807, 3⟩, .east⟩) ∧
      ¬∃ lex i, Reachable 9223372036854775810 lex i ∧
        i.robot = ⟨true, ⟨9223372036854775808, 3⟩, .east⟩ := by
  have h := (reachable_robots (show (1 : Int) ≤ 9223372036854775810 by decide)).1
  exact ⟨by decide, (h _).2 (by decide), fun hpast => absurd ((h _).1 hpast) (by decide)⟩

end Interpreter

end TableRobot
