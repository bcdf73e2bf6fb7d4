import TableRobot.Proofs.Interpreter.Reachable
/-!
# Net turns and net displacement

As long as no placement names a facing, the facing of the robot is told by
counting: the turns to the right less the turns to the left, modulo four.  As
long as no placement succeeds, so is its cell: the steps in one direction less
those in the opposite direction.  Whatever else is processed in between leaves
no trace.
-/

namespace TableRobot

open Text (trim)

/-- One input of a run: the robot before it, the input, and the outcome. -/
structure Moment where
  robot : Robot
  raw : Option Text
  outcome : Outcome

namespace Moment

def runs (b : Builtin) (m : Moment) : Bool :=
  m.robot.placed && decide (m.raw.map keywordOf = some b.keyword)

def steps (f : Facing) (m : Moment) : Bool :=
  m.runs .move && m.outcome.success && decide (m.robot.facing = f)

def places (m : Moment) : Bool := m.outcome.success && (m.raw.bind Placement.read?).isSome

def placesFacing (m : Moment) : Bool :=
  m.outcome.success && ((m.raw.bind Placement.read?).bind Placement.facing).isSome

end Moment

namespace Interpreter

def moments [Routines] (i : Interpreter) (lex : Lexicon) : List (Option Text) → List Moment
  | [] => []
  | raw :: raws =>
      let next := (i.process lex raw).value
      ⟨i.robot, raw, next.2.2⟩ :: next.2.1.moments next.1 raws

theorem map_outcome_moments [Routines] (i : Interpreter) (lex : Lexicon)
    (raws : List (Option Text)) :
    (i.moments lex raws).map Moment.outcome = (i.processAll lex raws).value.2.2 := by
  induction raws generalizing i lex with
  | nil => rfl
  | cons raw raws ih =>
      simp only [moments, List.map_cons, ih, processAll, Logged.value_bind, Logged.value_map]

end Interpreter

/-! ## Turns and steps as numbers -/

namespace Facing

theorem index_lt (f : Facing) : f.index < 4 := by
  cases f <;> decide

end Facing

namespace Cell

theorem x_ahead (c : Cell) (f : Facing) :
    (c.ahead f).x = c.x + ((if f = .east then 1 else 0 : Nat) : Int) -
      ((if f = .west then 1 else 0 : Nat) : Int) := by
  cases f <;> simp [ahead]

theorem y_ahead (c : Cell) (f : Facing) :
    (c.ahead f).y = c.y + ((if f = .north then 1 else 0 : Nat) : Int) -
      ((if f = .south then 1 else 0 : Nat) : Int) := by
  cases f <;> simp [ahead]

end Cell

namespace Reference

variable {size : Int} {r : Robot}

def moment (size : Int) (r : Robot) (raw : Option Text) : Moment :=
  ⟨r, raw, (respond size r raw).2⟩

def moments (size : Int) (r : Robot) : List (Option Text) → List Moment
  | [] => []
  | raw :: raws => moment size r raw :: moments size (respond size r raw).1 raws

theorem runs_moment (hr : r.placed = true) (t : Text) (b : Builtin) :
    (moment size r (some t)).runs b = decide (keywordOf t = b.keyword) := by
  simp [moment, Moment.runs, hr]

theorem runs_moment_none (b : Builtin) : (moment size r none).runs b = false := by
  simp [moment, Moment.runs]

/-! ## One input -/

theorem facing_respond {t : Text} (hright : keywordOf t ≠ Builtin.right.keyword)
    (hleft : keywordOf t ≠ Builtin.left.keyword)
    (hplace : (moment size r (some t)).placesFacing = false) :
    (respond size r (some t)).1.facing = r.facing := by
  have hanswers := answers_respond size r t
  simp only [moment, Moment.placesFacing, Option.bind_some] at hplace
  generalize respond size r (some t) = a at hanswers hplace ⊢
  cases hanswers with
  | refused message => rfl
  | @put p x y f hp hx hy htable hf =>
      rw [Placement.read?_trim] at hp
      cases hfacing : p.facing with
      | some word => simp [put, comply, hp, hfacing] at hplace
      | none =>
          simp only [hfacing, landing] at hf
          split at hf
          · exact (Except.ok.inj hf).symm
          · cases hf
  | advanced => rfl
  | turnedLeft hr hcmd => exact absurd hcmd hleft
  | turnedRight hr hcmd => exact absurd hcmd hright
  | told => rfl

theorem cell_respond_of_ne {t : Text} (hmove : keywordOf t ≠ Builtin.move.keyword)
    (hplace : (moment size r (some t)).places = false) :
    (respond size r (some t)).1.cell = r.cell := by
  have hanswers := answers_respond size r t
  simp only [moment, Moment.places, Option.bind_some] at hplace
  generalize respond size r (some t) = a at hanswers hplace ⊢
  cases hanswers with
  | refused message => rfl
  | put hp =>
      rw [Placement.read?_trim] at hp
      simp [put, comply, hp] at hplace
  | advanced hr hcmd => exact absurd hcmd hmove
  | turnedLeft => rfl
  | turnedRight => rfl
  | told => rfl

theorem index_respond (hr : r.placed = true) (raw : Option Text)
    (hplace : (moment size r raw).placesFacing = false) :
    ((respond size r raw).1.facing.index : Int) =
      (r.facing.index + ((if (moment size r raw).runs .right then 1 else 0 : Nat) : Int) -
        ((if (moment size r raw).runs .left then 1 else 0 : Nat) : Int)) % 4 := by
  have hlt := r.facing.index_lt
  cases raw with
  | none =>
      have hrespond : (respond size r none).1 = r := rfl
      rw [hrespond, runs_moment_none, runs_moment_none, if_neg Bool.false_ne_true]
      omega
  | some t =>
      rw [runs_moment hr, runs_moment hr]
      by_cases hright : keywordOf t = Builtin.right.keyword
      · have hleft : ¬keywordOf t = Builtin.left.keyword := by
          rw [hright]
          decide
        have hobey : (obey size r Builtin.right.keyword).1.facing = r.facing.turnedRight := rfl
        rw [respond_of_keywordOf (by decide) hr hright, hobey, Facing.index_turnedRight,
          decide_eq_true hright, decide_eq_false hleft, if_pos rfl, if_neg Bool.false_ne_true]
        omega
      · by_cases hleft : keywordOf t = Builtin.left.keyword
        · have hobey : (obey size r Builtin.left.keyword).1.facing = r.facing.turnedLeft := rfl
          rw [respond_of_keywordOf (by decide) hr hleft, hobey, Facing.index_turnedLeft,
            decide_eq_false hright, decide_eq_true hleft, if_neg Bool.false_ne_true, if_pos rfl]
          omega
        · rw [facing_respond hright hleft hplace, decide_eq_false hright, decide_eq_false hleft,
            if_neg Bool.false_ne_true]
          omega

/-- Only a step that succeeds changes the cell, and it is the exact step. -/
theorem cell_respond_eq (hr : r.placed = true) (raw : Option Text)
    (hplace : (moment size r raw).places = false) :
    (respond size r raw).1.cell =
      if (moment size r raw).runs .move && (moment size r raw).outcome.success then
        r.cell.ahead r.facing
      else r.cell := by
  cases raw with
  | none =>
      rw [runs_moment_none]
      rfl
  | some t =>
      rw [runs_moment hr]
      by_cases hmove : keywordOf t = Builtin.move.keyword
      · have hobey : obey size r Builtin.move.keyword = move size r := rfl
        have hrespond := (respond_of_keywordOf (by decide) hr hmove).trans hobey
        simp only [moment, hrespond, hmove, decide_true, Bool.true_and]
        unfold move
        split
        · rfl
        · rfl
      · rw [cell_respond_of_ne hmove hplace, decide_eq_false hmove]
        rfl

/-! ## Runs -/

theorem Stands.respond (h : Stands size r) (raw : Option Text) :
    Stands size (respond size r raw).1 := by
  have hlawful : Lawful size r := .inr h
  exact (hlawful.respond raw).stands (hlawful.placed_respond h.1 raw)

theorem index_respondAll (h : Stands size r) (raws : List (Option Text))
    (hplace : ∀ m ∈ moments size r raws, m.placesFacing = false) :
    ((respondAll size r raws).1.facing.index : Int) =
      (r.facing.index + ((moments size r raws).countP (·.runs .right) : Int) -
        (moments size r raws).countP (·.runs .left)) % 4 := by
  induction raws generalizing r with
  | nil =>
      have hlt := r.facing.index_lt
      simp only [respondAll, moments, List.countP_nil]
      omega
  | cons raw raws ih =>
      simp only [moments, List.forall_mem_cons] at hplace
      have hnow := index_respond h.1 raw hplace.1
      have hlater := ih (h.respond raw) hplace.2
      simp only [respondAll, moments, List.countP_cons, Int.natCast_add]
      omega

theorem cell_respondAll (h : Stands size r) (raws : List (Option Text))
    (hplace : ∀ m ∈ moments size r raws, m.places = false) :
    let ms := moments size r raws
    let last := (respondAll size r raws).1.cell
    last.x - r.cell.x = (ms.countP (·.steps .east) : Int) - ms.countP (·.steps .west) ∧
      last.y - r.cell.y = (ms.countP (·.steps .north) : Int) - ms.countP (·.steps .south) := by
  induction raws generalizing r with
  | nil => simp [respondAll, moments]
  | cons raw raws ih =>
      simp only [moments, List.forall_mem_cons] at hplace
      have hnow := cell_respond_eq h.1 raw hplace.1
      obtain ⟨hx, hy⟩ := ih (h.respond raw) hplace.2
      have hsteps : ∀ f, (moment size r raw).steps f =
          ((moment size r raw).runs .move && (moment size r raw).outcome.success &&
            decide (r.facing = f)) := fun f => rfl
      simp only [respondAll, moments, List.countP_cons, hsteps]
      rw [hnow] at hx hy
      split at hx
      · next hstep =>
          rw [Cell.x_ahead] at hx
          rw [if_pos hstep, Cell.y_ahead] at hy
          simp only [hstep, Bool.true_and, decide_eq_true_eq]
          omega
      · next hstep =>
          rw [if_neg hstep] at hy
          simp only [hstep, Bool.false_and, Bool.false_eq_true, if_false, Nat.add_zero]
          exact ⟨hx, hy⟩

theorem moments_standard [Routines] (h : Lawful size r) (raws : List (Option Text)) :
    (Interpreter.standard size r).moments .initial raws = moments size r raws := by
  induction raws generalizing r with
  | nil => rfl
  | cons raw raws ih =>
      simp only [Interpreter.moments, Interpreter.process_standard h, ih (h.respond raw)]
      rfl

end Reference

open Reference

namespace Interpreter

/-- From any point of a run at which the robot is placed: if no placement with a facing
succeeds, the facing at the end is the one at the start turned by the commands to the right less
those to the left; and if no placement succeeds at all, the cell is the one at the start moved by
the steps that succeed, those to the east less those to the west and those to the north less those
to the south. -/
theorem counts_tell_facing_and_cell [Routines] {size : Int} (hsize : 1 ≤ size) {lex : Lexicon}
    {i : Interpreter} (hreach : Reachable size lex i) (hplaced : i.robot.placed = true)
    (raws : List (Option Text)) :
    let ms := i.moments lex raws
    let last := (i.processAll lex raws).value.2.1.robot
    ((∀ m ∈ ms, m.placesFacing = false) →
        (last.facing.index : Int) =
          (i.robot.facing.index + (ms.countP (·.runs .right) : Int) -
            ms.countP (·.runs .left)) % 4) ∧
      ((∀ m ∈ ms, m.places = false) →
        last.cell.x - i.robot.cell.x =
            (ms.countP (·.steps .east) : Int) - ms.countP (·.steps .west) ∧
          last.cell.y - i.robot.cell.y =
            (ms.countP (·.steps .north) : Int) - ms.countP (·.steps .south)) := by
  obtain ⟨rfl, r, rfl, hr⟩ := hreach.exists_lawful hsize
  have hstands : Stands size r := hr.stands hplaced
  simp only [moments_standard hr, processAll_standard hr]
  exact ⟨index_respondAll hstands raws, cell_respondAll hstands raws⟩

/-- A placement without a facing does not count, nor do refusals: here two turns to the right and
one to the left; in the second run one step north, one west and one east. -/
theorem counts_tell_facing_and_cell_amid_refusals :
    let i := standard 6 ⟨true, ⟨2, 2⟩, .north⟩
    let turns := ["left", "PLACE 4,5", "Right", "MOVE", "PLACE 7,0,WEST", " RIGHT"].map
      fun t => some t.toList
    let steps := none :: ["MOVE", "left", " move ", "PLACE 1,1,UP", "RIGHT", "report", "Right",
      "Move"].map fun t => some t.toList
    (1 : Int) ≤ 6 ∧ Reachable 6 .initial i ∧ i.robot.placed = true ∧
      (∀ m ∈ i.moments .initial turns, m.placesFacing = false) ∧
      ((i.processAll .initial turns).value.2.1.robot.facing.index : Int) = (0 + 2 - 1) % 4 ∧
      (∀ m ∈ i.moments .initial steps, m.places = false) ∧
      (i.processAll .initial steps).value.2.1.robot.cell.x - 2 = 1 - 1 ∧
      (i.processAll .initial steps).value.2.1.robot.cell.y - 2 = 1 - 0 := by
  intro i turns steps
  have hsize : (1 : Int) ≤ 6 := by decide
  have hreach : Reachable 6 .initial i := reachable_standard hsize (.inr ⟨rfl, by decide⟩)
  have hturns : (∀ m ∈ i.moments .initial turns, m.placesFacing = false) ∧
      (i.moments .initial turns).countP (·.runs .right) = 2 ∧
      (i.moments .initial turns).countP (·.runs .left) = 1 := by decide +kernel
  have hsteps : (∀ m ∈ i.moments .initial steps, m.places = false) ∧
      (i.moments .initial steps).countP (·.steps .east) = 1 ∧
      (i.moments .initial steps).countP (·.steps .west) = 1 ∧
      (i.moments .initial steps).countP (·.steps .north) = 1 ∧
      (i.moments .initial steps).countP (·.steps .south) = 0 := by decide +kernel
  obtain ⟨hnoFacing, hright, hleft⟩ := hturns
  obtain ⟨hnoPlace, heast, hwest, hnorth, hsouth⟩ := hsteps
  have hfacing := (counts_tell_facing_and_cell hsize hreach rfl turns).1 hnoFacing
  have hcell := (counts_tell_facing_and_cell hsize hreach rfl steps).2 hnoPlace
  rw [hright, hleft] at hfacing
  rw [heast, hwest, hnorth, hsouth] at hcell
  exact ⟨hsize, hreach, rfl, hnoFacing, hfacing, hnoPlace, hcell⟩

end Interpreter

end TableRobot
