import TableRobot.Command.Basic
/-!
# Steps within reach

A robot reaches the cells of its table as far as the machine word counts them.
From such a cell no step faults, and a step that ends on the table is the exact
step: where a sum wraps around it turns negative, and the step is off the table.
-/

namespace TableRobot

open Numeral (fitsWord fitsWord_iff fitsWord_wrapWord maxWord minWord wrapWord)

/-- The size of the part of a table that the machine word counts: the lesser of the size and
two to the power 63. -/
def reach (size : Int) : Int :=
  if size ≤ 9223372036854775808 then size else 9223372036854775808

theorem lt_reach_iff {n size : Int} :
    n < reach size ↔ n < size ∧ n < 9223372036854775808 := by
  unfold reach
  split <;> omega

theorem reach_le_self (size : Int) : reach size ≤ size := by
  unfold reach
  split <;> omega

theorem reach_le_reach {size larger : Int} (h : size ≤ larger) : reach size ≤ reach larger := by
  unfold reach
  split
  · split <;> omega
  · split <;> omega

namespace Cell

variable {c : Cell} {size : Int}

theorem fitsWord_of_onTable_reach (h : c.OnTable (reach size)) :
    c.coordinates.all fitsWord = true := by
  obtain ⟨hx, hx', hy, hy'⟩ := h
  rw [lt_reach_iff] at hx' hy'
  simp only [coordinates, List.all_cons, List.all_nil, Bool.and_true, Bool.and_eq_true,
    fitsWord_iff, minWord, maxWord]
  omega

theorem OnTable.of_le {larger : Int} (h : c.OnTable size) (hle : size ≤ larger) :
    c.OnTable larger := by
  obtain ⟨hx, hx', hy, hy'⟩ := h
  exact ⟨hx, by omega, hy, by omega⟩

theorem OnTable.of_reach (h : c.OnTable (reach size)) : c.OnTable size :=
  h.of_le (reach_le_self size)

theorem onTable_mk {x y : Int} :
    OnTable ⟨x, y⟩ size ↔ 0 ≤ x ∧ x < size ∧ 0 ≤ y ∧ y < size :=
  Iff.rfl

theorem onTable_iff : c.OnTable size ↔ (0 ≤ c.x ∧ c.x < size) ∧ 0 ≤ c.y ∧ c.y < size := by
  rw [OnTable, and_assoc]

theorem onTable_eq_ok (h : c.coordinates.all fitsWord = true) :
    c.onTable size = .ok (decide (c.OnTable size)) := by
  rw [onTable, onTable?_coordinates h]

theorem step_eq_ok (h : c.coordinates.all fitsWord = true) (f : Facing) :
    c.step f = .ok ⟨wrapWord (c.ahead f).x, wrapWord (c.ahead f).y⟩ := by
  rw [step, step?, if_pos h]

theorem wrapWord_lt_iff {n : Int} (hlow : -1 ≤ n) (hhigh : n ≤ 9223372036854775808) :
    0 ≤ wrapWord n ∧ wrapWord n < size ↔ 0 ≤ n ∧ n < reach size := by
  rw [lt_reach_iff, wrapWord]
  omega

theorem ahead_bounds (h : c.OnTable (reach size)) (f : Facing) :
    (-1 ≤ (c.ahead f).x ∧ (c.ahead f).x ≤ 9223372036854775808) ∧
      -1 ≤ (c.ahead f).y ∧ (c.ahead f).y ≤ 9223372036854775808 := by
  obtain ⟨hx, hx', hy, hy'⟩ := h
  rw [lt_reach_iff] at hx' hy'
  cases f <;> simp only [ahead] <;> omega

/-- From a cell within reach a step is found on the table exactly if the exact step lies
within reach, and then it is the exact step. -/
theorem step_of_onTable_reach (h : c.OnTable (reach size)) (f : Facing) :
    ∃ t, c.step f = .ok t ∧ t.onTable size = .ok (decide ((c.ahead f).OnTable (reach size))) ∧
      ((c.ahead f).OnTable (reach size) → t = c.ahead f) := by
  obtain ⟨hx, hy⟩ := ahead_bounds h f
  have hfits := fitsWord_of_onTable_reach h
  refine ⟨_, step_eq_ok hfits f, ?_, fun ha => ?_⟩
  · rw [onTable_eq_ok (by simp [coordinates, fitsWord_wrapWord])]
    refine congrArg Except.ok (decide_eq_decide.2 ?_)
    rw [onTable_iff, onTable_iff, wrapWord_lt_iff hx.1 hx.2, wrapWord_lt_iff hy.1 hy.2]
  · have hahead := step?_eq_ahead hfits (fitsWord_of_onTable_reach ha)
    rw [step?, if_pos hfits] at hahead
    exact Option.some.inj hahead

end Cell

end TableRobot
