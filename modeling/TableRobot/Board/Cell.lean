import TableRobot.Board.Facing
import TableRobot.Numeral.Decimal
import TableRobot.Numeral.Word
/-!
# Cells of the table

A table of size `n` has the cells whose coordinates lie from zero to `n - 1`.
Bounds and steps are worked out in machine words, so both refuse a coordinate
beyond the word, and a step wraps around at the end of the word. Where the word
has room for the step it is the exact step.
-/

namespace TableRobot

open Numeral (fitsWord wrapWord written)

/-- A cell by its coordinates. -/
structure Cell where
  x : Int
  y : Int
  deriving DecidableEq, Repr

namespace Cell

def text (c : Cell) : Text := written c.x ++ ',' :: written c.y

/-- The neighbour in the direction of the facing. -/
def ahead (c : Cell) : Facing → Cell
  | .north => ⟨c.x, c.y + 1⟩
  | .east => ⟨c.x + 1, c.y⟩
  | .south => ⟨c.x, c.y - 1⟩
  | .west => ⟨c.x - 1, c.y⟩

def coordinates (c : Cell) : List Int := [c.x, c.y]

/-- The step ahead in machine words; `none` if a coordinate is beyond the word. -/
def step? (c : Cell) (f : Facing) : Option Cell :=
  if c.coordinates.all fitsWord then
    let t := c.ahead f
    some ⟨wrapWord t.x, wrapWord t.y⟩
  else none

end Cell

/-- Whether all numbers are coordinates on a table of the size; `none` if one of
them is beyond the word. -/
def onTable? (size : Int) (ns : List Int) : Option Bool :=
  if ns.all fitsWord then some (ns.all fun n => 0 ≤ n && n < size) else none

/-- Holds of the cells of a table of the size. -/
def Cell.OnTable (c : Cell) (size : Int) : Prop :=
  0 ≤ c.x ∧ c.x < size ∧ 0 ≤ c.y ∧ c.y < size

namespace Cell

instance (c : Cell) (size : Int) : Decidable (c.OnTable size) :=
  inferInstanceAs (Decidable (0 ≤ c.x ∧ c.x < size ∧ 0 ≤ c.y ∧ c.y < size))

theorem onTable?_coordinates {c : Cell} {size : Int} (h : c.coordinates.all fitsWord = true) :
    onTable? size c.coordinates = some (decide (c.OnTable size)) := by
  rw [onTable?, if_pos h]
  refine congrArg some (Bool.eq_iff_iff.2 ?_)
  rw [decide_eq_true_iff]
  simp [coordinates, OnTable, and_assoc]

theorem step?_eq_ahead {c : Cell} {f : Facing} (h : c.coordinates.all fitsWord = true)
    (ha : (c.ahead f).coordinates.all fitsWord = true) : c.step? f = some (c.ahead f) := by
  simp only [coordinates, List.all_cons, List.all_nil, Bool.and_true, Bool.and_eq_true] at ha
  simp [step?, h, Numeral.wrapWord_of_fits ha.1, Numeral.wrapWord_of_fits ha.2]

end Cell

end TableRobot
