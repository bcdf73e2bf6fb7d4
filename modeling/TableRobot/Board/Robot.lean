import TableRobot.Board.Cell
/-!
# The robot

What is known of the robot between two commands. Cell and facing mean nothing
before the robot has been placed.
-/

namespace TableRobot

/-- The robot: whether it has been placed, where it stands and where it looks. -/
structure Robot where
  placed : Bool
  cell : Cell
  facing : Facing
  deriving DecidableEq, Repr

namespace Robot

def initial : Robot := ⟨false, ⟨0, 0⟩, .north⟩

def placedAt (_ : Robot) (c : Cell) (f : Facing) : Robot := ⟨true, c, f⟩

def movedTo (r : Robot) (c : Cell) : Robot := { r with cell := c }

def turnedTo (r : Robot) (f : Facing) : Robot := { r with facing := f }

end Robot

end TableRobot
