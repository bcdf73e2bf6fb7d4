import TableRobot.Board.Robot
/-!
# Outcomes of commands

Each command ends in an outcome: whether it succeeded, a message, and for a
report the payload. The messages of the built-in commands are set here, those
of refusals in one place.
-/

namespace TableRobot

/-- How a command ended. -/
structure Outcome where
  success : Bool
  message : Text
  report : Option Text
  deriving DecidableEq, Repr

/-- Why the robot did not obey a command. -/
inductive Refusal where
  | empty
  | notPlaced
  | unknown
  | crashed
  | outsideTable
  | badFacing
  | noFacing
  | wouldFall
  deriving DecidableEq, Repr

def Refusal.message : Refusal → Text
  | empty => "Empty command.".toList
  | notPlaced => "Robot not yet placed. Commands ignored until a valid PLACE.".toList
  | unknown => "Invalid command.".toList
  | crashed => "Internal error while processing command.".toList
  | outsideTable => "PLACE would put robot outside the table; command discarded.".toList
  | badFacing => "Invalid PLACE direction.".toList
  | noFacing =>
      "PLACE without direction ignored until robot has been placed with direction.".toList
  | wouldFall => "Move would fall off table; command ignored.".toList

namespace Outcome

def ok (message : Text) (report : Option Text) : Outcome := ⟨true, message, report⟩

def failed (message : Text) : Outcome := ⟨false, message, none⟩

def refused (r : Refusal) : Outcome := failed r.message

def placed (c : Cell) (f : Facing) : Outcome :=
  ok ("Placed at ".toList ++ c.text ++ " facing ".toList ++ f.name ++ ".".toList) none

def moved (c : Cell) : Outcome := ok ("Moved to ".toList ++ c.text ++ ".".toList) none

def turnedLeft (f : Facing) : Outcome :=
  ok ("Rotated left to ".toList ++ f.name ++ ".".toList) none

def turnedRight (f : Facing) : Outcome :=
  ok ("Rotated right to ".toList ++ f.name ++ ".".toList) none

def reported (payload : Text) : Outcome := ok "REPORT".toList (some payload)

@[simp] theorem success_refused (r : Refusal) : (refused r).success = false := rfl

@[simp] theorem success_failed (message : Text) : (failed message).success = false := rfl

@[simp] theorem success_ok (message : Text) (report : Option Text) :
    (ok message report).success = true := rfl

end Outcome

end TableRobot
