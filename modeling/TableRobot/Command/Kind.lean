import TableRobot.Board.Outcome
import TableRobot.Command.Placement
/-!
# Kinds of commands

A kind says how commands of one sort are matched against a command line and
what they do. Five kinds are built in. Others are given by description: they
derive from a general kind or from a built-in one and may replace its flags,
its matching and its action, also by routines of their own that go by name. An
outsider is something that was bound to a keyword without being a kind of
command at all.
-/

namespace TableRobot

/-- The built-in kinds. -/
inductive Builtin where
  | place
  | move
  | left
  | right
  | report
  deriving DecidableEq, Repr

namespace Builtin

def all : List Builtin := [place, move, left, right, report]

def keyword : Builtin → Text
  | place => Placement.keyword
  | move => "MOVE".toList
  | left => "LEFT".toList
  | right => "RIGHT".toList
  | report => "REPORT".toList

def title : Builtin → Text
  | place => "PlaceCommand".toList
  | move => "MoveCommand".toList
  | left => "LeftCommand".toList
  | right => "RightCommand".toList
  | report => "ReportCommand".toList

def needsPlacement (b : Builtin) : Bool := b != place

def takesArguments (b : Builtin) : Bool := b == place

def titled? (t : Text) : Option Builtin := all.find? (·.title == t)

end Builtin

/-- How a command is matched against a command line. -/
inductive Matching where
  | keyword
  | placement
  | accept
  | decline (reason : Option Text)
  | throw (message : Option Text)
  | spoil (message : Option Text)
  | coded (routine : Text)
  deriving DecidableEq, Repr

/-- What a command does with the robot. -/
inductive Action where
  | builtin (b : Builtin)
  | succeed (message : Text) (report : Option Text)
  | throw (message : Text)
  | put (cell : Cell) (facing : Facing) (message : Text)
  | putAndFail (cell : Cell) (facing : Facing) (message : Text)
  | coded (routine : Text)
  deriving DecidableEq, Repr

/-- What a described kind derives from. -/
inductive Parent where
  | keyword
  | bare
  | builtin (b : Builtin)
  deriving DecidableEq, Repr

namespace Parent

/-- The inherited flag of kinds that wait for a placement. -/
def needsPlacement : Parent → Bool
  | builtin b => b.needsPlacement
  | _ => true

/-- The inherited flag of kinds that are recognised by their arguments. -/
def takesArguments : Parent → Bool
  | builtin b => b.takesArguments
  | _ => false

/-- The matching that is inherited; a bare kind accepts every line. -/
def matching : Parent → Matching
  | keyword => .keyword
  | bare => .accept
  | builtin .place => .placement
  | builtin _ => .keyword

/-- The action that is inherited; only built-in kinds have one. -/
def action? : Parent → Option Action
  | builtin b => some (.builtin b)
  | _ => none

end Parent

/-- A kind given by description. -/
structure Custom where
  title : Text
  parent : Parent
  needsPlacement? : Option Bool
  takesArguments? : Option Bool
  matching? : Option Matching
  action? : Option Action
  deriving DecidableEq, Repr

/-- What can be bound to a keyword. -/
inductive Kind where
  | builtin (b : Builtin)
  | custom (c : Custom)
  | outsider (title : Text)
  deriving DecidableEq, Repr

namespace Kind

def title : Kind → Text
  | builtin b => b.title
  | custom c => c.title
  | outsider title => title

/-- Holds of the kinds that are refused until the robot has been placed. -/
def needsPlacement : Kind → Bool
  | builtin b => b.needsPlacement
  | custom c => c.needsPlacement?.getD c.parent.needsPlacement
  | outsider _ => true

/-- Holds of the kinds that are recognised by their arguments. -/
def takesArguments : Kind → Bool
  | builtin b => b.takesArguments
  | custom c => c.takesArguments?.getD c.parent.takesArguments
  | outsider _ => false

def isCommand : Kind → Bool
  | outsider _ => false
  | _ => true

def parent? : Kind → Option Builtin
  | custom ⟨_, .builtin b, _, _, _, _⟩ => some b
  | _ => none

def isPlacement (k : Kind) : Bool := k == builtin .place || k.parent? == some .place

end Kind

end TableRobot
