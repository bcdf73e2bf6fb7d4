import TableRobot.Text.Basic
/-!
# Levels of the journal

Entries of the journal have a level; a reader of the journal sees the entries
whose severity reaches a threshold.
-/

namespace TableRobot

/-- How weighty an entry of the journal is. -/
inductive Level where
  | trace
  | debug
  | info
  | warning
  | error
  | critical
  deriving DecidableEq, Repr

namespace Level

def all : List Level := [trace, debug, info, warning, error, critical]

def severity : Level → Nat
  | trace => 5
  | debug => 10
  | info => 20
  | warning => 30
  | error => 40
  | critical => 50

def name : Level → Text
  | trace => "TRACE".toList
  | debug => "DEBUG".toList
  | info => "INFO".toList
  | warning => "WARNING".toList
  | error => "ERROR".toList
  | critical => "CRITICAL".toList

def named? (t : Text) : Option Level := all.find? (·.name == t)

@[simp] theorem named?_name (l : Level) : named? l.name = some l := by
  cases l <;> decide

end Level

end TableRobot
