import TableRobot.Numeral.Quantity
import TableRobot.Template.Fault
/-!
# Faults

What can go wrong beyond the refusal of a command: arguments that cannot be
used, keywords that are taken, kinds of commands that are incomplete, numbers
that are out of range. A fault is a cause; its wording is a function of it.
-/

namespace TableRobot

open Numeral (written)
open Text (joined orNone)

/-- How many words a command line may have, the keyword included. -/
inductive Arity where
  | exactly (n : Int)
  | between (least most : Int)
  deriving DecidableEq, Repr

namespace Arity

def admits : Arity → Int → Bool
  | exactly n, k => k == n
  | between least most, k => least ≤ k && k ≤ most

/-- The least and the greatest admitted number of parameters behind the keyword. -/
def bounds : Arity → List Int
  | exactly n => [n - 1]
  | between least most => [least - 1, most - 1]

def text (rule : Arity) : Text := joined " to ".toList (rule.bounds.map written)

end Arity

/-- What went wrong. -/
inductive Fault where
  | arity (command : Text) (rule : Arity) (given : Int)
  | unwritable
  | badCoordinates
  | noWords
  | notMatched
  | beyondWord
  | quantity (fault : Numeral.QuantityFault)
  | template (fault : Template.Fault)
  | tableTooSmall (size : Int)
  | keywordTaken (key holder newcomer : Text)
  | notACommand (title : Text)
  | noAction (title : Text)
  | missing (title feature : Text)
  | noMatching (title : Text)
  | thrownByMatching (message : Option Text)
  | thrownByAction (message : Text)
  deriving DecidableEq, Repr

def clippedTitle (title : Text) : Text := Text.clipped 50 title

def Fault.message : Fault → Text
  | arity command rule given =>
      command ++ " requires ".toList ++ rule.text ++ " parameters, got ".toList ++
        written (given - 1)
  | unwritable =>
      "Exceeds the limit (4300 digits) for integer string conversion; ".toList ++
        "use sys.set_int_max_str_digits() to increase the limit".toList
  | badCoordinates => "Invalid PLACE coordinates.".toList
  | noWords => "list index out of range".toList
  | notMatched => []
  | beyondWord => "Python int too large to convert to C long".toList
  | quantity fault => fault.message
  | template fault => fault.message
  | tableTooSmall size => "grid_size must be >= 1, got ".toList ++ written size
  | keywordTaken key holder newcomer =>
      "Command '".toList ++ key ++ "' is already registered with class ".toList ++ holder ++
        ". Cannot register with ".toList ++ newcomer
  | notACommand title =>
      "Class ".toList ++ title ++ " must inherit from CommandBase".toList
  | noAction title =>
      "Can't instantiate abstract class ".toList ++ title ++
        " with abstract method do_execute".toList
  | missing title feature =>
      "type object '".toList ++ clippedTitle title ++ "' has no attribute '".toList ++ feature ++ "'".toList
  | noMatching title => '\'' :: clippedTitle title ++ "' object has no attribute 'match'".toList
  | thrownByMatching message => orNone message
  | thrownByAction message => message

/-- Refuses a command line whose word count the rule does not admit. A rule can be told
only if its bounds can be written. -/
def Arity.check (rule : Arity) (command : Text) (words : List Text) : Except Fault Unit :=
  if rule.admits words.length then .ok ()
  else if rule.bounds.all Numeral.isWritable then .error (.arity command rule words.length)
  else .error .unwritable

end TableRobot
