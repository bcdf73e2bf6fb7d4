import TableRobot.Numeral.Floating
import TableRobot.Numeral.Radix
import TableRobot.Text.Quoted
/-!
# Faults of templates

Why a template cannot be filled. A fault is a cause; its wording is a function
of it.
-/

namespace TableRobot.Template

open Numeral (digits radixDigits)

/-- What went wrong. -/
inductive Fault where
  | incomplete
  | keyUnclosed
  | keyMissing (key : Text)
  | tableNeeded
  | tooFewArguments
  | tooManyArguments
  | unknownConversion (conversion : Char) (place : Nat)
  | starNeedsInteger
  | widthTooBig
  | widthBeyondWord
  | precisionTooBig
  | precisionBeyondWord
  | tooManyDigits
  | integerNeeded (conversion : Char) (sort : Text)
  | numberNeeded (conversion : Char) (sort : Text)
  | floatingNeeded (sort : Text)
  | uncuttable (fault : Numeral.CutFault)
  | beyondFloating
  | characterNeeded
  | beyondCharacters
  | noRoom
  deriving DecidableEq, Repr

/-- A conversion as a message shows it; a question mark stands for what is not plain. -/
def shownConversion (c : Char) : Char :=
  if 31 ≤ c.toNat && c.toNat ≤ 126 then c else '?'

def Fault.message : Fault → Text
  | incomplete => "incomplete format".toList
  | keyUnclosed => "incomplete format key".toList
  | keyMissing key => Text.quoted key
  | tableNeeded => "format requires a mapping".toList
  | tooFewArguments => "not enough arguments for format string".toList
  | tooManyArguments => "not all arguments converted during string formatting".toList
  | unknownConversion c place =>
      "unsupported format character '".toList ++ shownConversion c :: "' (0x".toList ++
        radixDigits 16 c.toNat ++ ") at index ".toList ++ digits place
  | starNeedsInteger => "* wants int".toList
  | widthTooBig => "width too big".toList
  | widthBeyondWord => "Python int too large to convert to C ssize_t".toList
  | precisionTooBig => "precision too big".toList
  | precisionBeyondWord => "Python int too large to convert to C int".toList
  | tooManyDigits => "precision too large".toList
  | integerNeeded c sort =>
      '%' :: c :: " format: an integer is required, not ".toList ++ sort
  | numberNeeded c sort =>
      '%' :: c :: " format: a real number is required, not ".toList ++ sort
  | floatingNeeded sort => "must be real number, not ".toList ++ sort
  | uncuttable fault => fault.message
  | beyondFloating => "int too large to convert to float".toList
  | characterNeeded => "%c requires int or char".toList
  | beyondCharacters => "%c arg not in range(0x110000)".toList
  | noRoom => []

end TableRobot.Template
