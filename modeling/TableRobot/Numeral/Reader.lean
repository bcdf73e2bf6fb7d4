import TableRobot.Numeral.Decimal
import TableRobot.Text.Blank
import TableRobot.Text.Quoted
/-!
# Reading numerals

Settings, options and reports admit a wide form of integers: white space around
it, a sign of either kind, digits of any script and single underscores between
digits. More than 4300 digits are refused before their value is worked out.
Coordinates of a placement are read by the same rule from ASCII text only, and
they have to fit 32 bits.
-/

namespace TableRobot.Numeral

open Text (trimBy isNumeralBlank isDigit numberOf fields isAscii quoted)

/-- Why a text is no numeral. -/
inductive Fault where
  | malformed (text : Text)
  | tooLong (count : Nat)
  deriving DecidableEq, Repr

def maxDigits : Nat := 4300

def isWritable (n : Int) : Bool := (digits n.natAbs).length ≤ maxDigits

/-- The wording of a fault; a malformed text is shown in at most 200 characters. -/
def Fault.message : Fault → Text
  | .malformed text =>
      "invalid literal for int() with base 10: ".toList ++ (quoted text).take 200
  | .tooLong count =>
      "Exceeds the limit (4300 digits) for integer string conversion: value has ".toList ++
        digits count ++
        " digits; use sys.set_int_max_str_digits() to increase the limit".toList

/-- Splits the sign off a numeral; `true` stands for minus. -/
def splitSign : Text → Bool × Text
  | '+' :: t => (false, t)
  | '-' :: t => (true, t)
  | t => (false, t)

def signed (negative : Bool) (n : Nat) : Int := if negative then -(n : Int) else n

def isBodyChar (c : Char) : Bool := c == '_' || isDigit c

/-- Reads an integer in the wide form. A misplaced underscore counts before the
limit on digits, the limit before what follows the digits. -/
def read (t : Text) : Except Fault Int :=
  let (negative, rest) := splitSign (trimBy isNumeralBlank t)
  let groups := fields '_' (rest.takeWhile isBodyChar)
  if groups.any List.isEmpty then .error (.malformed t)
  else if maxDigits < groups.flatten.length then .error (.tooLong groups.flatten.length)
  else if rest.dropWhile isBodyChar ≠ [] then .error (.malformed t)
  else .ok (signed negative (numberOf groups.flatten))

/-! ## Coordinates -/

def fits32 (n : Int) : Bool := -2147483648 ≤ n && n ≤ 2147483647

/-- Reads a coordinate: a numeral in ASCII whose value fits 32 bits. -/
def readCoordinate? (t : Text) : Option Int :=
  if isAscii t then
    match read t with
    | .ok n => if fits32 n then some n else none
    | .error _ => none
  else none

theorem fits32_of_readCoordinate? {t : Text} {n : Int} (h : readCoordinate? t = some n) :
    fits32 n = true := by
  unfold readCoordinate? at h
  split at h
  · split at h
    · split at h
      · next hn => exact Option.some.inj h ▸ hn
      · simp at h
    · simp at h
  · simp at h

example : (read " +1_0\t".toList).toOption = some 10 := by decide +kernel

example : readCoordinate? "-007".toList = some (-7) := by decide +kernel

end TableRobot.Numeral
