import TableRobot.Numeral.Reader
import TableRobot.Numeral.Rounding
/-!
# Floating numbers

Numbers of the 64-bit floating format: a sign and a magnitude, which is a
significand of at most 53 bits times a power of two, or an infinity, or no
number. All of it is exact arithmetic of integers.
-/

namespace TableRobot.Numeral

/-- The magnitude `significand * 2 ^ exponent`. -/
structure Magnitude where
  significand : Nat
  exponent : Int
  deriving DecidableEq, Repr

/-- A number of the floating format. -/
inductive Floating where
  | finite (negative : Bool) (magnitude : Magnitude)
  | infinite (negative : Bool)
  | notANumber
  deriving DecidableEq, Repr

/-- Why a floating number has no integer part. -/
inductive CutFault where
  | infinite
  | notANumber
  deriving DecidableEq, Repr

def CutFault.message : CutFault → Text
  | infinite => "cannot convert float infinity to integer".toList
  | notANumber => "cannot convert float NaN to integer".toList

def leastExponent : Int := -1074

def greatestExponent : Int := 971

def leastSignificand : Nat := 1 <<< 52

namespace Magnitude

def cut (m : Magnitude) : Nat :=
  if 0 ≤ m.exponent then m.significand <<< m.exponent.toNat
  else m.significand >>> (-m.exponent).toNat

/-- The magnitude of the format that is nearest to an integer; `none` if it is beyond
the greatest. -/
def ofNat? (n : Nat) : Option Magnitude :=
  if n < leastSignificand then
    if n = 0 then some ⟨0, leastExponent⟩
    else
      let shift := 52 - n.log2
      some ⟨n <<< shift, -(shift : Int)⟩
  else
    let shift := n.log2 - 52
    let s := nearest n (1 <<< shift)
    let m : Magnitude := if s < 1 <<< 53 then ⟨s, shift⟩ else ⟨leastSignificand, shift + 1⟩
    if m.exponent ≤ greatestExponent then some m else none

end Magnitude

namespace Floating

/-- The number with these bits: a sign, eleven bits of exponent and 52 of fraction. -/
def ofBits (bits : Nat) : Floating :=
  let negative : Bool := 1 <<< 63 ≤ bits
  let exponent := (bits >>> 52) % (1 <<< 11)
  let fraction := bits % (1 <<< 52)
  if exponent = 2047 then if fraction = 0 then .infinite negative else .notANumber
  else if exponent = 0 then .finite negative ⟨fraction, leastExponent⟩
  else .finite negative ⟨leastSignificand + fraction, leastExponent + exponent - 1⟩

def cut : Floating → Except CutFault Int
  | finite negative m => .ok (signed negative m.cut)
  | infinite _ => .error .infinite
  | notANumber => .error .notANumber

/-- The number nearest to an integer; `none` if it is beyond the greatest. -/
def ofInt? (n : Int) : Option Floating :=
  (Magnitude.ofNat? n.natAbs).map (finite (n < 0))

example : (ofBits 0xC01F000000000000).cut.toOption = some (-7) := by decide +kernel

example : ofInt? (-1) = some (ofBits 0xBFF0000000000000) := by decide +kernel

end Floating

end TableRobot.Numeral
