import TableRobot.Numeral.Floating
/-!
# Decimal digits of magnitudes

Magnitudes are measured against powers of ten: rounded to a multiple of one, cut
into a number of significant digits, or given by the fewest digits that identify
them. A decimal number identifies a magnitude if no other magnitude of the
format is nearer to it; at the half way between two it belongs to the one with
the even significand.
-/

namespace TableRobot.Numeral

def tenTo (k : Nat) : Nat := Nat.pow 10 k

/-- Digits of a number with the exponent of ten that belongs to the first. -/
structure Digits where
  digits : Text
  order : Int
  deriving DecidableEq, Repr

/-- The zeros at the end left out, but for the first digit. -/
def Digits.stripped (d : Digits) : Digits :=
  { d with digits := d.digits.take 1 ++ Text.trimEndBy (· == '0') (d.digits.drop 1) }

namespace Magnitude

/-- The numerator of the magnitude in units of ten to the power `p`. -/
def numerator (m : Magnitude) (p : Int) : Nat :=
  m.significand <<< m.exponent.toNat * tenTo (-p).toNat

/-- The denominator of the magnitude in units of ten to the power `p`. -/
def denominator (m : Magnitude) (p : Int) : Nat :=
  1 <<< (-m.exponent).toNat * tenTo p.toNat

def rounded (m : Magnitude) (p : Int) : Nat := nearest (m.numerator p) (m.denominator p)

/-- The exponent of ten of the first digit; zero for zero. -/
def order (m : Magnitude) : Int :=
  let a := m.numerator 0
  let b := m.denominator 0
  if a = 0 then 0
  else if b ≤ a then (digits (a / b)).length - 1
  else -((digits ((b - 1) / a)).length : Int)

/-- The magnitude rounded to a number of significant digits. -/
def significant (m : Magnitude) (count : Nat) : Digits :=
  if m.significand = 0 then ⟨List.replicate count '0', 0⟩
  else
    let k := m.order
    let n := m.rounded (k + 1 - count)
    if n < tenTo count then ⟨digits n, k⟩ else ⟨digits (n / 10), k + 1⟩

/-- Holds if `n * 10 ^ p` identifies the magnitude. Below a power of two the next
magnitude is nearer by half. -/
def identifiedBy (m : Magnitude) (n : Nat) (p : Int) : Bool :=
  let unit := 1 <<< m.exponent.toNat * tenTo (-p).toNat
  let x := 4 * n * m.denominator p
  let gap := if m.significand = leastSignificand && leastExponent < m.exponent then 1 else 2
  let low := (4 * m.significand - gap) * unit
  let high := (4 * m.significand + 2) * unit
  if m.significand % 2 = 0 then low ≤ x && x ≤ high else low < x && x < high

/-- The digits in units of ten to the power `p` that identify the magnitude, the nearest
before the others. -/
def identifier? (m : Magnitude) (p : Int) : Option Nat :=
  let n := m.numerator p / m.denominator p
  [m.rounded p, n, n + 1].find? (m.identifiedBy · p)

/-- The fewest digits that identify the magnitude; seventeen always do. -/
def shortest (m : Magnitude) : Digits :=
  if m.significand = 0 then ⟨['0'], 0⟩
  else
    let k := m.order
    let found := (List.range 17).findSome? fun (i : Nat) =>
      (m.identifier? (k - (i : Int))).map fun n =>
        if n < tenTo (i + 1) then ⟨digits n, k⟩ else ⟨digits n, k + 1⟩
    (found.getD (m.significant 17)).stripped

example : (Magnitude.mk (leastSignificand + 2702159776422298) (-56)).shortest = ⟨['1'], -1⟩ := by
  decide +kernel

end Magnitude

end TableRobot.Numeral
