import TableRobot.Text.Hex
/-!
# Numbers in another base

The digits of a number in a base up to sixteen, without leading zeros.
-/

namespace TableRobot.Numeral

open Text (hexDigit)

/-- The digits of `n` in the base for `n` below the bound. -/
def radixBelow (base : Nat) : (bound n : Nat) → Text
  | 0, _ => []
  | b + 1, n =>
      if n < base then [hexDigit n]
      else radixBelow base b (n / base) ++ [hexDigit (n % base)]

def radixDigits (base n : Nat) : Text := radixBelow base (n + 1) n

example : radixDigits 8 8 = "10".toList := by decide +kernel

example : radixDigits 16 48879 = "beef".toList := by decide +kernel

end TableRobot.Numeral
