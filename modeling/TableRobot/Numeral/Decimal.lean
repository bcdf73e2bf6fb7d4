import TableRobot.Text.Digit
/-!
# Decimal numerals

How integers are written: the digits of the magnitude without leading zeros,
behind a minus sign if the integer is negative. The main statements give the
recursion of the digits and their value.
-/

namespace TableRobot.Numeral

open Text (digitValue digitValue? isDigit numberOf)

def digit (n : Nat) : Char := Char.ofNat (0x30 + n)

/-- The decimal digits of `n` for `n` below the bound. -/
def digitsBelow : (bound n : Nat) → Text
  | 0, _ => []
  | b + 1, n => if n < 10 then [digit n] else digitsBelow b (n / 10) ++ [digit (n % 10)]

/-- The decimal digits of `n`, most significant first and without leading zeros. -/
def digits (n : Nat) : Text := digitsBelow (n + 1) n

def written : Int → Text
  | .ofNat n => digits n
  | .negSucc n => '-' :: digits (n + 1)

private theorem digitsBelow_eq_of_lt {b c n : Nat} (hb : n < b) (hc : n < c) :
    digitsBelow b n = digitsBelow c n := by
  induction b generalizing c n with
  | zero => omega
  | succ b ih =>
      cases c with
      | zero => omega
      | succ c =>
          simp only [digitsBelow]
          split
          · rfl
          · rw [ih (c := c) (by omega) (by omega)]

theorem digits_of_lt {n : Nat} (h : n < 10) : digits n = [digit n] := by
  simp [digits, digitsBelow, h]

theorem digits_of_le {n : Nat} (h : 10 ≤ n) :
    digits n = digits (n / 10) ++ [digit (n % 10)] := by
  rw [digits, digitsBelow, if_neg (by omega), digits,
    digitsBelow_eq_of_lt (b := n) (c := n / 10 + 1) (by omega) (by omega)]

theorem digitValue?_digit {n : Nat} (h : n < 10) : digitValue? (digit n) = some n := by
  have : ∀ k : Fin 10, digitValue? (digit k) = some k.val := by decide
  exact this ⟨n, h⟩

@[simp] theorem numberOf_digits (n : Nat) : numberOf (digits n) = n := by
  induction n using Nat.strongRecOn with
  | _ n ih =>
      rcases Nat.lt_or_ge n 10 with h | h
      · simp [digits_of_lt h, numberOf, digitValue, digitValue?_digit h]
      · rw [digits_of_le h, Text.numberOf_append_singleton, ih (n / 10) (by omega)]
        simp only [digitValue, digitValue?_digit (Nat.mod_lt n (by decide)), Option.getD_some]
        omega

example : written (-2147483648) = "-2147483648".toList := by decide +kernel

end TableRobot.Numeral
