/-!
# Rounded quotients

The integer nearest to a quotient. Where two integers are equally near, the
even one is taken. The main statements say that the result is within half a
unit of the quotient and even at a tie.
-/

namespace TableRobot.Numeral

/-- The integer nearest to `a / b`, the even one of two that are equally near. -/
def nearest (a b : Nat) : Nat :=
  let q := a / b
  let r := a % b
  if 2 * r < b then q
  else if b < 2 * r then q + 1
  else q + q % 2

theorem nearest_close {a b : Nat} (h : 0 < b) :
    2 * (nearest a b * b) ≤ 2 * a + b ∧ 2 * a ≤ 2 * (nearest a b * b) + b := by
  have hdiv : b * (a / b) + a % b = a := Nat.div_add_mod a b
  have hmod : a % b < b := Nat.mod_lt a h
  have hq : a / b * b = b * (a / b) := Nat.mul_comm _ _
  have hs : (a / b + 1) * b = b * (a / b) + b := by
    rw [Nat.add_mul, Nat.one_mul, hq]
  rw [nearest]
  split
  · omega
  · split
    · omega
    · rcases Nat.mod_two_eq_zero_or_one (a / b) with hp | hp
      · rw [hp, Nat.add_zero]
        omega
      · rw [hp]
        omega

theorem nearest_even {a b : Nat} (h : 2 * (a % b) = b) : nearest a b % 2 = 0 := by
  rw [nearest, if_neg (by omega), if_neg (by omega)]
  omega

end TableRobot.Numeral
