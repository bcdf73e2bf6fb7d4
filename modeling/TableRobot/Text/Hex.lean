import TableRobot.Text.Basic
/-!
# Hexadecimal numbers of fixed width

Escapes write a code point as a fixed number of lower-case hexadecimal digits.
Reading the digits back gives the number, cut to the width.
-/

namespace TableRobot.Text

/-- The lower-case digit of a number below sixteen. -/
def hexDigit (n : Nat) : Char :=
  if n < 10 then Char.ofNat (0x30 + n) else Char.ofNat (0x57 + n)

/-- The last `width` hexadecimal digits of `n`, most significant first. -/
def hex : (width n : Nat) → Text
  | 0, _ => []
  | w + 1, n => hex w (n / 16) ++ [hexDigit (n % 16)]

/-- How many numbers can be written with `width` digits. -/
def hexRange : (width : Nat) → Nat
  | 0 => 1
  | w + 1 => 16 * hexRange w

/-- The value of a hexadecimal digit of either case. -/
def hexValue? (c : Char) : Option Nat :=
  let n := c.toNat
  if 0x30 ≤ n && n ≤ 0x39 then some (n - 0x30)
  else if 0x61 ≤ n && n ≤ 0x66 then some (n - 0x57)
  else if 0x41 ≤ n && n ≤ 0x46 then some (n - 0x37)
  else none

/-- The number that hexadecimal digits denote, or `none` if one is no such digit. -/
def readHex? (ds : Text) : Option Nat :=
  ds.foldl (fun n d => n.bind fun v => (hexValue? d).map (16 * v + ·)) (some 0)

theorem hexValue?_hexDigit {n : Nat} (h : n < 16) : hexValue? (hexDigit n) = some n := by
  have : ∀ k : Fin 16, hexValue? (hexDigit k) = some k.val := by decide
  exact this ⟨n, h⟩

/-- Reading what was written gives the number modulo the range of the width. -/
theorem readHex?_hex (width n : Nat) : readHex? (hex width n) = some (n % hexRange width) := by
  induction width generalizing n with
  | zero => simp [hex, readHex?, hexRange, Nat.mod_one]
  | succ w ih =>
      have hd : hexValue? (hexDigit (n % 16)) = some (n % 16) :=
        hexValue?_hexDigit (Nat.mod_lt _ (by decide))
      have hi : readHex? (hex w (n / 16) ++ [hexDigit (n % 16)]) =
          (readHex? (hex w (n / 16))).bind fun v =>
            (hexValue? (hexDigit (n % 16))).map (16 * v + ·) := by
        simp [readHex?, List.foldl_append]
      rw [hex, hi, ih, hd]
      simp only [Option.bind_some, Option.map_some, Option.some.injEq]
      rw [hexRange, Nat.mod_mul]
      omega

end TableRobot.Text
