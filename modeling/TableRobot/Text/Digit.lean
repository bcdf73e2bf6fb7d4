import TableRobot.Text.Basic
/-!
# Decimal digits of every script

Unicode gives each script its ten decimal digits in a row, from zero to nine.
The table lists where each row starts; a digit's value is its distance from the
start of its row.
-/

namespace TableRobot.Text

/-- The code points of the digits zero, in increasing order. -/
def digitZeros : List Nat :=
  [0x30, 0x660, 0x6F0, 0x7C0, 0x966, 0x9E6, 0xA66, 0xAE6, 0xB66, 0xBE6, 0xC66, 0xCE6, 0xD66,
   0xDE6, 0xE50, 0xED0, 0xF20, 0x1040, 0x1090, 0x17E0, 0x1810, 0x1946, 0x19D0, 0x1A80, 0x1A90,
   0x1B50, 0x1BB0, 0x1C40, 0x1C50, 0xA620, 0xA8D0, 0xA900, 0xA9D0, 0xA9F0, 0xAA50, 0xABF0,
   0xFF10, 0x104A0, 0x10D30, 0x11066, 0x110F0, 0x11136, 0x111D0, 0x112F0, 0x11450, 0x114D0,
   0x11650, 0x116C0, 0x11730, 0x118E0, 0x11950, 0x11C50, 0x11D50, 0x11DA0, 0x16A60, 0x16AC0,
   0x16B50, 0x1D7CE, 0x1D7D8, 0x1D7E2, 0x1D7EC, 0x1D7F6, 0x1E140, 0x1E2F0, 0x1E950, 0x1FBF0]

def digitValue? (c : Char) : Option Nat :=
  if 0x30 ≤ c.toNat && c.toNat ≤ 0x39 then some (c.toNat - 0x30)
  else (digitZeros.find? fun z => z ≤ c.toNat && c.toNat ≤ z + 9).map (c.toNat - ·)

/-- Holds of the decimal digits of every script. -/
def isDigit (c : Char) : Bool := (digitValue? c).isSome

def digitValue (c : Char) : Nat := (digitValue? c).getD 0

/-- The number that a row of digits denotes, most significant digit first. -/
def numberOf (ds : Text) : Nat := ds.foldl (fun n d => 10 * n + digitValue d) 0

theorem numberOf_append_singleton (ds : Text) (d : Char) :
    numberOf (ds ++ [d]) = 10 * numberOf ds + digitValue d := by
  simp [numberOf, List.foldl_append]

theorem digitValue?_of_asciiDigit {c : Char} (h : c.isDigit = true) :
    digitValue? c = some (c.toNat - '0'.toNat) := by
  obtain ⟨hle, hge⟩ := Char.isDigit_iff_toNat.1 h
  have hcode : (0x30 ≤ c.toNat && c.toNat ≤ 0x39) = true := by
    rw [Bool.and_eq_true, decide_eq_true_eq, decide_eq_true_eq]
    exact ⟨hle, hge⟩
  rw [digitValue?, if_pos hcode]
  rfl

theorem isDigit_of_asciiDigit {c : Char} (h : c.isDigit = true) : isDigit c = true := by
  rw [isDigit, digitValue?_of_asciiDigit h]
  rfl

example : digitZeros.length = 66 := rfl

end TableRobot.Text
