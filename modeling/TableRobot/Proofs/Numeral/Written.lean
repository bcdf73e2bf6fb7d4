import TableRobot.Proofs.Numeral.Coordinates
/-!
# Written integers

An integer in writing has the shape of a coordinate and denotes itself.  So
every reader of numerals gives it back, up to the limits that the readers set:
4300 digits for the wide form, 32 bits for a coordinate.
-/

namespace TableRobot.Numeral

open Placement (isCoordinate)
open Text (IsToken isAscii isDigit numberOf)

/-! ## Digits -/

theorem exists_of_mem_digits {n : Nat} {c : Char} (hc : c ∈ digits n) :
    ∃ k < 10, c = digit k := by
  induction n using Nat.strongRecOn with
  | _ n ih =>
      rcases Nat.lt_or_ge n 10 with hn | hn
      · rw [digits_of_lt hn, List.mem_singleton] at hc
        exact ⟨n, hn, hc⟩
      · rw [digits_of_le hn, List.mem_append, List.mem_singleton] at hc
        rcases hc with hc | hc
        · exact ih (n / 10) (by omega) hc
        · exact ⟨n % 10, by omega, hc⟩

theorem digits_ne_nil (n : Nat) : digits n ≠ [] := by
  rcases Nat.lt_or_ge n 10 with hn | hn
  · simp [digits_of_lt hn]
  · simp [digits_of_le hn]

theorem all_isDigit_digits (n : Nat) : (digits n).all isDigit = true := by
  apply List.all_eq_true.2
  intro c hc
  obtain ⟨k, hk, rfl⟩ := exists_of_mem_digits hc
  rw [isDigit, digitValue?_digit hk]
  rfl

theorem isAscii_digits (n : Nat) : isAscii (digits n) = true := by
  have hdigit : ∀ k < 10, (digit k).toNat < 0x80 := by decide
  apply List.all_eq_true.2
  intro c hc
  obtain ⟨k, hk, rfl⟩ := exists_of_mem_digits hc
  exact decide_eq_true (hdigit k hk)

theorem isRow_digits (n : Nat) : IsRow (digits n) := ⟨digits_ne_nil n, all_isDigit_digits n⟩

theorem length_digits_le_of_le {m n : Nat} (h : m ≤ n) :
    (digits m).length ≤ (digits n).length := by
  induction n using Nat.strongRecOn generalizing m with
  | _ n ih =>
      rcases Nat.lt_or_ge m 10 with hm | hm
      · rw [digits_of_lt hm]
        exact List.length_pos_iff.2 (digits_ne_nil n)
      · have htail := ih (n / 10) (by omega) (show m / 10 ≤ n / 10 by omega)
        rw [digits_of_le hm, digits_of_le (Nat.le_trans hm h), List.length_append,
          List.length_append]
        exact Nat.add_le_add_right htail 1

/-! ## Signs -/

theorem digitsOf_digits (n : Nat) : digitsOf (digits n) = digits n := (isRow_digits n).digitsOf_eq

theorem valueOf_digits (n : Nat) : valueOf (digits n) = n := by
  rw [(isRow_digits n).valueOf_eq, numberOf_digits]

theorem digitsOf_written (n : Int) : digitsOf (written n) = digits n.natAbs := by
  cases n with
  | ofNat n => exact digitsOf_digits n
  | negSucc n => rfl

@[simp] theorem valueOf_written (n : Int) : valueOf (written n) = n := by
  cases n with
  | ofNat n => exact valueOf_digits n
  | negSucc n =>
      rw [written, valueOf, numberOf_digits]
      rfl

@[simp] theorem isCoordinate_written (n : Int) : isCoordinate (written n) = true := by
  cases n with
  | ofNat n => exact isCoordinate_iff.2 (.inl (isRow_digits n))
  | negSucc n => exact isCoordinate_iff.2 (.inr ⟨digits (n + 1), isRow_digits (n + 1), rfl⟩)

theorem isAscii_written (n : Int) : isAscii (written n) = true := by
  cases n with
  | ofNat n => exact isAscii_digits n
  | negSucc n =>
      have hdigits := isAscii_digits (n + 1)
      rw [isAscii] at hdigits
      rw [written, isAscii, List.all_cons, hdigits]
      rfl

theorem isToken_written (n : Int) : IsToken (written n) :=
  Placement.isToken_of_isCoordinate (isCoordinate_written n)

/-! ## Reading back -/

theorem read_written {n : Int} (h : isWritable n = true) : read (written n) = .ok n := by
  have hlen : (digitsOf (written n)).length ≤ maxDigits := by
    rw [digitsOf_written]
    exact of_decide_eq_true h
  rw [read_of_isCoordinate (isCoordinate_written n), if_neg (Nat.not_lt.2 hlen), valueOf_written]

/-- An integer of a machine word has nineteen digits at most, far from the limit on digits. -/
theorem length_digits_of_fitsWord {n : Int} (h : fitsWord n = true) :
    (digits n.natAbs).length ≤ 4300 := by
  rw [fitsWord_iff, minWord, maxWord] at h
  have hle : n.natAbs ≤ 9223372036854775808 := by omega
  have hlen := length_digits_le_of_le hle
  have hword : (digits 9223372036854775808).length = 19 := by decide +kernel
  omega

theorem isWritable_of_fitsWord {n : Int} (h : fitsWord n = true) : isWritable n = true :=
  decide_eq_true (length_digits_of_fitsWord h)

theorem coordinate?_written (n : Int) :
    coordinate? (written n) =
      if -2147483648 ≤ n ∧ n ≤ 2147483647 then some n else none := by
  rw [coordinate?, valueOf_written, digitsOf_written, isAscii_written]
  by_cases hn : -2147483648 ≤ n ∧ n ≤ 2147483647
  · have hword : fitsWord n = true := by
      rw [fitsWord_iff, minWord, maxWord]
      omega
    have hlen := length_digits_of_fitsWord hword
    rw [if_pos hn, if_pos ⟨rfl, hlen, hn⟩]
  · rw [if_neg hn, if_neg fun h => hn h.2.2]

theorem readCoordinate?_written (n : Int) :
    readCoordinate? (written n) =
      if -2147483648 ≤ n ∧ n ≤ 2147483647 then some n else none := by
  rw [readCoordinate?_eq_coordinate? (isCoordinate_written n), coordinate?_written]

end TableRobot.Numeral
