import TableRobot.Numeral.Word
import TableRobot.Proofs.Numeral.Layout
import TableRobot.Proofs.Placement.Grammar
/-!
# Coordinates as tokens

A coordinate of a placement is a minus sign or none with a row of digits behind
it.  Reading such a token takes its sign and its number, and refuses it only
for a digit beyond ASCII, for more than 4300 digits and for a number beyond 32
bits.  Reading alone admits more, and white space, a plus sign or an underscore
is what tells the numerals that are no coordinates.
-/

namespace TableRobot.Numeral

open Placement (isCoordinate)
open Text

def digitsOf : Text → Text
  | '-' :: ds => ds
  | ds => ds

def valueOf : Text → Int
  | '-' :: ds => -(numberOf ds : Int)
  | ds => (numberOf ds : Int)

/-- The integer that a coordinate stands for, if it is written in ASCII with few enough
digits and fits 32 bits. -/
def coordinate? (t : Text) : Option Int :=
  if isAscii t = true ∧ (digitsOf t).length ≤ 4300 ∧ -2147483648 ≤ valueOf t ∧
      valueOf t ≤ 2147483647 then
    some (valueOf t)
  else none

theorem bounds_of_coordinate? {t : Text} {n : Int} (h : coordinate? t = some n) :
    -2147483648 ≤ n ∧ n ≤ 2147483647 := by
  simp only [coordinate?, Option.ite_none_right_eq_some, Option.some.injEq] at h
  omega

theorem fitsWord_of_coordinate? {t : Text} {n : Int} (h : coordinate? t = some n) :
    fitsWord n = true := by
  have := bounds_of_coordinate? h
  rw [fitsWord_iff, minWord, maxWord]
  omega

/-! ## Coordinates among numerals -/

theorem digitsOf_cons {c : Char} (hc : c ≠ '-') (ds : Text) : digitsOf (c :: ds) = c :: ds := by
  simp [digitsOf, hc]

theorem valueOf_cons {c : Char} (hc : c ≠ '-') (ds : Text) :
    valueOf (c :: ds) = (numberOf (c :: ds) : Int) := by
  simp [valueOf, hc]

namespace IsRow

variable {ds : Text}

theorem head (h : IsRow ds) : ∃ d t, ds = d :: t ∧ d ≠ '-' := by
  obtain ⟨d, t, rfl⟩ := List.exists_cons_of_ne_nil h.1
  have hd := List.all_eq_true.1 h.2 d List.mem_cons_self
  exact ⟨d, t, rfl, ne_of_isDigit (by decide +kernel) hd⟩

theorem digitsOf_eq (h : IsRow ds) : digitsOf ds = ds := by
  obtain ⟨d, t, rfl, hd⟩ := h.head
  exact digitsOf_cons hd t

theorem valueOf_eq (h : IsRow ds) : valueOf ds = (numberOf ds : Int) := by
  obtain ⟨d, t, rfl, hd⟩ := h.head
  exact valueOf_cons hd t

end IsRow

theorem isCoordinate_iff {t : Text} :
    isCoordinate t = true ↔ IsRow t ∨ ∃ ds, IsRow ds ∧ t = '-' :: ds := by
  have hrow : isCoordinate t = true ↔ IsRow (digitsOf t) := by
    have heq : isCoordinate t = (!(digitsOf t).isEmpty && (digitsOf t).all isDigit) := rfl
    simp [heq, IsRow]
  rw [hrow]
  constructor
  · intro h
    cases t with
    | nil => exact .inl h
    | cons c ds =>
        by_cases hc : c = '-'
        · subst hc
          exact .inr ⟨ds, h, rfl⟩
        · rw [digitsOf_cons hc] at h
          exact .inl h
  · rintro (h | ⟨ds, h, rfl⟩)
    · rwa [h.digitsOf_eq]
    · exact h

/-- In the wide form a token of the shape of a coordinate is refused for its length only. -/
theorem read_of_isCoordinate {t : Text} (h : isCoordinate t = true) :
    read t = if maxDigits < (digitsOf t).length then .error (.tooLong (digitsOf t).length)
      else .ok (valueOf t) := by
  rcases isCoordinate_iff.1 h with hrow | ⟨ds, hrow, rfl⟩
  · have hread := (Layout.plain .absent hrow).read_text
    rw [Layout.text_plain, Layout.digits_plain, Layout.value_plain] at hread
    rw [hrow.digitsOf_eq, hrow.valueOf_eq]
    exact hread
  · have hread := (Layout.plain .minus hrow).read_text
    rw [Layout.text_plain, Layout.digits_plain, Layout.value_plain] at hread
    exact hread

theorem readCoordinate?_eq_coordinate? {t : Text} (h : isCoordinate t = true) :
    readCoordinate? t = coordinate? t := by
  rw [readCoordinate?, read_of_isCoordinate h, coordinate?]
  by_cases hascii : isAscii t = true
  · by_cases hlen : (digitsOf t).length ≤ 4300
    · rw [if_neg (show ¬maxDigits < (digitsOf t).length from Nat.not_lt.2 hlen)]
      simp [hascii, hlen, fits32]
    · rw [if_pos (show maxDigits < (digitsOf t).length from Nat.lt_of_not_le hlen)]
      simp [hlen]
  · simp [hascii]

/-! ## Bare tokens -/

def IsBare (t : Text) : Prop := '+' ∉ t ∧ '_' ∉ t ∧ ∀ c ∈ t, isNumeralBlank c = false

theorem isBare_of_isCoordinate {t : Text} (h : isCoordinate t = true) : IsBare t := by
  have hchars : ∀ c ∈ t, c = '-' ∨ isDigit c = true := by
    intro c hc
    rcases isCoordinate_iff.1 h with hrow | ⟨ds, hrow, rfl⟩
    · exact .inr (List.all_eq_true.1 hrow.2 c hc)
    · exact (List.mem_cons.1 hc).imp_right (List.all_eq_true.1 hrow.2 c)
  refine ⟨fun hc => ?_, fun hc => ?_, fun c hc => ?_⟩
  · exact absurd (hchars '+' hc) (by decide +kernel)
  · exact absurd (hchars '_' hc) (by decide +kernel)
  · rcases hchars c hc with rfl | hd
    · rfl
    · exact not_isNumeralBlank_of_isDigit hd

theorem eq_nil_of_not_isNumeralBlank {w : Text} (hall : w.all isNumeralBlank = true)
    (hnone : ∀ c ∈ w, isNumeralBlank c = false) : w = [] := by
  apply List.eq_nil_iff_forall_not_mem.2
  intro c hc
  exact Bool.false_ne_true ((hnone c hc).symm.trans (List.all_eq_true.1 hall c hc))

theorem Layout.isCoordinate_of_isBare (l : Layout) (h : IsBare l.text) :
    isCoordinate l.text = true := by
  obtain ⟨hplus, hunder, hblank⟩ := h
  obtain ⟨before, sign, groups, after, hbefore, hne, hrows, hafter⟩ := l
  simp only [Layout.text, Layout.body, List.mem_append, not_or] at hplus hunder hblank ⊢
  obtain rfl : before = [] :=
    eq_nil_of_not_isNumeralBlank hbefore fun c hc => hblank c (.inl (.inl hc))
  obtain rfl : after = [] := eq_nil_of_not_isNumeralBlank hafter fun c hc => hblank c (.inr hc)
  obtain ⟨ds, rfl⟩ : ∃ ds, groups = [ds] := by
    cases groups with
    | nil => exact absurd rfl hne
    | cons ds gs =>
        cases gs with
        | nil => exact ⟨ds, rfl⟩
        | cons g gs => exact absurd (by simp [joined]) hunder.1.2.2
  have hrow := hrows ds List.mem_cons_self
  rw [List.nil_append, List.append_nil, joined, isCoordinate_iff]
  cases sign with
  | absent => exact .inl hrow
  | plus => exact absurd List.mem_cons_self hplus.1.2.1
  | minus => exact .inr ⟨ds, hrow, rfl⟩

/-! ## What is read as a coordinate -/

theorem fits32_iff {n : Int} : fits32 n = true ↔ -2147483648 ≤ n ∧ n ≤ 2147483647 := by
  simp [fits32]

theorem readCoordinate?_eq_some_iff {t : Text} {v : Int} :
    readCoordinate? t = some v ↔ ∃ l : Layout, l.text = t ∧ isAscii t = true ∧
      l.digits.length ≤ 4300 ∧ l.value = v ∧ -2147483648 ≤ v ∧ v ≤ 2147483647 := by
  have hread : readCoordinate? t = some v ↔ isAscii t = true ∧ read t = .ok v ∧ fits32 v = true := by
    unfold readCoordinate?
    cases read t with
    | error fault => simp
    | ok n =>
        simp only [Option.ite_none_right_eq_some, Option.some.injEq, Except.ok.injEq]
        constructor
        · rintro ⟨hascii, hfits, rfl⟩
          exact ⟨hascii, rfl, hfits⟩
        · rintro ⟨hascii, rfl, hfits⟩
          exact ⟨hascii, hfits, rfl⟩
  rw [hread, read_eq_ok_iff, fits32_iff]
  constructor
  · rintro ⟨hascii, ⟨l, htext, hlen, hvalue⟩, hfits⟩
    exact ⟨l, htext, hascii, hlen, hvalue, hfits⟩
  · rintro ⟨l, htext, hascii, hlen, hvalue, hfits⟩
    exact ⟨hascii, ⟨l, htext, hlen, hvalue⟩, hfits⟩

theorem isCoordinate_of_isBare {t : Text} (h : (readCoordinate? t).isSome = true)
    (hbare : IsBare t) : isCoordinate t = true := by
  obtain ⟨v, hv⟩ := Option.isSome_iff_exists.1 h
  obtain ⟨l, rfl, -⟩ := readCoordinate?_eq_some_iff.1 hv
  exact l.isCoordinate_of_isBare hbare

/-! ## Coordinates in ASCII -/

/-- Holds of a row of ASCII digits behind a minus sign or none, with the integer that it
denotes. -/
inductive Denotes : Text → Int → Prop where
  | unsigned {ds : Text} (hne : ds ≠ []) (hds : ds.all Char.isDigit = true) :
      Denotes ds (Nat.ofDigitChars 10 ds 0)
  | negative {ds : Text} (hne : ds ≠ []) (hds : ds.all Char.isDigit = true) :
      Denotes ('-' :: ds) (-(Nat.ofDigitChars 10 ds 0 : Int))

theorem asciiDigit_iff {c : Char} : c.isDigit = true ↔ isDigit c = true ∧ c.toNat < 0x80 := by
  rw [Char.isDigit_iff_toNat]
  constructor
  · rintro ⟨hle, hge⟩
    exact ⟨isDigit_of_asciiDigit (Char.isDigit_iff_toNat.2 ⟨hle, hge⟩),
      Nat.lt_of_le_of_lt hge (by decide)⟩
  · rintro ⟨hd, hlt⟩
    have hzeros : ∀ z ∈ digitZeros, z < 0x80 → z = '0'.toNat := by decide
    obtain ⟨v, hv⟩ := Option.isSome_iff_exists.1 hd
    obtain ⟨z, hz, hten, hc⟩ := exists_zero_of_digitValue? hv
    have hzero := hzeros z hz (by omega)
    have hnine : '9'.toNat = '0'.toNat + 9 := rfl
    omega

theorem numberOf_of_asciiDigits {ds : Text} (h : ds.all Char.isDigit = true) :
    numberOf ds = Nat.ofDigitChars 10 ds 0 := by
  rw [numberOf, Nat.ofDigitChars]
  generalize 0 = n
  induction ds generalizing n with
  | nil => rfl
  | cons d ds ih =>
      rw [List.all_cons, Bool.and_eq_true] at h
      rw [List.foldl_cons, List.foldl_cons, ih h.2, digitValue, digitValue?_of_asciiDigit h.1]
      rfl

theorem all_asciiDigit_iff {ds : Text} :
    ds.all Char.isDigit = true ↔ ds.all isDigit = true ∧ isAscii ds = true := by
  simp only [isAscii, List.all_eq_true, asciiDigit_iff, decide_eq_true_eq]
  exact ⟨fun h => ⟨fun c hc => (h c hc).1, fun c hc => (h c hc).2⟩,
    fun h c hc => ⟨h.1 c hc, h.2 c hc⟩⟩

theorem denotes_iff {t : Text} {v : Int} :
    Denotes t v ↔ isCoordinate t = true ∧ isAscii t = true ∧ valueOf t = v := by
  constructor
  · intro h
    cases h with
    | unsigned hne hds =>
        obtain ⟨hdigits, hascii⟩ := all_asciiDigit_iff.1 hds
        have hrow : IsRow t := ⟨hne, hdigits⟩
        rw [hrow.valueOf_eq, numberOf_of_asciiDigits hds]
        exact ⟨isCoordinate_iff.2 (.inl hrow), hascii, rfl⟩
    | @negative ds hne hds =>
        obtain ⟨hdigits, hascii⟩ := all_asciiDigit_iff.1 hds
        rw [valueOf, numberOf_of_asciiDigits hds]
        exact ⟨isCoordinate_iff.2 (.inr ⟨ds, ⟨hne, hdigits⟩, rfl⟩), hascii, rfl⟩
  · rintro ⟨hshape, hascii, rfl⟩
    rcases isCoordinate_iff.1 hshape with hrow | ⟨ds, hrow, rfl⟩
    · have hds := all_asciiDigit_iff.2 ⟨hrow.2, hascii⟩
      rw [hrow.valueOf_eq, numberOf_of_asciiDigits hds]
      exact .unsigned hrow.1 hds
    · have hds := all_asciiDigit_iff.2 ⟨hrow.2, hascii⟩
      rw [valueOf, numberOf_of_asciiDigits hds]
      exact .negative hrow.1 hds

theorem denotes_replicate_zero {n : Nat} (hn : 0 < n) : Denotes (List.replicate n '0') 0 := by
  have hne : List.replicate n '0' ≠ [] := by simpa using Nat.ne_of_gt hn
  have hzeros : (List.replicate n '0').all Char.isDigit = true := by
    apply List.all_eq_true.2
    intro c hc
    rw [List.eq_of_mem_replicate hc]
    rfl
  simpa using Denotes.unsigned hne hzeros

/-- On bare tokens in ASCII the wide form is the grammar of ASCII digits, up to the length. -/
theorem read_iff_denotes {t : Text} {v : Int} :
    read t = .ok v ∧ isAscii t = true ∧ IsBare t ↔ Denotes t v ∧ (digitsOf t).length ≤ 4300 := by
  rw [denotes_iff]
  constructor
  · rintro ⟨hread, hascii, hbare⟩
    have hshape : isCoordinate t = true := by
      obtain ⟨l, rfl, -⟩ := exists_layout_of_read hread
      exact l.isCoordinate_of_isBare hbare
    rw [read_of_isCoordinate hshape] at hread
    split at hread
    · cases hread
    · next hlen => exact ⟨⟨hshape, hascii, Except.ok.inj hread⟩, Nat.not_lt.1 hlen⟩
  · rintro ⟨⟨hshape, hascii, rfl⟩, hlen⟩
    refine ⟨?_, hascii, isBare_of_isCoordinate hshape⟩
    rw [read_of_isCoordinate hshape,
      if_neg (show ¬maxDigits < (digitsOf t).length from Nat.not_lt.2 hlen)]

theorem readCoordinate?_iff_denotes {t : Text} {v : Int} :
    readCoordinate? t = some v ∧ IsBare t ↔
      Denotes t v ∧ (digitsOf t).length ≤ 4300 ∧ -2147483648 ≤ v ∧ v ≤ 2147483647 := by
  rw [denotes_iff]
  constructor
  · rintro ⟨hread, hbare⟩
    have hshape := isCoordinate_of_isBare (by rw [hread]; rfl) hbare
    rw [readCoordinate?_eq_coordinate? hshape, coordinate?, Option.ite_none_right_eq_some,
      Option.some.injEq] at hread
    obtain ⟨⟨hascii, hlen, hfits⟩, rfl⟩ := hread
    exact ⟨⟨hshape, hascii, rfl⟩, hlen, hfits⟩
  · rintro ⟨⟨hshape, hascii, rfl⟩, hlen, hfits⟩
    refine ⟨?_, isBare_of_isCoordinate hshape⟩
    rw [readCoordinate?_eq_coordinate? hshape, coordinate?, if_pos ⟨hascii, hlen, hfits⟩]

end TableRobot.Numeral
