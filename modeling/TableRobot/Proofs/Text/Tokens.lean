import TableRobot.Text.Blank
import TableRobot.Text.Digit
/-!
# Tokens

A token is a part of a text that stands between white space and commas: it has
a character, and none of its characters is white space or a comma.  Rows of
digits and words of Latin letters are tokens, and trimming a token with white
space around it gives the token back.
-/

namespace TableRobot.Text

def isTokenChar (c : Char) : Bool := !isBlank c && c != ','

def IsToken (t : Text) : Prop := t ≠ [] ∧ t.all isTokenChar = true

/-! ## Characters of tokens -/

private theorem isTokenChar_rows : ∀ z ∈ digitZeros, ∀ i < 10,
    isTokenChar (Char.ofNat (z + i)) = true := by
  decide +kernel

theorem exists_zero_of_digitValue? {c : Char} {v : Nat} (h : digitValue? c = some v) :
    ∃ z ∈ digitZeros, v < 10 ∧ c.toNat = z + v := by
  unfold digitValue? at h
  split at h
  · next hc =>
      simp only [Bool.and_eq_true, decide_eq_true_eq] at hc
      exact ⟨0x30, by decide, by grind, by grind⟩
  · obtain ⟨z, hz, rfl⟩ := Option.map_eq_some_iff.1 h
    have hrow := List.find?_some hz
    simp only [Bool.and_eq_true, decide_eq_true_eq] at hrow
    exact ⟨z, List.mem_of_find?_eq_some hz, by omega, by omega⟩

theorem isTokenChar_of_isDigit {c : Char} (h : isDigit c = true) : isTokenChar c = true := by
  obtain ⟨v, hv⟩ := Option.isSome_iff_exists.1 h
  obtain ⟨z, hz, hlt, hc⟩ := exists_zero_of_digitValue? hv
  have hrow := isTokenChar_rows z hz v hlt
  rwa [← hc, Char.ofNat_toNat] at hrow

theorem isTokenChar_of_isLetter {c : Char} (h : isLetter c = true) : isTokenChar c = true := by
  have hne : c ≠ ',' := by rintro rfl; exact absurd h (by decide)
  simp only [isLetter, Bool.or_eq_true, Bool.and_eq_true, decide_eq_true_eq] at h
  simp only [isTokenChar, isBlank, bne_iff_ne.2 hne, Bool.and_true, Bool.not_eq_true',
    Bool.or_eq_false_iff, Bool.and_eq_false_iff, decide_eq_false_iff_not, beq_eq_false_iff_ne]
  omega

/-! ## Tokens in texts -/

namespace IsToken

variable {t : Text}

theorem ne_nil (h : IsToken t) : t ≠ [] := h.1

theorem not_isBlank (h : IsToken t) : ∀ c ∈ t, isBlank c = false := fun c hc => by
  have := List.all_eq_true.1 h.2 c hc
  simp only [isTokenChar, Bool.and_eq_true, Bool.not_eq_true'] at this
  exact this.1

theorem comma_not_mem (h : IsToken t) : ',' ∉ t := fun hc => by
  have := List.all_eq_true.1 h.2 ',' hc
  simp [isTokenChar] at this

theorem space_not_mem (h : IsToken t) : ' ' ∉ t := fun hc =>
  absurd (h.not_isBlank ' ' hc) (by decide)

theorem trim_pad (h : IsToken t) {w v : Text} (hw : isAllBlank w = true)
    (hv : isAllBlank v = true) : trim (w ++ t ++ v) = t :=
  trimBy_pad_of_none hw hv h.ne_nil h.not_isBlank

theorem trim_eq (h : IsToken t) : trim t = t := by
  simpa using h.trim_pad (w := []) (v := []) rfl rfl

end IsToken

theorem comma_not_mem_of_isAllBlank {w : Text} (h : isAllBlank w = true) : ',' ∉ w := fun hc =>
  absurd (List.all_eq_true.1 h ',' hc) (by decide)

end TableRobot.Text
