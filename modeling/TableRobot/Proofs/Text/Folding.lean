import TableRobot.Proofs.Text.Recasing
/-!
# Letters that count as letters of ASCII

Four letters beyond ASCII have capitals that occur in the words of the command
language: the dotless i, the long s, and two ligatures of s and t.  Put in
small letters of ASCII they are folded.  A text has a word of the language as
its capital form exactly if the folded text is the word in some case; the other
letters with capitals in ASCII double an S or begin with an F, and no word has
such a part.
-/

namespace TableRobot.Text

/-- The letters beyond ASCII that are folded, by their code points. -/
def foldings : List (Nat × Text) :=
  [(0x131, "i".toList), (0x17F, "s".toList), (0xFB05, "st".toList), (0xFB06, "st".toList)]

def foldChar (c : Char) : Text := (foldings.lookup c.toNat).getD [c]

def folded (t : Text) : Text := (trim t).flatMap foldChar

def IsCaseVariant (t w : Text) : Prop := t.map Char.toUpper = w.map Char.toUpper

instance (t w : Text) : Decidable (IsCaseVariant t w) :=
  inferInstanceAs (Decidable (t.map Char.toUpper = w.map Char.toUpper))

/-- Holds of a word in capitals of ASCII if no letter beyond ASCII has a part of the word as its
capital form, those of `foldings` apart. -/
def IsFoldable (w : Text) : Prop :=
  isAscii w = true ∧ w.map Char.toUpper = w ∧
    ∀ e ∈ latinCapitals, e.2 <:+: w → e.1 ∈ foldings.map Prod.fst

instance (w : Text) : Decidable (IsFoldable w) :=
  inferInstanceAs (Decidable (_ ∧ _ ∧ ∀ e ∈ latinCapitals, _))

/-! ## Characters -/

def Folds (c : Char) : Prop := c.toNat < 0x80 ∨ c.toNat ∈ foldings.map Prod.fst

theorem foldChar_of_not_mem {c : Char} (hc : c.toNat ∉ foldings.map Prod.fst) :
    foldChar c = [c] := by
  have hlookup : foldings.lookup c.toNat = none := by
    apply List.lookup_eq_none_iff.2
    intro e he
    refine bne_iff_ne.2 fun heq => hc ?_
    rw [heq]
    exact List.mem_map_of_mem he
  rw [foldChar, hlookup]
  rfl

theorem foldChar_of_lt {c : Char} (hc : c.toNat < 0x80) : foldChar c = [c] := by
  have hkeys : ∀ n ∈ foldings.map Prod.fst, 0x80 ≤ n := by decide
  exact foldChar_of_not_mem fun hmem => absurd hc (Nat.not_lt.2 (hkeys _ hmem))

private theorem capital_foldings : ∀ n ∈ foldings.map Prod.fst,
    capital (Char.ofNat n) = (foldChar (Char.ofNat n)).map Char.toUpper := by
  decide +kernel

theorem Folds.capital_eq {c : Char} (h : Folds c) :
    capital c = (foldChar c).map Char.toUpper := by
  rcases h with hc | hc
  · rw [capital_of_ascii hc, foldChar_of_lt hc]
    rfl
  · have hcap := capital_foldings c.toNat hc
    rwa [Char.ofNat_toNat] at hcap

theorem capitals_of_folds {t : Text} (h : ∀ c ∈ t, Folds c) :
    capitals t = (t.flatMap foldChar).map Char.toUpper := by
  induction t with
  | nil => rfl
  | cons c t ih =>
      have htail := ih fun d hd => h d (List.mem_cons_of_mem c hd)
      rw [capitals_cons, List.flatMap_cons, List.map_append, htail,
        (h c List.mem_cons_self).capital_eq]

/-! ## Words -/

variable {t w : Text}

theorem capital_infix_capitals {c : Char} (hc : c ∈ t) : capital c <:+: capitals t := by
  obtain ⟨front, back, rfl⟩ := List.append_of_mem hc
  rw [capitals_append, capitals_cons, ← List.append_assoc]
  exact List.infix_append _ _ _

theorem IsFoldable.toNat_lt (hw : IsFoldable w) {c : Char} (hc : c ∈ w) : c.toNat < 0x80 :=
  of_decide_eq_true (List.all_eq_true.1 hw.1 c hc)

/-- A letter beyond ASCII gives a part of the word, so it is one of those that are folded. -/
theorem folds_of_capitals_eq (hw : IsFoldable w) (h : capitals t = w) : ∀ c ∈ t, Folds c := by
  intro c hc
  rcases Nat.lt_or_ge c.toNat 0x80 with hlow | hhigh
  · exact .inl hlow
  · have hpart := capital_infix_capitals hc
    rw [h] at hpart
    have hascii : ∀ d ∈ capital c, d.toNat < 0x80 := fun d hd => hw.toNat_lt (hpart.subset hd)
    have hmem := (capitalForm c).mem_latinCapitals hhigh hascii
    exact .inr (hw.2.2 _ hmem hpart)

theorem folds_of_map_toUpper_eq (hw : IsFoldable w)
    (h : (t.flatMap foldChar).map Char.toUpper = w) : ∀ c ∈ t, Folds c := by
  intro c hc
  by_cases hkey : c.toNat ∈ foldings.map Prod.fst
  · exact .inr hkey
  · have hmem : c ∈ t.flatMap foldChar := by
      rw [List.mem_flatMap]
      exact ⟨c, hc, by rw [foldChar_of_not_mem hkey]; exact List.mem_singleton_self c⟩
    have hupper : c.toUpper.toNat < 0x80 := by
      apply hw.toNat_lt
      rw [← h]
      exact List.mem_map_of_mem hmem
    refine .inl (Nat.lt_of_not_le fun hle => ?_)
    rw [toUpper_of_le hle] at hupper
    omega

theorem IsFoldable.isAscii_of_isCaseVariant (hw : IsFoldable w) (h : IsCaseVariant t w) :
    isAscii t = true := by
  rw [IsCaseVariant, hw.2.1] at h
  apply List.all_eq_true.2
  intro c hc
  apply decide_eq_true
  refine Nat.lt_of_not_le fun hle => ?_
  have hupper := hw.toNat_lt (h ▸ List.mem_map_of_mem hc)
  rw [toUpper_of_le hle] at hupper
  omega

/-- The texts with a word as their capital form are those that fold to the word in some case. -/
theorem capitals_trim_eq_iff (hw : IsFoldable w) :
    capitals (trim t) = w ↔ IsCaseVariant (folded t) w := by
  rw [IsCaseVariant, hw.2.1, folded]
  constructor
  · intro h
    rw [← capitals_of_folds (folds_of_capitals_eq hw h), h]
  · intro h
    rw [capitals_of_folds (folds_of_map_toUpper_eq hw h), h]

end TableRobot.Text
