import TableRobot.Proofs.Text.Capitals
import TableRobot.Text.Digit
/-!
# Letters of ASCII in another case

Putting the small letters of ASCII in capitals changes nothing that is asked of
a character: whether it is white space, a digit, a Latin letter or a separator,
nor does it change its capital form.  So it changes places with trimming and
with cutting into fields, and upper-casing does not see it.
-/

namespace TableRobot.Text

/-! ## Characters -/

theorem toUpper_of_le {c : Char} (hc : 0x80 ≤ c.toNat) : c.toUpper = c := by
  have hsmall : ¬(c.val ≥ 97 ∧ c.val ≤ 122) := by
    intro h
    have hle : c.toNat ≤ 122 := h.2
    omega
  exact dif_neg hsmall

theorem toUpper_cases (c : Char) : c.toUpper = c ∨
    ∃ k < 26, c = Char.ofNat (0x61 + k) ∧ c.toUpper = Char.ofNat (0x41 + k) := by
  by_cases hc : c.toNat < 0x80
  · exact forall_ascii (P := fun c => c.toUpper = c ∨
      ∃ k < 26, c = Char.ofNat (0x61 + k) ∧ c.toUpper = Char.ofNat (0x41 + k)) (by decide) hc
  · exact .inl (toUpper_of_le (by omega))

/-- What holds of a character and itself holds of a character and its capital in ASCII, if it
does for the twenty-six small letters. -/
theorem forall_toUpper {P : Char → Char → Prop} (hself : ∀ c, P c c)
    (hletter : ∀ k < 26, P (Char.ofNat (0x61 + k)) (Char.ofNat (0x41 + k))) (c : Char) :
    P c c.toUpper := by
  rcases toUpper_cases c with hsame | ⟨k, hk, hc, hupper⟩
  · rw [hsame]
    exact hself c
  · rw [hupper, hc]
    exact hletter k hk

theorem isBlank_toUpper (c : Char) : isBlank c.toUpper = isBlank c :=
  forall_toUpper (P := fun c d => isBlank d = isBlank c) (fun _ => rfl) (by decide) c

theorem isLetter_toUpper (c : Char) : isLetter c.toUpper = isLetter c :=
  forall_toUpper (P := fun c d => isLetter d = isLetter c) (fun _ => rfl) (by decide) c

theorem isDigit_toUpper (c : Char) : isDigit c.toUpper = isDigit c :=
  forall_toUpper (P := fun c d => isDigit d = isDigit c) (fun _ => rfl) (by decide) c

theorem toUpper_of_isDigit {c : Char} : isDigit c = true → c.toUpper = c :=
  forall_toUpper (P := fun c d => isDigit c = true → d = c) (fun _ _ => rfl) (by decide) c

theorem capital_toUpper (c : Char) : capital c.toUpper = capital c :=
  forall_toUpper (P := fun c d => capital d = capital c) (fun _ => rfl) (by decide) c

theorem toUpper_toUpper (c : Char) : c.toUpper.toUpper = c.toUpper :=
  forall_toUpper (P := fun c d => c.toUpper = d → d.toUpper = d) (fun _ h => h) (by decide) c rfl

theorem toUpper_eq_comma_iff {c : Char} : c.toUpper = ',' ↔ c = ',' :=
  forall_toUpper (P := fun c d => d = ',' ↔ c = ',') (fun _ => .rfl) (by decide) c

theorem toUpper_eq_minus_iff {c : Char} : c.toUpper = '-' ↔ c = '-' :=
  forall_toUpper (P := fun c d => d = '-' ↔ c = '-') (fun _ => .rfl) (by decide) c

/-! ## Texts -/

theorem isAllBlank_map_toUpper (t : Text) : isAllBlank (t.map Char.toUpper) = isAllBlank t := by
  have hblank : isBlank ∘ Char.toUpper = isBlank := funext isBlank_toUpper
  rw [isAllBlank, List.all_map, hblank]
  rfl

theorem trim_map_toUpper (t : Text) : trim (t.map Char.toUpper) = (trim t).map Char.toUpper := by
  have hblank : isBlank ∘ Char.toUpper = isBlank := funext isBlank_toUpper
  simp only [trim, trimBy, trimEndBy, List.dropWhile_map, ← List.map_reverse, hblank]

theorem capitals_map_toUpper (t : Text) : capitals (t.map Char.toUpper) = capitals t := by
  rw [capitals, List.flatMap_map]
  simp only [capital_toUpper]
  rfl

theorem fields_map_toUpper (t : Text) :
    fields ',' (t.map Char.toUpper) = (fields ',' t).map (·.map Char.toUpper) := by
  induction t with
  | nil => rfl
  | cons c t ih =>
      simp only [List.map_cons, fields, toUpper_eq_comma_iff, ih]
      split
      · rfl
      · cases fields ',' t <;> rfl

theorem map_toUpper_of_all_isDigit {t : Text} (h : t.all isDigit = true) :
    t.map Char.toUpper = t := by
  have hfix : ∀ c ∈ t, c.toUpper = id c := fun c hc =>
    toUpper_of_isDigit (List.all_eq_true.1 h c hc)
  rw [List.map_congr_left hfix, List.map_id]

end TableRobot.Text
