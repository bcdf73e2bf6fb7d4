import TableRobot.Command.Spelling
import TableRobot.Proofs.Numeral.Written
import TableRobot.Proofs.Text.CapitalForms
/-!
# Spelt placements read back

What a client spells as a placement is recognised with the numbers and the
facing that it was spelt with.  A word in the place of the facing is trimmed
and put in capitals; it comes back exactly if its capital form is a word of
Latin letters, and otherwise the text is no placement: a comma in the word
makes a fourth part, and an empty word or any other character spoils the third.
-/

namespace TableRobot

open Numeral (isCoordinate_written isToken_written readCoordinate? readCoordinate?_written written)
open Text

namespace Placement

/-! ## Texts with the keyword in front -/

theorem isToken_keyword : IsToken keyword := ⟨by decide, by decide⟩

/-- A comma is no white space, so the text behind it may as well be trimmed on its own. -/
theorem trim_append_comma {a u : Text} (ha : IsToken a) (hu : trim u = u) (t : Text) :
    trim (a ++ t ++ ',' :: u) = a ++ t ++ ',' :: u := by
  have hcomma : ∀ c ∈ [','], isBlank c = false := by
    intro c hc
    rw [List.mem_singleton.1 hc]
    rfl
  have hend : trimEndBy isBlank (',' :: u) = ',' :: u := by
    have hleft := trimEndBy_append_left (List.cons_ne_nil ',' []) hcomma u
    rwa [trimEndBy_of_trim hu] at hleft
  rw [trim, trimBy, List.append_assoc, dropWhile_append_of_none ha.ne_nil ha.not_isBlank,
    ← List.append_assoc, trimEndBy_append (List.cons_ne_nil _ _) hend]

theorem read?_keyword_append {u : Text} (hu : trim u = u) (t : Text) :
    read? (keyword ++ ' ' :: t ++ ',' :: u) =
      ofParts? ((fields ',' (' ' :: t ++ ',' :: u)).map trim) := by
  have htrim : trim (keyword ++ ' ' :: t ++ ',' :: u) = keyword ++ (' ' :: t ++ ',' :: u) := by
    rw [trim_append_comma isToken_keyword hu, List.append_assoc]
  have hblank : isBlank ' ' = true := rfl
  rw [read?, htrim, List.take_left, List.drop_left, if_pos capitals_keyword]
  simp only [List.cons_append, hblank, if_true]

/-! ## Coordinates behind the keyword -/

theorem trim_space {t : Text} (h : IsToken t) : trim (' ' :: t) = t := by
  simpa using h.trim_pad (w := [' ']) (v := []) rfl rfl

theorem fields_space {t : Text} (h : IsToken t) (u : Text) :
    fields ',' (' ' :: t ++ ',' :: u) = (' ' :: t) :: fields ',' u := by
  apply fields_append_cons
  simp [h.comma_not_mem]

theorem read?_coordinates_iff {x y : Text} :
    read? (keyword ++ ' ' :: x ++ ',' :: y) = some ⟨x, y, none⟩ ↔
      isCoordinate x = true ∧ isCoordinate y = true := by
  constructor
  · intro h
    obtain ⟨hx, hy, -⟩ := shape_of_read? h
    exact ⟨hx, hy⟩
  · rintro ⟨hx, hy⟩
    have htx := isToken_of_isCoordinate hx
    have hty := isToken_of_isCoordinate hy
    rw [read?_keyword_append hty.trim_eq, fields_space htx, fields_of_not_mem hty.comma_not_mem,
      List.map_cons, List.map_singleton, trim_space htx, hty.trim_eq]
    simp [ofParts?, hx, hy]

/-! ## Numbers behind the keyword -/

variable (x y : Int)

theorem read?_numbers :
    read? (keyword ++ ' ' :: written x ++ ',' :: written y) =
      some ⟨written x, written y, none⟩ :=
  read?_coordinates_iff.2 ⟨isCoordinate_written x, isCoordinate_written y⟩

theorem ofParts?_numbers {u : Text} (hu : trim u = u) :
    ofParts? (written x :: written y :: (fields ',' u).map trim) =
      if isWord u then some ⟨written x, written y, some u⟩ else none := by
  by_cases hcomma : ',' ∈ u
  · have hword : isWord u ≠ true := fun hword => (isToken_of_isWord hword).comma_not_mem hcomma
    obtain ⟨f, g, fs, hfields⟩ := exists_fields_of_mem hcomma
    rw [hfields, if_neg hword]
    rfl
  · rw [fields_of_not_mem hcomma, List.map_singleton, hu]
    simp [ofParts?]

theorem read?_numbers_append {u : Text} (hu : trim u = u) :
    read? (keyword ++ ' ' :: written x ++ ',' :: written y ++ ',' :: u) =
      if isWord u then some ⟨written x, written y, some u⟩ else none := by
  have hy := isToken_written y
  have hfields : fields ',' (' ' :: (written x ++ ',' :: written y) ++ ',' :: u) =
      (' ' :: written x) :: written y :: fields ',' u := by
    have hcut : ' ' :: (written x ++ ',' :: written y) ++ ',' :: u =
        ' ' :: written x ++ ',' :: (written y ++ ',' :: u) := by simp
    rw [hcut, fields_space (isToken_written x), fields_append_cons hy.comma_not_mem]
  have htext : keyword ++ ' ' :: written x ++ ',' :: written y ++ ',' :: u =
      keyword ++ ' ' :: (written x ++ ',' :: written y) ++ ',' :: u := by simp
  rw [htext, read?_keyword_append hu, hfields, List.map_cons, List.map_cons,
    trim_space (isToken_written x), hy.trim_eq, ofParts?_numbers x y hu]

end Placement

/-! ## Headings -/

namespace Spelling

open Placement (isWord)

theorem isWord_name (f : Facing) : isWord f.name = true := by
  cases f <;> decide

theorem trim_heading (h : Heading) : trim h.text = h.text := by
  cases h with
  | facing f => exact (Placement.isToken_of_isWord (isWord_name f)).trim_eq
  | word t => rw [Heading.text, trim_capitals, trim_trim]

theorem read?_place (x y : Int) (h : Heading) :
    Placement.read? (place x y (some h)) =
      if isWord h.text then some ⟨written x, written y, some h.text⟩ else none :=
  Placement.read?_numbers_append x y (trim_heading h)

theorem text_word_of_read? {t : Text} {f : Facing} (h : Facing.read? t = some f) :
    (Heading.word t).text = f.name :=
  Facing.eq_name_of_named? h

/-- What is spelt as a placement reads back with the numbers in writing.  A facing comes back by
name and a word by its capital form, if that is a word of Latin letters: no other word makes a
placement.  A word that names a facing spells the same text as the facing.  Of the numbers in
writing those of 32 bits read back as coordinates, and no others. -/
theorem spelt_placements_read_back :
    (∀ x y, Placement.read? (place x y none) = some ⟨written x, written y, none⟩) ∧
      (∀ x y f, Placement.read? (place x y (some (.facing f))) =
        some ⟨written x, written y, some f.name⟩) ∧
      (∀ x y t, Placement.read? (place x y (some (.word t))) =
        if capitals (trim t) ≠ [] ∧ (capitals (trim t)).all isLetter = true then
          some ⟨written x, written y, some (capitals (trim t))⟩
        else none) ∧
      (∀ x y t f, Facing.read? t = some f →
        place x y (some (.word t)) = place x y (some (.facing f))) ∧
      ∀ n, readCoordinate? (written n) =
        if -2147483648 ≤ n ∧ n ≤ 2147483647 then some n else none := by
  refine ⟨Placement.read?_numbers, fun x y f => ?_, fun x y t => ?_, fun x y t f h => ?_,
    readCoordinate?_written⟩
  · rw [read?_place, Heading.text, if_pos (isWord_name f)]
  · rw [read?_place, Heading.text]
    simp only [Placement.isWord_iff]
  · rw [place, place, text_word_of_read? h]
    rfl

/-- The ligature of s and t counts as the two letters. -/
theorem spelt_placements_read_back_ligature :
    Facing.read? " ea\ufb06\n".toList = some .east ∧
      Placement.read? (place 12 (-7) (some (.word " ea\ufb06\n".toList))) =
        some ⟨"12".toList, "-7".toList, some "EAST".toList⟩ := by
  have hread : Facing.read? " ea\ufb06\n".toList = some .east := by decide +kernel
  refine ⟨hread, ?_⟩
  rw [spelt_placements_read_back.2.2.2.1 12 (-7) _ _ hread, spelt_placements_read_back.2.1]
  decide +kernel

end Spelling

end TableRobot
