import TableRobot.Command.Report
import TableRobot.Proofs.Board.FacingNames
import TableRobot.Proofs.Placement.Spelling
/-!
# Payloads read back

The payload of a report is the written form of a cell and a facing.  The reader
of payloads gives both back as long as the numbers have no more digits than it
admits.  It also reads what is never written: its numerals are those of the
wide form, and its facings are folded.
-/

namespace TableRobot.Report

open Numeral (Denotes IsBare digitsOf isToken_written isWritable read_eq_ok_iff read_iff_denotes
  read_written written)
open Text

/-! ## What is written -/

theorem isToken_name (f : Facing) : IsToken f.name :=
  Placement.isToken_of_isWord (Spelling.isWord_name f)

theorem read?_name (f : Facing) : Facing.read? f.name = some f := by
  cases f <;> decide +kernel

theorem text_mk (x y : Int) (f : Facing) :
    text ⟨⟨x, y⟩, f⟩ = written x ++ ',' :: written y ++ ',' :: f.name := rfl

theorem fields_text (x y : Int) (f : Facing) :
    fields ',' (text ⟨⟨x, y⟩, f⟩) = [written x, written y, f.name] := by
  rw [text_mk, List.append_assoc, List.cons_append,
    fields_append_cons (isToken_written x).comma_not_mem,
    fields_append_cons (isToken_written y).comma_not_mem,
    fields_of_not_mem (isToken_name f).comma_not_mem]

theorem trim_text (x y : Int) (f : Facing) : trim (text ⟨⟨x, y⟩, f⟩) = text ⟨⟨x, y⟩, f⟩ :=
  Placement.trim_append_comma (isToken_written x) (isToken_name f).trim_eq _

theorem parse_text {x y : Int} (f : Facing) (hx : isWritable x = true)
    (hy : isWritable y = true) : parse (text ⟨⟨x, y⟩, f⟩) = .ok ⟨⟨x, y⟩, f⟩ := by
  have hne : text ⟨⟨x, y⟩, f⟩ ≠ [] := by simp [text_mk]
  have hparts : (fields ',' (trim (text ⟨⟨x, y⟩, f⟩))).map trim =
      [written x, written y, f.name] := by
    rw [trim_text, fields_text]
    simp only [List.map_cons, List.map_nil, (isToken_written x).trim_eq,
      (isToken_written y).trim_eq, (isToken_name f).trim_eq]
  rw [parse, if_neg hne, hparts]
  simp only [ofParts, read_written hx, read_written hy, read?_name]

theorem value_read?_text {x y : Int} (f : Facing) (hx : isWritable x = true)
    (hy : isWritable y = true) : (read? (text ⟨⟨x, y⟩, f⟩)).value = some ⟨⟨x, y⟩, f⟩ :=
  read?_eq_some_iff.2 (parse_text f hx hy)

/-! ## What is read -/

variable {t x y f : Text} {r : Report}

theorem ofParts_eq_ok_iff : ofParts t x y f = .ok r ↔
    Numeral.read x = .ok r.cell.x ∧ Numeral.read y = .ok r.cell.y ∧
      Facing.read? f = some r.facing := by
  obtain ⟨⟨a, b⟩, d⟩ := r
  unfold ofParts
  cases Numeral.read x with
  | error fault => simp
  | ok m =>
      cases Numeral.read y with
      | error fault => simp
      | ok n => cases Facing.read? f <;> simp [and_assoc]

/-- The parts are those between the commas of the payload: what stands around it goes with the
first and the last of them. -/
theorem parse_eq_ok_iff : parse t = .ok r ↔ ∃ x y f, fields ',' t = [x, y, f] ∧
    Numeral.read (trim x) = .ok r.cell.x ∧ Numeral.read (trim y) = .ok r.cell.y ∧
      Facing.read? f = some r.facing := by
  have hparts : (fields ',' (trim t)).map trim = (fields ',' t).map trim :=
    map_trimBy_fields (by decide) t
  have hfacing : ∀ f, Facing.read? (trim f) = Facing.read? f := by
    intro f
    rw [Facing.read?, Facing.read?, trim_trim]
  rw [parse, hparts]
  constructor
  · intro h
    split at h
    · cases h
    · split at h
      · next x' y' f' hmap =>
          obtain ⟨x, xs, hx, rfl, hrest⟩ := List.map_eq_cons_iff.1 hmap
          obtain ⟨y, ys, rfl, rfl, hlast⟩ := List.map_eq_cons_iff.1 hrest
          obtain ⟨f, fs, rfl, rfl, hnil⟩ := List.map_eq_cons_iff.1 hlast
          obtain rfl := List.map_eq_nil_iff.1 hnil
          rw [ofParts_eq_ok_iff, hfacing] at h
          exact ⟨x, y, f, hx, h⟩
      · cases h
  · rintro ⟨x, y, f, hfields, h⟩
    have hne : t ≠ [] := by
      rintro rfl
      cases hfields
    rw [if_neg hne, hfields]
    exact ofParts_eq_ok_iff.2 (by rwa [hfacing])

/-- A payload tells a report exactly if it has three parts between commas: two numerals of the
wide form with at most 4300 digits each, and a word that folds to the name of the facing in some
case.  Parts in ASCII, the numerals bare, are read exactly if they are what is written, up to
white space, case and leading zeros. -/
theorem payloads_are_read_by_parts (t : Text) (r : Report) :
    ((read? t).value = some r ↔ ∃ x y f, fields ',' t = [x, y, f] ∧
        (∃ l : Numeral.Layout, l.text = trim x ∧ l.digits.length ≤ 4300 ∧ l.value = r.cell.x) ∧
        (∃ l : Numeral.Layout, l.text = trim y ∧ l.digits.length ≤ 4300 ∧ l.value = r.cell.y) ∧
        IsCaseVariant (folded f) r.facing.name) ∧
      ∀ x y f, fields ',' t = [x, y, f] →
        ((read? t).value = some r ∧ (isAscii (trim x) = true ∧ IsBare (trim x)) ∧
            (isAscii (trim y) = true ∧ IsBare (trim y)) ∧ isAscii (trim f) = true ↔
          (Denotes (trim x) r.cell.x ∧ (digitsOf (trim x)).length ≤ 4300) ∧
            (Denotes (trim y) r.cell.y ∧ (digitsOf (trim y)).length ≤ 4300) ∧
            IsCaseVariant (trim f) r.facing.name) := by
  rw [read?_eq_some_iff, parse_eq_ok_iff]
  constructor
  · simp only [read_eq_ok_iff, Facing.read?_eq_some_iff]
    exact Iff.rfl
  · intro x y f hfields
    rw [← read_iff_denotes, ← read_iff_denotes, ← Facing.read?_iff_isCaseVariant]
    constructor
    · rintro ⟨⟨x', y', f', hfields', hx, hy, hf⟩, hxplain, hyplain, hfascii⟩
      cases hfields.symm.trans hfields'
      exact ⟨⟨hx, hxplain⟩, ⟨hy, hyplain⟩, hf, hfascii⟩
    · rintro ⟨⟨hx, hxplain⟩, ⟨hy, hyplain⟩, hf, hfascii⟩
      exact ⟨⟨x, y, f, hfields, hx, hy, hf⟩, hxplain, hyplain, hfascii⟩

/-- Leading zeros, white space and small letters are what a plain payload may add. -/
theorem payloads_are_read_by_parts_zeros :
    fields ',' " -007,12\t, East\n".toList = [" -007".toList, "12\t".toList, " East\n".toList] ∧
      (read? " -007,12\t, East\n".toList).value = some ⟨⟨-7, 12⟩, .east⟩ ∧
      Denotes (trim " -007".toList) (-7) ∧ Denotes (trim "12\t".toList) 12 ∧
      IsCaseVariant (trim " East\n".toList) (Facing.name .east) := by
  have hfields : fields ',' " -007,12\t, East\n".toList =
      [" -007".toList, "12\t".toList, " East\n".toList] := by decide +kernel
  have hx : isAscii (trim " -007".toList) = true ∧ IsBare (trim " -007".toList) :=
    ⟨by decide +kernel, Numeral.isBare_of_isCoordinate (by decide +kernel)⟩
  have hy : isAscii (trim "12\t".toList) = true ∧ IsBare (trim "12\t".toList) :=
    ⟨by decide +kernel, Numeral.isBare_of_isCoordinate (by decide +kernel)⟩
  have hread : (read? " -007,12\t, East\n".toList).value = some ⟨⟨-7, 12⟩, .east⟩ := by
    decide +kernel
  obtain ⟨hdx, hdy, hf⟩ := ((payloads_are_read_by_parts _ _).2 _ _ _ hfields).1
    ⟨hread, hx, hy, by decide +kernel⟩
  exact ⟨hfields, hread, hdx.1, hdy.1, hf⟩

/-- A plus sign, an underscore, a digit of another script and a ligature are read, and none of
them is ever written. -/
theorem unwritten_payloads_read :
    (read? "+1,1_0,we\ufb06".toList).value = some ⟨⟨1, 10⟩, .west⟩ ∧
      (read? "\u0661,1,NORTH".toList).value = some ⟨⟨1, 1⟩, .north⟩ ∧
      ¬∀ t r, (read? t).value = some r → ∃ x y f, fields ',' t = [x, y, f] ∧
        Denotes (trim x) r.cell.x ∧ Denotes (trim y) r.cell.y ∧
        IsCaseVariant (trim f) r.facing.name := by
  have hplus : (read? "+1,1,NORTH".toList).value = some ⟨⟨1, 1⟩, .north⟩ := by decide +kernel
  refine ⟨by decide +kernel, by decide +kernel, fun h => ?_⟩
  obtain ⟨x, y, f, hfields, hx, -, -⟩ := h _ _ hplus
  have hfirst : fields ',' "+1,1,NORTH".toList = ["+1".toList, "1".toList, "NORTH".toList] := by
    decide +kernel
  cases hfirst.symm.trans hfields
  have hshape : Placement.isCoordinate (trim "+1".toList) = false := by decide +kernel
  rw [(Numeral.denotes_iff.1 hx).1] at hshape
  cases hshape

end TableRobot.Report
