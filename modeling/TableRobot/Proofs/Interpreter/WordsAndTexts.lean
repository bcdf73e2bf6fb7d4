import TableRobot.Proofs.Interpreter.Reachable
import TableRobot.Proofs.Placement.Spelling
/-!
# Coordinates as words and in texts

A placement comes in as separate words or as a text.  Words are read as
numerals in the wide form, while in a text the shape of the coordinates is
looked at first.  So the words of a placement may carry a plus sign, white
space and underscores, and its text may not; beyond that both ways admit the
same coordinates.
-/

namespace TableRobot

open Numeral (Denotes IsBare coordinate? digitsOf readCoordinate?)
open Reference

namespace Reference

variable {size : Int} {r : Robot} {p : Placement}

theorem AnswersPlacement.ne_badCoordinates_iff {a : Robot × Outcome}
    (h : AnswersPlacement size r p a) :
    a.2 ≠ .failed "Invalid PLACE coordinates.".toList ↔
      (coordinate? p.x).isSome = true ∧ (coordinate? p.y).isSome = true := by
  have hother : ∀ {m : Text}, m ≠ "Invalid PLACE coordinates.".toList →
      (refuse r m).2 ≠ .failed "Invalid PLACE coordinates.".toList :=
    fun hne heq => hne (congrArg Outcome.message heq)
  cases h with
  | unread hnone =>
      refine iff_of_false (fun h => h rfl) fun hboth => ?_
      rcases hnone with hx | hy
      · rw [hx] at hboth
        cases hboth.1
      · rw [hy] at hboth
        cases hboth.2
  | outside hx hy =>
      rw [hx, hy]
      exact iff_of_true (hother (by decide +kernel)) ⟨rfl, rfl⟩
  | unspelt hx hy =>
      rw [hx, hy]
      exact iff_of_true (hother (by decide +kernel)) ⟨rfl, rfl⟩
  | unturned hx hy =>
      rw [hx, hy]
      exact iff_of_true (hother (by decide +kernel)) ⟨rfl, rfl⟩
  | put hx hy =>
      rw [hx, hy]
      exact iff_of_true (fun heq => Bool.noConfusion (congrArg Outcome.success heq)) ⟨rfl, rfl⟩

end Reference

namespace Lexicon

variable [Routines]

/-- The lexicon of the start makes a placement of two words exactly if both are read as
coordinates, and the placement keeps what they are read as. -/
theorem value_summon_coordinates (x y : Text) :
    (initial.summon [Placement.keyword, x, y]).value =
      (initial, .ok (match readCoordinate? x, readCoordinate? y with
        | some a, some b => .command (.placing a b none)
        | _, _ => .declined "Invalid PLACE coordinates.".toList)) := by
  have hkind : initial.kind? (Text.capitals Placement.keyword) = some (.builtin .place) := rfl
  rw [ownNames_initial.value_summon (settles_of_discovered rfl) hkind]
  have hparts : [Placement.keyword, x, y] = Placement.parts ⟨x, y, none⟩ := rfl
  rw [hparts, Summons.ofBuiltin]
  cases hx : readCoordinate? x with
  | none =>
      obtain ⟨c, hc⟩ := Command.attempt_parts_of_none (p := ⟨x, y, none⟩) (.inl hx)
      rw [hc]
      rfl
  | some a =>
      cases hy : readCoordinate? y with
      | none =>
          obtain ⟨c, hc⟩ := Command.attempt_parts_of_none (p := ⟨x, y, none⟩) (.inr hy)
          rw [hc]
          rfl
      | some b => rw [Command.attempt_parts_of_some (p := ⟨x, y, none⟩) hx hy]

end Lexicon

namespace Interpreter

/-- A word is read as a coordinate if it is a numeral of the wide form in ASCII with at most 4300
digits and fits 32 bits.  Without a plus sign, underscores and white space these are the integers
in ASCII digits.  At any point of a run two words make a placement if both are read, and the same
two in a text are accepted if they are free of those characters as well. -/
theorem texts_admit_bare_coordinates (x y : Text) :
    (∀ v, readCoordinate? x = some v ↔ ∃ l : Numeral.Layout, l.text = x ∧
        Text.isAscii x = true ∧ l.digits.length ≤ 4300 ∧ l.value = v ∧
        -2147483648 ≤ v ∧ v ≤ 2147483647) ∧
      (∀ v, readCoordinate? x = some v ∧ IsBare x ↔
        Denotes x v ∧ (digitsOf x).length ≤ 4300 ∧ -2147483648 ≤ v ∧ v ≤ 2147483647) ∧
      ∀ [Routines] (size : Int), 1 ≤ size → ∀ lex i, Reachable size lex i →
        (lex.summon [Placement.keyword, x, y]).value =
          (lex, .ok (match readCoordinate? x, readCoordinate? y with
            | some a, some b => .command (.placing a b none)
            | _, _ => .declined "Invalid PLACE coordinates.".toList)) ∧
        (Placement.read? (Placement.keyword ++ ' ' :: x ++ ',' :: y) = some ⟨x, y, none⟩ ∧
            (i.process lex (some (Placement.keyword ++ ' ' :: x ++ ',' :: y))).value.2.2 ≠
              .failed "Invalid PLACE coordinates.".toList ↔
          ((readCoordinate? x).isSome = true ∧ IsBare x) ∧
            (readCoordinate? y).isSome = true ∧ IsBare y) := by
  refine ⟨fun v => Numeral.readCoordinate?_eq_some_iff,
    fun v => Numeral.readCoordinate?_iff_denotes, ?_⟩
  intro _ size hsize lex i hreach
  obtain ⟨rfl, r, rfl, hr⟩ := hreach.exists_lawful hsize
  refine ⟨Lexicon.value_summon_coordinates x y, ?_⟩
  rw [process_standard hr]
  constructor
  · rintro ⟨hread, hheard⟩
    obtain ⟨hx, hy⟩ := Placement.read?_coordinates_iff.1 hread
    rw [respond_of_read? hread, (answersPlacement_place size r _).ne_badCoordinates_iff,
      ← Numeral.readCoordinate?_eq_coordinate? hx,
      ← Numeral.readCoordinate?_eq_coordinate? hy] at hheard
    exact ⟨⟨hheard.1, Numeral.isBare_of_isCoordinate hx⟩, hheard.2,
      Numeral.isBare_of_isCoordinate hy⟩
  · rintro ⟨⟨hx, hxbare⟩, hy, hybare⟩
    have hxshape := Numeral.isCoordinate_of_isBare hx hxbare
    have hyshape := Numeral.isCoordinate_of_isBare hy hybare
    have hread := Placement.read?_coordinates_iff.2 ⟨hxshape, hyshape⟩
    refine ⟨hread, ?_⟩
    rw [respond_of_read? hread, (answersPlacement_place size r _).ne_badCoordinates_iff]
    rw [Numeral.readCoordinate?_eq_coordinate? hxshape] at hx
    rw [Numeral.readCoordinate?_eq_coordinate? hyshape] at hy
    exact ⟨hx, hy⟩

/-- Words with a plus sign and with an underscore make a placement; in a text leading zeros and a
minus sign are admitted. -/
theorem texts_admit_bare_coordinates_zeros :
    (1 : Int) ≤ 6 ∧ Reachable 6 .initial (standard 6 .initial) ∧
      (Lexicon.initial.summon [Placement.keyword, "+5".toList, "1_0".toList]).value =
        (.initial, .ok (.command (.placing 5 10 none))) ∧
      Placement.read? (Placement.keyword ++ ' ' :: "005".toList ++ ',' :: "-0".toList) =
        some ⟨"005".toList, "-0".toList, none⟩ ∧
      ((standard 6 .initial).process .initial
        (some (Placement.keyword ++ ' ' :: "005".toList ++ ',' :: "-0".toList))).value.2.2 ≠
          .failed "Invalid PLACE coordinates.".toList := by
  have hsize : (1 : Int) ≤ 6 := by decide
  have hreach : Reachable 6 .initial (standard 6 .initial) := .fresh (new_initial hsize)
  have hwords := ((texts_admit_bare_coordinates "+5".toList "1_0".toList).2.2 6 hsize _ _ hreach).1
  have hplus : readCoordinate? "+5".toList = some 5 := by decide +kernel
  have hunderscore : readCoordinate? "1_0".toList = some 10 := by decide +kernel
  rw [hplus, hunderscore] at hwords
  have hzeros : (readCoordinate? "005".toList).isSome = true ∧ IsBare "005".toList :=
    ⟨by decide +kernel, Numeral.isBare_of_isCoordinate (by decide +kernel)⟩
  have hminus : (readCoordinate? "-0".toList).isSome = true ∧ IsBare "-0".toList :=
    ⟨by decide +kernel, Numeral.isBare_of_isCoordinate (by decide +kernel)⟩
  have htext := ((texts_admit_bare_coordinates "005".toList "-0".toList).2.2 6 hsize _ _
    hreach).2.2 ⟨hzeros, hminus⟩
  exact ⟨hsize, hreach, hwords, htext⟩

/-- The two ways differ on a plus sign.  A zero in more than 4300 digits is an integer in ASCII
digits that neither of them reads. -/
theorem plus_sign_admitted_in_words :
    readCoordinate? "+5".toList = some 5 ∧ (∀ v, ¬Denotes "+5".toList v) ∧
      (Lexicon.initial.summon [Placement.keyword, "+5".toList, "1".toList]).value =
        (.initial, .ok (.command (.placing 5 1 none))) ∧
      Placement.read? "PLACE +5,1".toList = none ∧
      Denotes (List.replicate 4301 '0') 0 ∧ readCoordinate? (List.replicate 4301 '0') = none := by
  have hshape : Placement.isCoordinate "+5".toList = false := by decide +kernel
  have hzeros := Numeral.denotes_replicate_zero (n := 4300 + 1) (Nat.succ_pos 4300)
  refine ⟨by decide +kernel, fun v h => ?_, by rfl, by decide +kernel, hzeros, ?_⟩
  · rw [(Numeral.denotes_iff.1 h).1] at hshape
    cases hshape
  · rw [Numeral.readCoordinate?_eq_coordinate? (Numeral.denotes_iff.1 hzeros).1, coordinate?,
      if_neg]
    rintro ⟨-, hlen, -⟩
    rw [List.replicate_succ, Numeral.digitsOf_cons (by decide), List.length_cons,
      List.length_replicate] at hlen
    exact Nat.not_succ_le_self 4300 hlen

end Interpreter

end TableRobot
