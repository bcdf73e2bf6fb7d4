import TableRobot.Proofs.Board.FacingNames
import TableRobot.Proofs.Interpreter.Reachable
/-!
# Spellings of keywords and facings

A keyword, and a facing that stands alone, may be spelt in any case and with
the letters that fold to those of ASCII.  Within a placement only letters of
ASCII are admitted, so there a facing has its spellings in ASCII and no others.
-/

namespace TableRobot

open Text (IsCaseVariant IsFoldable capitals_trim_eq_iff folded)

theorem Builtin.isFoldable_keyword (b : Builtin) : IsFoldable b.keyword := by
  cases b <;> decide +kernel

namespace Reference

variable {size : Int} {r : Robot} {word : Text}

theorem facingSpelt?_eq_some_iff {f : Facing} :
    facingSpelt? word = some f ↔ IsCaseVariant word f.name := by
  have hspelt : facingSpelt? word = Facing.named? (word.map Char.toUpper) := rfl
  rw [hspelt, Facing.named?_eq_some_iff, IsCaseVariant, f.isFoldable_name.2.1]

theorem AnswersPlacement.facingSpelt? {p : Placement} {a : Robot × Outcome}
    (h : AnswersPlacement size r p a) (hword : p.facing = some word)
    (hsuccess : a.2.success = true) : facingSpelt? word = some a.1.facing := by
  cases h with
  | unread => cases hsuccess
  | outside => cases hsuccess
  | unspelt => cases hsuccess
  | unturned => cases hsuccess
  | put hx hy htable hf =>
      rw [hword, landing] at hf
      cases hspelt : Reference.facingSpelt? word with
      | none =>
          rw [hspelt] at hf
          cases hf
      | some f =>
          rw [hspelt] at hf
          exact congrArg some (Except.ok.inj hf)

end Reference

open Reference

namespace Interpreter

/-- A text means a keyword, and a text alone names a facing, exactly if it folds to the word in
some case.  A placement with a word that succeeds, at any point of a run, sets the facing that
the word itself is in some case: nothing is folded there. -/
theorem spellings_fold_to_words :
    (∀ (b : Builtin) t, keywordOf t = b.keyword ↔ IsCaseVariant (folded t) b.keyword) ∧
      (∀ (f : Facing) t, Facing.read? t = some f ↔ IsCaseVariant (folded t) f.name) ∧
      ∀ [Routines] (size : Int), 1 ≤ size → ∀ lex i, Reachable size lex i →
        ∀ t p word, Placement.read? t = some p → p.facing = some word →
        (i.process lex (some t)).value.2.2.success = true →
        ∀ f, (i.process lex (some t)).value.2.1.robot.facing = f ↔ IsCaseVariant word f.name := by
  refine ⟨fun b t => capitals_trim_eq_iff b.isFoldable_keyword, fun f t => ?_, ?_⟩
  · rw [Facing.read?, Facing.named?_eq_some_iff, capitals_trim_eq_iff f.isFoldable_name]
  · intro _ size hsize lex i hreach t p word hp hword hsuccess f
    obtain ⟨rfl, r, rfl, hr⟩ := hreach.exists_lawful hsize
    rw [process_standard hr, respond_of_read? hp] at hsuccess ⊢
    have hspelt := (answersPlacement_place size r p).facingSpelt? hword hsuccess
    rw [← facingSpelt?_eq_some_iff, hspelt, Option.some_inj]
    rfl

/-- The dotless i and a ligature count alone, but a text in which one of them stands for a
facing is no placement. -/
theorem spellings_fold_to_words_ligature :
    keywordOf "\tR\u0131ght".toList = Builtin.right.keyword ∧
      Facing.read? " we\ufb06".toList = some .west ∧
      Placement.read? "PLACE 1,2,we\ufb06".toList = none ∧
      (1 : Int) ≤ 6 ∧ Reachable 6 .initial (standard 6 .initial) ∧
      Placement.read? "PLACE 1,2,weST".toList =
        some ⟨"1".toList, "2".toList, some "weST".toList⟩ ∧
      ((standard 6 .initial).process .initial
        (some "PLACE 1,2,weST".toList)).value.2.2.success = true ∧
      ((standard 6 .initial).process .initial
        (some "PLACE 1,2,weST".toList)).value.2.1.robot.facing = .west := by
  have hkeyword := (spellings_fold_to_words.1 .right "\tR\u0131ght".toList).2 (by decide +kernel)
  have hread := (spellings_fold_to_words.2.1 .west " we\ufb06".toList).2 (by decide +kernel)
  have hnone : Placement.read? "PLACE 1,2,we\ufb06".toList = none := by decide +kernel
  have hsize : (1 : Int) ≤ 6 := by decide
  have hreach : Reachable 6 .initial (standard 6 .initial) := .fresh (new_initial hsize)
  have hplacement : Placement.read? "PLACE 1,2,weST".toList =
      some ⟨"1".toList, "2".toList, some "weST".toList⟩ := by decide +kernel
  have hsuccess : ((standard 6 .initial).process .initial
      (some "PLACE 1,2,weST".toList)).value.2.2.success = true := by decide +kernel
  exact ⟨hkeyword, hread, hnone, hsize, hreach, hplacement, hsuccess,
    (spellings_fold_to_words.2.2 6 hsize _ _ hreach _ _ _ hplacement rfl hsuccess _).2
      (by decide)⟩

end Interpreter

end TableRobot
