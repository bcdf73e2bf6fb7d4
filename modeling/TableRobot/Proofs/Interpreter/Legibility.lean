import TableRobot.Proofs.Interpreter.Refinement
import TableRobot.Proofs.Numeral.Written
/-!
# Legible outcomes

Messages and payloads of the built-in commands are made of words, numbers and
names of facings.  None of them has a colon, the head of an arrow or a line feed
in it, whatever text was processed.
-/

namespace TableRobot

open Numeral (digits written)

/-! ## Prose -/

def isProse (c : Char) : Bool := c != ':' && c != '>' && c != '\n'

def Text.IsProse (t : Text) : Prop := t.all isProse = true

namespace Text.IsProse

variable {s t : Text}

theorem append (hs : s.IsProse) (ht : t.IsProse) : (s ++ t).IsProse := by
  rw [IsProse, List.all_append, hs, ht]
  rfl

theorem not_mem (h : t.IsProse) {c : Char} (hc : isProse c = false) : c ∉ t := by
  intro hmem
  exact Bool.false_ne_true (hc.symm.trans (List.all_eq_true.1 h c hmem))

/-- A text that is spelled out is looked at as a list, since unfolding it from its bytes takes
the kernel long. -/
theorem spelled (h : t.all isProse = true) : Text.IsProse (String.ofList t).toList := by
  rw [String.toList_ofList]
  exact h

end Text.IsProse

structure Outcome.IsLegible (o : Outcome) : Prop where
  message : o.message.IsProse
  report : ∀ payload ∈ o.report, payload.IsProse

/-! ## Messages and payloads -/

namespace Reference

theorem isProse_digits (n : Nat) : (digits n).IsProse := by
  have hdigit : ∀ k < 10, isProse (Numeral.digit k) = true := by decide
  apply List.all_eq_true.2
  intro c hc
  obtain ⟨k, hk, rfl⟩ := Numeral.exists_of_mem_digits hc
  exact hdigit k hk

theorem isProse_written (n : Int) : (written n).IsProse := by
  cases n with
  | ofNat n => exact isProse_digits n
  | negSucc n => exact Text.IsProse.append (s := ['-']) rfl (isProse_digits (n + 1))

theorem isProse_name (f : Facing) : f.name.IsProse := by
  cases f <;> exact .spelled rfl

theorem isProse_cellText (c : Cell) : (cellText c).IsProse :=
  .append (.append (isProse_written c.x) (.spelled rfl)) (isProse_written c.y)

/-! ## Answers -/

variable {size : Int} {r : Robot}

theorem isLegible_refuse {message : Text} (h : message.IsProse) :
    (refuse r message).2.IsLegible := ⟨h, by rintro payload ⟨⟩⟩

theorem isLegible_comply {message : Text} (h : message.IsProse) :
    (comply r message).2.IsLegible := ⟨h, by rintro payload ⟨⟩⟩

theorem AnswersPlacement.isLegible {p : Placement} {a : Robot × Outcome}
    (h : AnswersPlacement size r p a) : a.2.IsLegible := by
  cases h with
  | unread => exact isLegible_refuse (.spelled rfl)
  | outside => exact isLegible_refuse (.spelled rfl)
  | unspelt => exact isLegible_refuse (.spelled rfl)
  | unturned => exact isLegible_refuse (.spelled rfl)
  | @put x y f =>
      apply isLegible_comply
      exact .append (.append (.append (.append (.spelled rfl) (isProse_cellText ⟨x, y⟩))
        (.spelled rfl)) (isProse_name f)) (.spelled rfl)

theorem isLegible_move : (move size r).2.IsLegible := by
  unfold move
  split
  · apply isLegible_comply
    exact .append (.append (.spelled rfl) (isProse_cellText _)) (.spelled rfl)
  · exact isLegible_refuse (.spelled rfl)

theorem isLegible_turnLeft : (turnLeft r).2.IsLegible :=
  isLegible_comply (.append (.append (.spelled rfl) (isProse_name _)) (.spelled rfl))

theorem isLegible_turnRight : (turnRight r).2.IsLegible :=
  isLegible_comply (.append (.append (.spelled rfl) (isProse_name _)) (.spelled rfl))

theorem isLegible_tell : (tell r).2.IsLegible := by
  refine ⟨.spelled rfl, ?_⟩
  rintro payload ⟨⟩
  exact .append (.append (isProse_cellText r.cell) (.spelled rfl)) (isProse_name r.facing)

theorem isLegible_obey (keyword : Text) : (obey size r keyword).2.IsLegible := by
  unfold obey
  split
  · exact isLegible_move
  · split
    · exact isLegible_turnLeft
    · split
      · exact isLegible_turnRight
      · split
        · exact isLegible_tell
        · exact isLegible_refuse (.spelled rfl)

theorem isLegible_answer (cmd : Text) : (answer size r cmd).2.IsLegible := by
  unfold answer
  split
  · exact (answersPlacement_place size r _).isLegible
  · split
    · exact isLegible_obey _
    · exact isLegible_refuse (.spelled rfl)

theorem isLegible_respond (size : Int) (r : Robot) (raw : Option Text) :
    (respond size r raw).2.IsLegible := by
  unfold respond
  split
  · exact isLegible_refuse (.spelled rfl)
  · split
    · exact isLegible_refuse (.spelled rfl)
    · exact isLegible_answer _

theorem isLegible_respondAll (raws : List (Option Text)) :
    ∀ o ∈ (respondAll size r raws).2, o.IsLegible := by
  induction raws generalizing r with
  | nil => intro o ho; cases ho
  | cons raw raws ih =>
      intro o ho
      rcases List.mem_cons.1 ho with rfl | ho
      · exact isLegible_respond size r raw
      · exact ih o ho

end Reference

namespace Interpreter

variable [Routines] {size : Int} {lex : Lexicon} {i : Interpreter}

theorem Reachable.isLegible_process (h : Reachable size lex i) (hsize : 1 ≤ size)
    (raw : Option Text) : (i.process lex raw).value.2.2.IsLegible := by
  obtain ⟨rfl, r, rfl, hr⟩ := h.exists_lawful hsize
  rw [process_standard hr]
  exact Reference.isLegible_respond size r raw

theorem Reachable.isLegible_processAll (h : Reachable size lex i) (hsize : 1 ≤ size)
    (raws : List (Option Text)) : ∀ o ∈ (i.processAll lex raws).value.2.2, o.IsLegible := by
  obtain ⟨rfl, r, rfl, hr⟩ := h.exists_lawful hsize
  rw [processAll_standard hr]
  exact Reference.isLegible_respondAll raws

end Interpreter

end TableRobot
