import TableRobot.Interpreter.Basic
/-!
# Runs of an interpreter

A run starts with an interpreter made with the lexicon of the start and goes
on by calls, in any order and number: a text, several texts at once, or a
reset.  The lexicon passes from each call to the next.
-/

namespace TableRobot

open Text (isAllBlank trim)

inductive Call where
  | process (raw : Option Text)
  | processAll (raws : List (Option Text))
  | reset

namespace Interpreter

/-! ## One text -/

/-- The interpreter after a text has been carried out, with the outcome: a fault leaves the
interpreter as it was. -/
def concluded (i : Interpreter) : Except Fault (Robot × Outcome) → Interpreter × Outcome
  | .ok (robot, outcome) => (i.commit robot outcome, outcome)
  | .error _ => (i, .refused .crashed)

theorem exists_robot_concluded (i : Interpreter) (result : Except Fault (Robot × Outcome)) :
    ∃ r, (i.concluded result).1 = { i with robot := r } := by
  cases result with
  | error fault => exact ⟨i.robot, rfl⟩
  | ok moved =>
      obtain ⟨r, o⟩ := moved
      rw [concluded, commit]
      split
      · exact ⟨r, rfl⟩
      · exact ⟨i.robot, rfl⟩

variable [Routines]

theorem value_process_of_blank (i : Interpreter) (lex : Lexicon) {t : Text}
    (h : isAllBlank t = true) : (i.process lex (some t)).value = (lex, i, .refused .empty) := by
  rw [process, if_pos h]
  rfl

theorem value_process (i : Interpreter) (lex : Lexicon) {t : Text} (h : isAllBlank t = false) :
    (i.process lex (some t)).value =
      ((i.dispatch lex (trim t)).value.1, i.concluded (i.dispatch lex (trim t)).value.2) := by
  simp only [process, h, Bool.false_eq_true, if_false, Logged.value_bind]
  cases (i.dispatch lex (trim t)).value with
  | mk next result =>
      cases result with
      | error fault => rfl
      | ok moved => rfl

theorem exists_robot_process (i : Interpreter) (lex : Lexicon) (raw : Option Text) :
    ∃ r, (i.process lex raw).value.2.1 = { i with robot := r } := by
  cases raw with
  | none => exact ⟨i.robot, rfl⟩
  | some t =>
      cases hblank : isAllBlank t with
      | true =>
          rw [i.value_process_of_blank lex hblank]
          exact ⟨i.robot, rfl⟩
      | false =>
          rw [i.value_process lex hblank]
          exact i.exists_robot_concluded _

/-! ## Many texts -/

theorem length_processAll (i : Interpreter) (lex : Lexicon) (raws : List (Option Text)) :
    (i.processAll lex raws).value.2.2.length = raws.length := by
  induction raws generalizing i lex with
  | nil => rfl
  | cons raw raws ih =>
      simp only [processAll, Logged.value_bind, Logged.value_map, List.length_cons, ih]

theorem value_processAll_append (i : Interpreter) (lex : Lexicon)
    (raws more : List (Option Text)) :
    (i.processAll lex (raws ++ more)).value =
      let first := (i.processAll lex raws).value
      let rest := (first.2.1.processAll first.1 more).value
      (rest.1, rest.2.1, first.2.2 ++ rest.2.2) := by
  induction raws generalizing i lex with
  | nil => rfl
  | cons raw raws ih =>
      simp only [List.cons_append, processAll, Logged.value_bind, Logged.value_map, ih]

/-! ## Calls -/

def after (i : Interpreter) (lex : Lexicon) : Call → Lexicon × Interpreter
  | .process raw =>
      let result := (i.process lex raw).value
      (result.1, result.2.1)
  | .processAll raws =>
      let result := (i.processAll lex raws).value
      (result.1, result.2.1)
  | .reset => (lex, i.reset.value)

/-- Holds of the lexicon and the interpreter at each point of a run on a table of the size. -/
inductive Reachable (size : Int) : Lexicon → Interpreter → Prop where
  | fresh {lex : Lexicon} {i : Interpreter} (h : (new .initial size).value = (lex, .ok i)) :
      Reachable size lex i
  | call {lex : Lexicon} {i : Interpreter} (h : Reachable size lex i) (c : Call) :
      Reachable size (i.after lex c).1 (i.after lex c).2

end Interpreter

end TableRobot
