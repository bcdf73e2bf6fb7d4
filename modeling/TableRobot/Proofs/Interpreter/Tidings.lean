import TableRobot.Proofs.Interpreter.Refinement
import TableRobot.Proofs.Numeral.Written
/-!
# Outcomes tell of the robot

Every change of the robot stands in the message of its outcome, and a message
tells of nothing that has not changed.  So whoever hears the outcomes of a run
knows the robot at its end, without a look at the table or the texts.
-/

namespace TableRobot

open Numeral (isToken_written valueOf valueOf_written)
open Text

/-! ## Sentences -/

def Text.sentence (words : List Text) : Text := joined [' '] words ++ ['.']

def Text.wordsOf (t : Text) : List Text := fields ' ' t.dropLast

theorem Text.wordsOf_sentence {words : List Text} (hne : words ≠ [])
    (h : ∀ w ∈ words, ' ' ∉ w) : wordsOf (sentence words) = words := by
  rw [wordsOf, sentence, List.dropLast_concat, fields_joined hne h]

inductive Tidings where
  | placed (c : Cell) (f : Facing)
  | moved (c : Cell)
  | turned (f : Facing)
  deriving DecidableEq, Repr

namespace Tidings

def cell? (t : Text) : Option Cell :=
  match fields ',' t with
  | [x, y] => some ⟨valueOf x, valueOf y⟩
  | _ => none

/-- Messages are told apart by the number of their words. -/
def ofMessage? (message : Text) : Option Tidings :=
  match wordsOf message with
  | [_, _, c, _, f] => (cell? c).bind fun c => (Facing.named? f).map (placed c)
  | [_, _, _, f] => (Facing.named? f).map turned
  | [_, _, c] => (cell? c).map moved
  | _ => none

def update (r : Robot) : Tidings → Robot
  | placed c f => r.placedAt c f
  | moved c => r.movedTo c
  | turned f => r.turnedTo f

/-! ## Messages -/

theorem space_not_mem_text (c : Cell) : ' ' ∉ c.text := by
  have hx := (isToken_written c.x).space_not_mem
  have hy := (isToken_written c.y).space_not_mem
  simp [Cell.text, hx, hy]

theorem space_not_mem_name (f : Facing) : ' ' ∉ f.name := by
  cases f <;> decide

@[simp] theorem cell?_text (c : Cell) : cell? c.text = some c := by
  have hx := (isToken_written c.x).comma_not_mem
  have hy := (isToken_written c.y).comma_not_mem
  simp [cell?, Cell.text, fields_append_cons hx, fields_of_not_mem hy]

theorem message_placed (c : Cell) (f : Facing) :
    (Outcome.placed c f).message =
      sentence ["Placed".toList, "at".toList, c.text, "facing".toList, f.name] := by
  simp [Outcome.placed, Outcome.ok, sentence, joined]

theorem message_moved (c : Cell) :
    (Outcome.moved c).message = sentence ["Moved".toList, "to".toList, c.text] := by
  simp [Outcome.moved, Outcome.ok, sentence, joined]

theorem ofMessage?_placed (c : Cell) (f : Facing) :
    ofMessage? (Outcome.placed c f).message = some (placed c f) := by
  have hwords : wordsOf (Outcome.placed c f).message =
      ["Placed".toList, "at".toList, c.text, "facing".toList, f.name] := by
    rw [message_placed]
    apply wordsOf_sentence (List.cons_ne_nil _ _)
    simp [space_not_mem_text, space_not_mem_name]
  simp [ofMessage?, hwords]

theorem ofMessage?_moved (c : Cell) : ofMessage? (Outcome.moved c).message = some (moved c) := by
  have hwords : wordsOf (Outcome.moved c).message = ["Moved".toList, "to".toList, c.text] := by
    rw [message_moved]
    apply wordsOf_sentence (List.cons_ne_nil _ _)
    simp [space_not_mem_text]
  simp [ofMessage?, hwords]

theorem ofMessage?_turnedLeft (f : Facing) :
    ofMessage? (Outcome.turnedLeft f).message = some (turned f) := by
  cases f <;> decide +kernel

theorem ofMessage?_turnedRight (f : Facing) :
    ofMessage? (Outcome.turnedRight f).message = some (turned f) := by
  cases f <;> decide +kernel

theorem ofMessage?_reported (payload : Text) :
    ofMessage? (Outcome.reported payload).message = none := rfl

end Tidings

/-! ## Outcomes -/

namespace Robot

/-- The robot that someone imagines who has imagined `r` so far and hears of an outcome. -/
def retold (r : Robot) (o : Outcome) : Robot :=
  if o.success then (Tidings.ofMessage? o.message).elim r (Tidings.update r) else r

variable (r : Robot)

theorem retold_of_failure {o : Outcome} (h : o.success = false) : r.retold o = r := by
  rw [retold, h]
  rfl

theorem retold_of_success {o : Outcome} (h : o.success = true) :
    r.retold o = (Tidings.ofMessage? o.message).elim r (Tidings.update r) := if_pos h

theorem retold_placed (c : Cell) (f : Facing) : r.retold (.placed c f) = ⟨true, c, f⟩ := by
  rw [retold_of_success r rfl, Tidings.ofMessage?_placed]
  rfl

theorem retold_moved (c : Cell) : r.retold (.moved c) = { r with cell := c } := by
  rw [retold_of_success r rfl, Tidings.ofMessage?_moved]
  rfl

theorem retold_turnedLeft (f : Facing) : r.retold (.turnedLeft f) = { r with facing := f } := by
  rw [retold_of_success r rfl, Tidings.ofMessage?_turnedLeft]
  rfl

theorem retold_turnedRight (f : Facing) : r.retold (.turnedRight f) = { r with facing := f } := by
  rw [retold_of_success r rfl, Tidings.ofMessage?_turnedRight]
  rfl

theorem retold_reported (payload : Text) : r.retold (.reported payload) = r := by
  rw [retold_of_success r rfl, Tidings.ofMessage?_reported]
  rfl

end Robot

/-! ## Steps and runs -/

namespace Reference

variable {size : Int} {r : Robot}

theorem Answers.retold {cmd : Text} {a : Robot × Outcome} (h : Answers size r cmd a) :
    r.retold a.2 = a.1 := by
  cases h with
  | refused message => exact r.retold_of_failure rfl
  | @put p x y f hp hx hy htable hf =>
      rw [Command.put_eq]
      exact r.retold_placed ⟨x, y⟩ f
  | advanced hr hcmd ha =>
      rw [Command.advance_eq]
      exact r.retold_moved (r.cell.ahead r.facing)
  | turnedLeft hr hcmd => exact r.retold_turnedLeft r.facing.turnedLeft
  | turnedRight hr hcmd => exact r.retold_turnedRight r.facing.turnedRight
  | told hr hcmd =>
      rw [Command.tell_eq]
      exact r.retold_reported _

theorem retold_respond (size : Int) (r : Robot) (raw : Option Text) :
    r.retold (respond size r raw).2 = (respond size r raw).1 := by
  cases raw with
  | none => exact r.retold_of_failure rfl
  | some t =>
      rw [respond]
      split
      · exact r.retold_of_failure rfl
      · exact (answers_answer size r (trim t)).retold

theorem foldl_retold_respondAll (size : Int) (r : Robot) (raws : List (Option Text)) :
    (respondAll size r raws).2.foldl Robot.retold r = (respondAll size r raws).1 := by
  induction raws generalizing r with
  | nil => rfl
  | cons raw raws ih => rw [respondAll, List.foldl_cons, retold_respond, ih]

end Reference

open Reference

namespace Interpreter

theorem eq_standard_of_new {size : Int} {lex : Lexicon} {i : Interpreter}
    (h : (new .initial size).value = (lex, .ok i)) :
    lex = .initial ∧ i = standard size .initial := by
  have hsize : 1 ≤ size := by
    rw [new] at h
    split at h
    · cases (Prod.mk.inj h).2
    · next hsize => omega
  rw [new_initial hsize] at h
  obtain ⟨hlex, hi⟩ := Prod.mk.inj h
  exact ⟨hlex.symm, (Except.ok.inj hi).symm⟩

section

variable [Routines]

theorem robot_processAll {size : Int} {lex : Lexicon} {i : Interpreter}
    (h : (new .initial size).value = (lex, .ok i)) (raws : List (Option Text)) :
    (i.processAll lex raws).value.2.1.robot =
      (i.processAll lex raws).value.2.2.foldl Robot.retold .initial := by
  obtain ⟨rfl, rfl⟩ := eq_standard_of_new h
  rw [processAll_standard (.inl rfl)]
  exact (foldl_retold_respondAll size .initial raws).symm

/-- Retelling an outcome changes what the message names and nothing else: a placement sets the
whole robot, a step its cell, a turn its facing, a report or a failure nothing.  Retold from the
start, the outcomes of a run by texts give its robot; so two runs with the same outcomes end
with the same robot, on whatever tables and by whatever texts. -/
theorem outcomes_determine_robot :
    (∀ r : Robot,
      (∀ c f, r.retold (.placed c f) = ⟨true, c, f⟩) ∧
        (∀ c, r.retold (.moved c) = { r with cell := c }) ∧
        (∀ f, r.retold (.turnedLeft f) = { r with facing := f }) ∧
        (∀ f, r.retold (.turnedRight f) = { r with facing := f }) ∧
        (∀ payload, r.retold (.reported payload) = r) ∧
        ∀ o : Outcome, o.success = false → r.retold o = r) ∧
      (∀ size lex i, (new .initial size).value = (lex, .ok i) → ∀ raws,
        (i.processAll lex raws).value.2.1.robot =
          (i.processAll lex raws).value.2.2.foldl Robot.retold .initial) ∧
      ∀ size lex i, (new .initial size).value = (lex, .ok i) →
        ∀ size' lex' j, (new .initial size').value = (lex', .ok j) → ∀ raws raws',
          (i.processAll lex raws).value.2.2 = (j.processAll lex' raws').value.2.2 →
            (i.processAll lex raws).value.2.1.robot =
              (j.processAll lex' raws').value.2.1.robot := by
  refine ⟨fun r => ?_, fun size lex i h raws => robot_processAll h raws, ?_⟩
  · exact ⟨r.retold_placed, r.retold_moved, r.retold_turnedLeft, r.retold_turnedRight,
      r.retold_reported, fun o => r.retold_of_failure⟩
  · intro size lex i hi size' lex' j hj raws raws' houtcomes
    rw [robot_processAll hi, robot_processAll hj, houtcomes]

end

/-- Two tables, and texts that differ in spelling, in what is missing and in what is refused. -/
theorem outcomes_determine_robot_two_tables :
    (new .initial 6).value = (.initial, .ok (standard 6 .initial)) ∧
      (new .initial 90).value = (.initial, .ok (standard 90 .initial)) ∧
      ∃ raws raws' : List (Option Text),
        raws = ["PLACE 5,1,EAST".toList, [], "left".toList, "MOVE".toList, "JUMP".toList].map some ∧
        raws' = [some " place 05,1 , east".toList, none, some "LEFT".toList, some "move\n".toList,
          some "move east".toList] ∧
        ((standard 6 .initial).processAll .initial raws).value.2.2 =
          ((standard 90 .initial).processAll .initial raws').value.2.2 ∧
        ((standard 6 .initial).processAll .initial raws).value.2.1.robot =
          ((standard 90 .initial).processAll .initial raws').value.2.1.robot := by
  have hnew := new_initial (show (1 : Int) ≤ 6 by decide)
  have hnew' := new_initial (show (1 : Int) ≤ 90 by decide)
  refine ⟨hnew, hnew', _, _, rfl, rfl, ?_⟩
  have houtcomes :
      ((standard 6 .initial).processAll .initial (["PLACE 5,1,EAST".toList, [], "left".toList,
        "MOVE".toList, "JUMP".toList].map some)).value.2.2 =
      ((standard 90 .initial).processAll .initial [some " place 05,1 , east".toList, none,
        some "LEFT".toList, some "move\n".toList, some "move east".toList]).value.2.2 := by
    decide +kernel
  exact ⟨houtcomes, outcomes_determine_robot.2.2 _ _ _ hnew _ _ _ hnew' _ _ houtcomes⟩

end Interpreter

end TableRobot
