import TableRobot.Interpreter.Transitions
/-!
# The interpreter

The interpreter owns one robot on a square table and turns each text into an
outcome. Texts of the shape of a placement go through the lexicon as it is at
that moment; every other text is looked up as a keyword in the transitions that
were taken from the lexicon when the interpreter was made. A command that goes
wrong leaves the robot as it was and ends in a failure.
-/

namespace TableRobot

open Text (isAllBlank trim)

/-- The interpreter: the table's size, the transitions and the robot. -/
structure Interpreter where
  size : Int
  transitions : Transitions
  robot : Robot
  deriving DecidableEq, Repr

namespace Interpreter

/-- Sets up an interpreter with a robot that has not been placed. -/
def new (lex : Lexicon) (size : Int) : Logged (Lexicon × Except Fault Interpreter) :=
  if size < 1 then pure (lex, .error (.tableTooSmall size))
  else do
    match ← Transitions.build lex with
    | (lex, .error fault) => pure (lex, .error fault)
    | (lex, .ok transitions) => do
        Logged.tell (.ready size transitions.count)
        pure (lex, .ok ⟨size, transitions, .initial⟩)

def reset (i : Interpreter) : Logged Interpreter := do
  Logged.tell .reset
  pure { i with robot := .initial }

variable [Routines]

def run (i : Interpreter) (c : Command) : Logged (Except Fault (Robot × Outcome)) :=
  (c.bind i.size).execute i.robot

/-- Carries out a placement through the lexicon. -/
def dispatchPlacement (i : Interpreter) (lex : Lexicon) (p : Placement) :
    Logged (Lexicon × Except Fault (Robot × Outcome)) := do
  match ← lex.summon p.parts with
  | (lex, .error fault) => pure (lex, .error fault)
  | (lex, .ok .unknown) => pure (lex, .ok (i.robot, .refused .unknown))
  | (lex, .ok (.declined reason)) => pure (lex, .ok (i.robot, .failed reason))
  | (lex, .ok (.command c)) => do
      let result ← i.run c
      pure (lex, result)

def dispatchKeyword (i : Interpreter) (lex : Lexicon) (keyword : Text) :
    Logged (Except Fault (Robot × Outcome)) :=
  match i.transitions.entry i.robot.placed keyword with
  | .refuse r => pure (.ok (i.robot, .refused r))
  | .run k =>
      match lex.newCommand k with
      | .error fault => pure (.error fault)
      | .ok c =>
          match c.attempt [keyword] with
          | (c, .accepted) => i.run c
          | (_, .declined reason) =>
              pure (.ok (i.robot,
                .failed (Lexicon.Summons.reason reason Refusal.unknown.message)))

/-- Carries out a text that is not blank; faults come out. -/
def dispatch (i : Interpreter) (lex : Lexicon) (cmd : Text) :
    Logged (Lexicon × Except Fault (Robot × Outcome)) :=
  match Placement.read? cmd with
  | some p => i.dispatchPlacement lex p
  | none => do
      let result ← i.dispatchKeyword lex (keywordOf cmd)
      pure (lex, result)

/-- The interpreter after a command: only a success moves the robot. -/
def commit (i : Interpreter) (r : Robot) (o : Outcome) : Interpreter :=
  if o.success then { i with robot := r } else i

/-- Processes one text, or the absence of one. -/
def process (i : Interpreter) (lex : Lexicon) (raw : Option Text) :
    Logged (Lexicon × Interpreter × Outcome) :=
  match raw with
  | none => do
      Logged.tell .emptyCommand
      pure (lex, i, .refused .empty)
  | some t =>
      if isAllBlank t then do
        Logged.tell .emptyCommand
        pure (lex, i, .refused .empty)
      else do
        let cmd := trim t
        match ← i.dispatch lex cmd with
        | (lex, .ok (robot, outcome)) => do
            Logged.tell (.processed cmd outcome)
            pure (lex, i.commit robot outcome, outcome)
        | (lex, .error _) => do
            Logged.tell (.crashed cmd)
            pure (lex, i, .refused .crashed)

def processAll (i : Interpreter) (lex : Lexicon) :
    List (Option Text) → Logged (Lexicon × Interpreter × List Outcome)
  | [] => pure (lex, i, [])
  | raw :: raws => do
      let (lex, i, o) ← i.process lex raw
      (fun (lex, i, os) => (lex, i, o :: os)) <$> i.processAll lex raws

/-- A failed command leaves the interpreter as it was. -/
theorem value_process_of_failure {i : Interpreter} {lex : Lexicon} {raw : Option Text}
    (h : (i.process lex raw).value.2.2.success = false) :
    (i.process lex raw).value.2.1 = i := by
  cases raw with
  | none => rfl
  | some t =>
      simp only [process] at h ⊢
      split at h
      · next hb => simp [hb]
      · next hb =>
          simp only [hb] at h ⊢
          cases hd : (i.dispatch lex (trim t)).value with
          | mk lex' result =>
              cases result with
              | error fault => simp [hd]
              | ok ro =>
                  simp only [Logged.value_bind, hd, Logged.value_pure] at h
                  simp [hd, commit, h]

end Interpreter

end TableRobot
