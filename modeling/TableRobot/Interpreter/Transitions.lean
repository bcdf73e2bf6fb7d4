import TableRobot.Lexicon.Basic
/-!
# Transitions

The transitions say what each single-word command does before and after the
robot has been placed. They are taken from the lexicon once, so later changes
of the lexicon do not reach them. Kinds that are recognised by their arguments
have no row.
-/

namespace TableRobot

/-- What a keyword does: it runs a kind of command or is refused. -/
inductive Transition where
  | run (k : Kind)
  | refuse (r : Refusal)
  deriving DecidableEq, Repr

/-- The single-word commands by keyword, in increasing order of keywords. -/
structure Transitions where
  rows : List (Text × Kind)
  deriving DecidableEq, Repr

namespace Transitions

def fallback (placed : Bool) : Refusal := if placed then .unknown else .notPlaced

def ofKind (placed : Bool) (k : Kind) : Transition :=
  if !placed && k.needsPlacement then .refuse .notPlaced else .run k

def entry (t : Transitions) (placed : Bool) (keyword : Text) : Transition :=
  match t.rows.lookup keyword with
  | some k => ofKind placed k
  | none => .refuse (fallback placed)

def count (t : Transitions) : Nat := 2 * t.rows.length

/-- All pairs of a placement state and a keyword with what they do; the robot that has
not been placed comes first. -/
def listing (t : Transitions) : List (Bool × Text × Transition) :=
  [false, true].flatMap fun placed => t.rows.map fun (w, k) => (placed, w, ofKind placed k)

/-- Whether the kind has a row; an outsider lacks the flag that decides it. -/
def admits : Kind → Except Fault Bool
  | .outsider title => .error (.missing title "takes_arguments".toList)
  | k => .ok (!k.takesArguments)

/-- The rows for the keywords that mean a kind without arguments. -/
def rowsFor (lex : Lexicon) : List Text → Except Fault (List (Text × Kind))
  | [] => .ok []
  | w :: ws =>
      match lex.kind? (Text.capitals w) with
      | none => rowsFor lex ws
      | some k =>
          match admits k with
          | .error fault => .error fault
          | .ok true => (rowsFor lex ws).map ((w, k) :: ·)
          | .ok false => rowsFor lex ws

def build (lex : Lexicon) : Logged (Lexicon × Except Fault Transitions) :=
  lex.afterDiscovery fun lex => pure ((rowsFor lex lex.sortedKeys).map Transitions.mk)

end Transitions

end TableRobot
