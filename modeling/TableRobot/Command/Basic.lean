import TableRobot.Command.Fault
import TableRobot.Command.Kind
import TableRobot.Command.Report
import TableRobot.Command.Spelling
import TableRobot.Template.Filling
/-!
# Commands

A command is one use of a kind: it is matched against a command line, bound to
a table and executed on the robot. Matching may spoil a command, and a spoilt
command refuses to be executed. An execution never changes the robot unless it
succeeds. What the routines of custom kinds do is left open.
-/

namespace TableRobot

open Text (capitals)

/-- A command between its making and its execution. -/
structure Command where
  kind : Kind
  name : Text
  matching : Matching
  action : Action
  valid : Bool
  complaint : Option Text
  tableSize : Int
  x? : Option Int
  y? : Option Int
  facing? : Option Text
  memo : Text
  deriving DecidableEq, Repr

/-- The answer of a match: the line is accepted, or declined for a reason. -/
inductive Verdict where
  | accepted
  | declined (reason : Option Text)
  deriving DecidableEq, Repr

/-- What a routine makes of a line; with a line that it accepts it may keep a memo. -/
inductive Reply where
  | accept (memo : Text)
  | decline (reason : Option Text)
  | throw (message : Option Text)
  | spoil (message : Option Text)
  deriving DecidableEq, Repr

/-- The routines of custom kinds by their names: what they make of a line, and what they
make of the robot or what they throw. -/
class Routines where
  reply : Text → Command → List Text → Reply
  effect : Text → Command → Robot → Except Text (Robot × Outcome)

/-- Where nobody brings routines, every line is declined. -/
instance (priority := low) Routines.none : Routines where
  reply _ _ _ := .decline .none
  effect _ _ _ := .error []

/-! ## Cells in machine words -/

/-- Whether the cell lies on the table, with the coordinates in machine words. -/
def Cell.onTable (c : Cell) (size : Int) : Except Fault Bool :=
  match onTable? size c.coordinates with
  | some b => .ok b
  | none => .error .beyondWord

def Cell.step (c : Cell) (f : Facing) : Except Fault Cell :=
  match c.step? f with
  | some t => .ok t
  | none => .error .beyondWord

/-! ## Commands -/

namespace Command

def unboundTableSize : Int := 6

/-- A new command of a kind under a name; an outsider cannot be matched, and a kind
without an action cannot be used. -/
def new (kind : Kind) (name : Text) : Except Fault Command :=
  let make matching action :=
    ⟨kind, name, matching, action, true, some [], unboundTableSize, none, none, none, []⟩
  match kind with
  | .builtin b => .ok (make (Parent.builtin b).matching (.builtin b))
  | .custom c =>
      match c.action?.or c.parent.action? with
      | some action => .ok (make (c.matching?.getD c.parent.matching) action)
      | none => .error (.noAction c.title)
  | .outsider title => .error (.noMatching title)

/-- Spoils the command; the complaint is told when it is executed. -/
def spoil (c : Command) (complaint : Option Text) : Command :=
  { c with valid := false, complaint := complaint }

def bind (c : Command) (size : Int) : Command := { c with tableSize := size }

/-! ## Matching -/

/-- A single word matches its name, in any case, and takes no parameters. -/
def examineKeyword (c : Command) : List Text → Except Fault Verdict
  | [] => .error .noWords
  | w :: ws =>
      if capitals w ≠ c.name then .ok (.declined none)
      else do
        Arity.check (.exactly 1) c.name (w :: ws)
        .ok .accepted

/-- A placement reads its coordinates and keeps the facing as it was written. The
coordinates stay with the command also if one of them cannot be used. -/
def examinePlacement (c : Command) : List Text → Command × Except Fault Verdict
  | [] => (c, .error .noWords)
  | w :: ws =>
      if capitals w ≠ Placement.keyword then (c, .ok (.declined none))
      else
        match Arity.check (.between 3 4) Placement.keyword (w :: ws), ws with
        | .ok (), x :: y :: rest =>
            let c := { c with x? := Numeral.readCoordinate? x, y? := Numeral.readCoordinate? y }
            if c.x?.isSome && c.y?.isSome then
              ({ c with facing? := rest.head? }, .ok .accepted)
            else (c, .error .badCoordinates)
        | .error fault, _ => (c, .error fault)
        | .ok (), _ => (c, .error .noWords)

def respond (c : Command) : Reply → Command × Except Fault Verdict
  | .accept memo => ({ c with memo := memo }, .ok .accepted)
  | .decline reason => (c, .ok (.declined reason))
  | .throw message => (c, .error (.thrownByMatching message))
  | .spoil message => (c.spoil message, .ok .accepted)

/-- Matches the command against the words of a line; faults come out. -/
def examine [Routines] (c : Command) (words : List Text) : Command × Except Fault Verdict :=
  match c.matching with
  | .keyword => (c, c.examineKeyword words)
  | .placement => c.examinePlacement words
  | .accept => c.respond (.accept c.memo)
  | .decline reason => c.respond (.decline reason)
  | .throw message => c.respond (.throw message)
  | .spoil message => c.respond (.spoil message)
  | .coded routine => c.respond (Routines.reply routine c words)

/-- Matches the command against the words of a line; a fault spoils the command and
declines the line. -/
def attempt [Routines] (c : Command) (words : List Text) : Command × Verdict :=
  match c.examine words with
  | (c, .ok verdict) => (c, verdict)
  | (c, .error fault) => (c.spoil (some fault.message), .declined (some fault.message))

/-! ## Execution -/

def note (c : Command) (n : Note) : Logged Unit := Logged.tell (.noted c.name n)

/-- The facing that a placement ends with, or the refusal. -/
def landingFacing (c : Command) (r : Robot) : Except Refusal Facing :=
  match c.facing? with
  | some word =>
      match Facing.read? word with
      | some f => .ok f
      | none => .error .badFacing
  | none => if r.placed then .ok r.facing else .error .noFacing

def performPlace (c : Command) (r : Robot) : Logged (Except Fault (Robot × Outcome)) :=
  match c.x?, c.y? with
  | some x, some y =>
      match Cell.onTable ⟨x, y⟩ c.tableSize with
      | .error fault => pure (.error fault)
      | .ok false => pure (.ok (r, .refused .outsideTable))
      | .ok true =>
          match c.landingFacing r with
          | .error refusal => pure (.ok (r, .refused refusal))
          | .ok f => do
              c.note (.placing ⟨x, y⟩ f)
              pure (.ok (r.placedAt ⟨x, y⟩ f, .placed ⟨x, y⟩ f))
  | _, _ => pure (.error .notMatched)

/-- Steps ahead unless the step leads off the table. -/
def performMove (c : Command) (r : Robot) : Except Fault (Robot × Outcome) := do
  let target ← r.cell.step r.facing
  if ← target.onTable c.tableSize then .ok (r.movedTo target, .moved target)
  else .ok (r, .refused .wouldFall)

/-- Does what the action says; faults come out. -/
def perform [Routines] (c : Command) (r : Robot) : Logged (Except Fault (Robot × Outcome)) :=
  match c.action with
  | .builtin .place => c.performPlace r
  | .builtin .move => pure (c.performMove r)
  | .builtin .left =>
      let f := r.facing.turnedLeft
      pure (.ok (r.turnedTo f, .turnedLeft f))
  | .builtin .right =>
      let f := r.facing.turnedRight
      pure (.ok (r.turnedTo f, .turnedRight f))
  | .builtin .report => do
      let payload := Report.text ⟨r.cell, r.facing⟩
      c.note (.reporting payload)
      pure (.ok (r, .reported payload))
  | .succeed message report => pure (.ok (r, .ok message report))
  | .throw message => pure (.error (.thrownByAction message))
  | .put cell facing message => pure (.ok (r.placedAt cell facing, .ok message none))
  | .putAndFail cell facing message =>
      pure (.ok (r.placedAt cell facing, .failed message))
  | .coded routine => pure ((Routines.effect routine c r).mapError .thrownByAction)

def spoilt (c : Command) : Outcome :=
  match c.complaint with
  | none | some [] => .refused .unknown
  | some complaint => .failed complaint

/-- Executes the command: a spoilt command fails, and a failure leaves the robot as
it was. -/
def execute [Routines] (c : Command) (r : Robot) : Logged (Except Fault (Robot × Outcome)) :=
  if !c.valid then pure (.ok (r, c.spoilt))
  else do
    c.note (.started r.placed)
    match ← c.perform r with
    | .error fault => pure (.error fault)
    | .ok (moved, outcome) =>
        if outcome.success then do
          c.note (.succeeded outcome.message)
          pure (.ok (moved, outcome))
        else do
          c.note (.rejected outcome.message)
          pure (.ok (r, outcome))

def onTable (c : Command) (cell : Cell) : Except Fault Bool := cell.onTable c.tableSize

/-- Tells of something under the command's name; below the threshold the template is
not looked at. -/
def say (c : Command) (threshold : Nat) (level : Level) (template : Text)
    (args : List Template.Argument) : Except Fault (List Event) :=
  if threshold ≤ level.severity then
    match Template.fill ("[%s] ".toList ++ template) (.text c.name :: args) with
    | .ok t => .ok [.said level t]
    | .error fault => .error (.template fault)
  else .ok []

@[simp] theorem bind_tableSize (c : Command) (size : Int) : (c.bind size).tableSize = size := rfl

end Command

end TableRobot
