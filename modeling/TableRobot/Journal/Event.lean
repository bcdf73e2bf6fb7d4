import TableRobot.Board.Outcome
import TableRobot.Journal.Level
import TableRobot.Numeral.Reader
/-!
# Events

What the parts of the program have to tell. An event says what happened; its
level, its origin and its wording are functions of it, so no part puts together
a line of the journal itself. How long a match took is not kept: a star stands
for it.
-/

namespace TableRobot

open Numeral (digits written)
open Text (orNone quoted truth)

/-- The part of the program that tells of an event. -/
inductive Origin where
  | settings
  | report
  | lexicon
  | command
  | interpreter
  | console
  | probe
  deriving DecidableEq, Repr

def Origin.label : Origin → Text
  | settings => "robotsim.config".toList
  | report => "robotsim.protocol.wire".toList
  | lexicon => "robotsim.server.command_registry".toList
  | command => "robotsim.commands.base".toList
  | interpreter => "robotsim.server.simulator".toList
  | console => "robotsim.cli.console".toList
  | probe => "robotsim.test".toList

/-- What a command tells of its own run. -/
inductive Note where
  | started (placed : Bool)
  | placing (cell : Cell) (facing : Facing)
  | reporting (payload : Text)
  | rejected (message : Text)
  | succeeded (message : Text)
  deriving DecidableEq, Repr

/-- What happened. -/
inductive Event where
  | sizeMalformed (raw : Text)
  | sizeTooSmall (size : Int)
  | reportEmpty
  | reportShape (text : Text)
  | reportCoordinates (text : Text) (fault : Numeral.Fault)
  | reportFacing (text : Text)
  | bound (key title : Text)
  | discovering
  | visited (group : Text)
  | discovered (count : Nat)
  | noParts
  | matchStarted (name : Text) (count : Nat)
  | matchUnknown (name : Text)
  | matchAccepted (name : Text)
  | matchDeclined (name : Text) (reason : Option Text)
  | cleared
  | noted (name : Text) (note : Note)
  | said (level : Level) (text : Text)
  | ready (size : Int) (transitions : Nat)
  | reset
  | emptyCommand
  | crashed (command : Text)
  | processed (command : Text) (outcome : Outcome)
  | setUpFailed (reason : Text)
  | opened (size : Int)
  | unreadable (path reason : Text)
  | finished (rejected : Nat)
  | probed (text : Text)
  deriving DecidableEq, Repr

namespace Event

def square (size : Int) : Text := written size ++ 'x' :: written size

/-- The levels and texts of the lines that tell of an event, in order. -/
def entries : Event → List (Level × Text)
  | sizeMalformed raw =>
      [(.warning, "Ignoring non-integer ROBOTSIM_GRID_SIZE=".toList ++ quoted raw)]
  | sizeTooSmall size =>
      [(.warning, "Ignoring ROBOTSIM_GRID_SIZE=".toList ++ written size ++
        " (must be >= 1)".toList)]
  | reportEmpty => [(.debug, "decode_report: empty payload".toList)]
  | reportShape text =>
      [(.warning, "decode_report: expected 'X,Y,DIRECTION' but got '".toList ++ text ++
        "'".toList)]
  | reportCoordinates text fault =>
      [(.warning, "decode_report: bad coordinates in '".toList ++ text ++ "': ".toList ++
        fault.message)]
  | reportFacing text =>
      [(.warning, "decode_report: bad direction in '".toList ++ text ++ "'".toList)]
  | bound key title =>
      [(.debug, "Registered command '".toList ++ key ++ "' -> ".toList ++ title)]
  | discovering => [(.info, "Discovering commands...".toList)]
  | visited group => [(.debug, "Imported command module: ".toList ++ group)]
  | discovered count =>
      [(.info, "Command discovery complete. ".toList ++ digits count ++
        " commands registered.".toList)]
  | noParts => [(.debug, "Empty message parts".toList)]
  | matchStarted name count =>
      [(.trace, "match_start name=".toList ++ name ++ " parts=".toList ++ digits count)]
  | matchUnknown name =>
      [(.trace, "match_unknown name=".toList ++ name),
        (.debug, "No command registered for: ".toList ++ name)]
  | matchAccepted name => [(.trace, "match_ok name=".toList ++ name ++ " dur_ms=*".toList)]
  | matchDeclined name reason =>
      [(.trace, "match_error name=".toList ++ name ++ " dur_ms=* err=".toList ++
        orNone reason),
        (.debug, "Command '".toList ++ name ++ "' rejected: ".toList ++ orNone reason)]
  | cleared => [(.debug, "Command registry cleared".toList)]
  | noted name note =>
      let tag := '[' :: name ++ "] ".toList
      match note with
      | .started placed => [(.trace, tag ++ "execute start placed=".toList ++ truth placed)]
      | .placing cell facing =>
          [(.debug, tag ++ "placing at ".toList ++ cell.text ++ " facing ".toList ++
            facing.name)]
      | .reporting payload => [(.debug, tag ++ "report ".toList ++ payload)]
      | .rejected message => [(.debug, tag ++ "rejected: ".toList ++ message)]
      | .succeeded message => [(.trace, tag ++ "execute ok: ".toList ++ message)]
  | said level text => [(level, text)]
  | ready size transitions =>
      [(.debug, "Simulator ready: grid ".toList ++ square size ++ ", ".toList ++
        digits transitions ++ " keyword transitions".toList)]
  | reset => [(.debug, "Simulator reset".toList)]
  | emptyCommand => [(.debug, "Rejected empty command".toList)]
  | crashed command =>
      [(.error, "Error while processing command '".toList ++ command ++ "'".toList)]
  | processed command outcome =>
      [(.debug, "Processed '".toList ++ command ++ "' => success=".toList ++
        truth outcome.success ++ " message='".toList ++ outcome.message ++ "'".toList)]
  | setUpFailed reason => [(.error, "Failed to create simulator: ".toList ++ reason)]
  | opened size => [(.info, "Simulator ready: grid ".toList ++ square size)]
  | unreadable path reason =>
      [(.error, "Cannot read command file ".toList ++ path ++ ": ".toList ++ reason)]
  | finished rejected =>
      [(.info, "Done: ".toList ++ digits rejected ++ " command(s) rejected".toList)]
  | probed text => [(.trace, text)]

/-- The part of the program that an event comes from. -/
def origin : Event → Origin
  | sizeMalformed _ | sizeTooSmall _ => .settings
  | reportEmpty | reportShape _ | reportCoordinates _ _ | reportFacing _ => .report
  | bound _ _ | discovering | visited _ | discovered _ | noParts | matchStarted _ _
  | matchUnknown _ | matchAccepted _ | matchDeclined _ _ | cleared => .lexicon
  | noted _ _ | said _ _ => .command
  | ready _ _ | reset | emptyCommand | crashed _ | processed _ _ => .interpreter
  | setUpFailed _ | opened _ | unreadable _ _ | finished _ => .console
  | probed _ => .probe

/-- The lines of the journal that tell of an event at the threshold or above. -/
def lines (threshold : Nat) (e : Event) : List Text :=
  e.entries.filterMap fun (level, text) =>
    if threshold ≤ level.severity then
      some (level.name ++ ' ' :: e.origin.label ++ ": ".toList ++ text)
    else none

end Event

/-- The lines that tell of the events in order, at the threshold or above. -/
def journal (threshold : Nat) (events : List Event) : List Text :=
  events.flatMap (Event.lines threshold)

end TableRobot
