import TableRobot.Console.Folder
import TableRobot.Console.Options
import TableRobot.Console.Source
import TableRobot.Interpreter.Basic
import TableRobot.Json.Writer
/-!
# The console

The console feeds the lines of command files, or of the standard input, to one
interpreter and writes each outcome on a line of its own. Blank lines and
comments are passed over. A file that cannot be opened ends the run; what was
written before it stays.
-/

namespace TableRobot.Console

open Text (trim)

/-- The commands among lines: what is left after trimming, without empty lines and
comments. -/
def commandsOf (lines : List Text) : List Text :=
  (lines.map trim).filter fun t => t != [] && t.head? != some '#'

/-- How outcomes are written. -/
inductive Style where
  | plain
  | json
  deriving DecidableEq, Repr

def plainLine (command : Text) (o : Outcome) : Text :=
  (if o.success then "OK ".toList else "FAIL ".toList) ++ command ++ ": ".toList ++ o.message ++
    match o.report with
    | none => []
    | some payload => " -> ".toList ++ payload

/-- A command with its outcome, without a line end. -/
def Style.line : Style → Text → Outcome → Text
  | plain => plainLine
  | json => Json.outcome

def Options.style (o : Options) : Style := if o.json then .json else .plain

/-- The commands that were processed, each with its outcome. -/
abbrev Transcript := List (Text × Outcome)

namespace Transcript

def failures (t : Transcript) : Nat := t.countP fun entry => !entry.2.success

/-- What is written for the commands, one line each. -/
def text (style : Style) (t : Transcript) : Text :=
  t.flatMap fun entry => style.line entry.1 entry.2 ++ ['\n']

end Transcript

/-- What the console has done so far: the interpreter with its lexicon and the commands
that were processed. -/
structure Session where
  lexicon : Lexicon
  interpreter : Interpreter
  transcript : Transcript
  deriving DecidableEq, Repr

namespace Session

def start (lexicon : Lexicon) (interpreter : Interpreter) : Session :=
  ⟨lexicon, interpreter, []⟩

def run [Routines] (s : Session) (lines : List Text) : Logged Session := do
  let commands := commandsOf lines
  let (lexicon, interpreter, outcomes) ←
    s.interpreter.processAll s.lexicon (commands.map some)
  pure ⟨lexicon, interpreter, s.transcript ++ commands.zip outcomes⟩

end Session

/-! ## The program -/

/-- How the program ends. -/
inductive Ending where
  | done
  | noInterpreter
  | unreadable
  | unusableSize (fault : Numeral.QuantityFault)
  | undecodable (fault : DecodeFault)
  | badPath
  deriving DecidableEq, Repr

/-- The exit code; a size or a path that cannot be used and a row of bytes that cannot be
decoded break the program off. -/
def Ending.code : Ending → Nat
  | done => 0
  | noInterpreter => 2
  | unreadable | unusableSize _ | undecodable _ | badPath => 1

def Ending.complaint? : Ending → Option Text
  | unusableSize fault => some fault.message
  | undecodable fault => some fault.message
  | badPath => some "embedded null byte".toList
  | _ => none

/-- Processes a source; a fault of the source ends the program behind its lines. -/
def feed [Routines] (s : Session) (source : Source) : Logged (Session × Option Ending) := do
  let s ← s.run source.lines
  pure (s, source.fault.map .undecodable)

/-- Processes files in order until one ends the program. -/
def feedFiles [Routines] (s : Session) (files : Text → Except OpenReason (List UInt8)) :
    List Text → Logged (Session × Option Ending)
  | [] => pure (s, none)
  | path :: paths =>
      if path.contains '\x00' then pure (s, some .badPath)
      else
        match files path with
        | .error reason => do
            Logged.tell (.unreadable path (reason.message path))
            pure (s, some .unreadable)
        | .ok bytes => do
            match ← feed s (Source.ofBytes bytes) with
            | (s, none) => feedFiles s files paths
            | (s, some ending) => pure (s, some ending)

/-- What the program leaves behind: the text written and how it ended. -/
structure Result where
  output : Text
  ending : Ending
  deriving DecidableEq, Repr

/-- The console program: sets up the interpreter and processes the files, or the
standard input if no file is named. -/
def program [Routines] (settings : Settings) (files : Text → Except OpenReason (List UInt8))
    (input : Source) (o : Options) : Logged Result :=
  match o.tableSize.resolve settings.tableSize with
  | .error fault => pure ⟨[], .unusableSize fault⟩
  | .ok size => do
      match ← Interpreter.new .initial size with
      | (_, .error fault) => do
          Logged.tell (.setUpFailed fault.message)
          pure ⟨[], .noInterpreter⟩
      | (lexicon, .ok interpreter) => do
          Logged.tell (.opened interpreter.size)
          let s := Session.start lexicon interpreter
          let (s, ending?) ←
            if o.files = [] then feed s input else feedFiles s files o.files
          let output := s.transcript.text o.style
          match ending? with
          | some ending => pure ⟨output, ending⟩
          | none => do
              Logged.tell (.finished s.transcript.failures)
              pure ⟨output, .done⟩

end TableRobot.Console
