import TableRobot.Journal.Level
import TableRobot.Text.Quoted
/-!
# Switches of the command line

The options that may stand behind the program's name, how they are spelt, and
what is said when they are misused.
-/

namespace TableRobot.Console

open Text (quoted joined)

/-- The options without a value. -/
inductive Flag where
  | help
  | json
  | verbose
  | quiet
  deriving DecidableEq, Repr

/-- The options with a value. -/
inductive Valued where
  | tableSize
  | logLevel
  deriving DecidableEq, Repr

/-- The options. -/
inductive Switch where
  | flag (f : Flag)
  | valued (v : Valued)
  deriving DecidableEq, Repr

/-- The spellings of the options, in the order in which candidates are listed. -/
def spellings : List (Text × Switch) :=
  [("-h".toList, .flag .help), ("--help".toList, .flag .help),
    ("--grid-size".toList, .valued .tableSize), ("--json".toList, .flag .json),
    ("-v".toList, .flag .verbose), ("--verbose".toList, .flag .verbose),
    ("-q".toList, .flag .quiet), ("--quiet".toList, .flag .quiet),
    ("--log-level".toList, .valued .logLevel)]

def Switch.title (s : Switch) : Text :=
  joined ['/'] ((spellings.filter (·.2 = s)).map (·.1))

/-- Why the words cannot be used. -/
inductive UsageFault where
  | ambiguous (word : Text) (candidates : List Text)
  | valueMissing (v : Valued)
  | valueUnwanted (f : Flag) (value : Text)
  | notAnInteger (value : Text)
  | notALevel (value : Text)
  | unrecognised (words : List Text)
  deriving DecidableEq, Repr

def about (s : Switch) (message : Text) : Text :=
  "argument ".toList ++ s.title ++ ": ".toList ++ message

def UsageFault.message : UsageFault → Text
  | ambiguous word candidates =>
      "ambiguous option: ".toList ++ word ++ " could match ".toList ++
        joined ", ".toList candidates
  | valueMissing v => about (.valued v) "expected one argument".toList
  | valueUnwanted f value =>
      about (.flag f) ("ignored explicit argument ".toList ++ quoted value)
  | notAnInteger value =>
      about (.valued .tableSize) ("invalid int value: ".toList ++ quoted value)
  | notALevel value =>
      about (.valued .logLevel) ("invalid choice: ".toList ++ quoted value ++
        " (choose from ".toList ++
        joined ", ".toList (Level.all.map fun l => quoted l.name) ++ ")".toList)
  | unrecognised words => "unrecognized arguments: ".toList ++ joined [' '] words

def UsageFault.line (fault : UsageFault) : Text := "robotsim: error: ".toList ++ fault.message

end TableRobot.Console
