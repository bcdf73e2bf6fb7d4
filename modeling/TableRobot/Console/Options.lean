import TableRobot.Console.Mark
import TableRobot.Numeral.Quantity
import TableRobot.Settings
/-!
# Options of the console

What the words behind the program's name ask for. The words are read in order;
the names of files have to stand together, and a later group of them is not
recognised. Unrecognised words are told of at the end, all at once. Two dashes
in the place of a value leave an option with an empty list of values.
-/

namespace TableRobot.Console

/-- The table size that is asked for; an empty list of values is not told from a size
until the size is used. -/
inductive SizeChoice where
  | unset
  | emptied
  | given (n : Int)
  deriving DecidableEq, Repr

namespace SizeChoice

/-- The choice in writing, unless nothing is asked for. -/
def text? : SizeChoice → Option Text
  | unset => none
  | emptied => some "[]".toList
  | given n => some (Numeral.written n)

def resolve (default : Int) : SizeChoice → Except Numeral.QuantityFault Int
  | unset => .ok default
  | emptied => Numeral.Quantity.toInt (.other "list".toList)
  | given n => .ok n

end SizeChoice

/-- What the options say. -/
structure Options where
  files : List Text
  tableSize : SizeChoice
  json : Bool
  verbose : Nat
  quiet : Bool
  level : Option Level
  deriving DecidableEq, Repr

/-- What is asked for: the help text or a run. -/
inductive Invocation where
  | help
  | run (o : Options)
  deriving DecidableEq, Repr

namespace Options

def initial : Options := ⟨[], .unset, false, 0, false, none⟩

def raise (o : Options) : Flag → Options
  | .help => o
  | .json => { o with json := true }
  | .verbose => { o with verbose := o.verbose + 1 }
  | .quiet => { o with quiet := true }

def empty (o : Options) : Valued → Options
  | .tableSize => { o with tableSize := .emptied }
  | .logLevel => { o with level := none }

def set (o : Options) (value : Text) : Valued → Except UsageFault Options
  | .tableSize =>
      match Numeral.read value with
      | .ok n => .ok { o with tableSize := .given n }
      | .error _ => .error (.notAnInteger value)
  | .logLevel =>
      match Level.named? value with
      | some l => .ok { o with level := some l }
      | none => .error (.notALevel value)

/-- Sets the value of an option or, for two dashes, takes it back. -/
def assign (o : Options) (value : Text) (v : Valued) : Except UsageFault Options :=
  if value = "--".toList then .ok (o.empty v) else o.set value v

/-- The least severity that is told of. A level that was given wins over everything,
and the fullest journal over the number of times that more was asked for. -/
def threshold (o : Options) (settings : Settings) : Nat :=
  match o.level with
  | some l => l.severity
  | none =>
      if 3 ≤ o.verbose || settings.trace then Level.trace.severity
      else if 2 ≤ o.verbose then Level.debug.severity
      else if o.verbose = 1 then Level.info.severity
      else if o.quiet then Level.warning.severity
      else Level.info.severity

end Options

/-- Where the group of files stands. -/
inductive FileGroup where
  | awaited
  | open
  | closed
  deriving DecidableEq, Repr

/-- The options so far, the files' group and the words that were not recognised. -/
structure Progress where
  options : Options
  group : FileGroup
  strays : List Text
  deriving DecidableEq, Repr

namespace Progress

def start : Progress := ⟨.initial, .awaited, []⟩

/-- A word that is no option: a file as long as the group is not closed. -/
def plain (p : Progress) (w : Text) : Progress :=
  if p.group = .closed then { p with strays := p.strays ++ [w] }
  else { p with group := .open, options := { p.options with files := p.options.files ++ [w] } }

def interrupt (p : Progress) : Progress :=
  if p.group = .open then { p with group := .closed } else p

def stranger (p : Progress) (w : Text) : Progress :=
  { p.interrupt with strays := p.strays ++ [w] }

/-- The flags that one word spells; what follows a short flag are further short flags. -/
def flagsOf (f : Flag) : Text → Except UsageFault (List Flag)
  | [] => .ok [f]
  | c :: t =>
      match spellings.lookup ['-', c] with
      | some (.flag g) => (flagsOf g t).map (f :: ·)
      | _ => .error (.valueUnwanted f (c :: t))

/-- The flags of a word with the text that follows the first. -/
def flagsOfWord (f : Flag) (short : Bool) : Option Text → Except UsageFault (List Flag)
  | none => .ok [f]
  | some value =>
      if short && value ≠ [] then flagsOf f value else .error (.valueUnwanted f value)

/-- What the words ask for. The first two dashes among the files are left out. -/
def finish (p : Progress) : Except UsageFault Invocation :=
  if p.strays ≠ [] then .error (.unrecognised p.strays)
  else .ok (.run { p.options with files := p.options.files.erase "--".toList })

/-- Reads the marked words in order; the help flag ends the reading. -/
def walk (p : Progress) : List (Text × Mark) → Except UsageFault Invocation
  | [] => p.finish
  | (w, .plain) :: ws => walk (p.plain w) ws
  | (w, .separator) :: ws => walk (p.plain w) ws
  | (w, .stranger) :: ws => walk (p.stranger w) ws
  | (_, .flag f short value) :: ws => do
      let flags ← flagsOfWord f short value
      if flags.contains .help then .ok .help
      else walk { p.interrupt with options := flags.foldl Options.raise p.options } ws
  | (_, .valued v (some value)) :: ws => do
      let options ← p.options.assign value v
      walk { p.interrupt with options } ws
  | (_, .valued v none) :: (value, .plain) :: ws => do
      let options ← p.options.assign value v
      walk { p.interrupt with options } ws
  | (_, .valued v none) :: _ => .error (.valueMissing v)

end Progress

/-- What the words behind the program's name ask for. -/
def readArguments (words : List Text) : Except UsageFault Invocation := do
  let marked ← markAll words
  Progress.start.walk marked

end TableRobot.Console
