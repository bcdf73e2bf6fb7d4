import TableRobot.Console.Switch
import TableRobot.Text.Digit
/-!
# What the words of a command line are

Each word is an option, the value of one, the name of a file or two dashes,
behind which every word names a file. Long options may be shortened as long as
only one option begins that way, short ones may be written in one word, and a
value may stand behind an equals sign. A word that looks like a negative number
or has a space in it is no option.
-/

namespace TableRobot.Console

open Text (isDigit)

/-- What a word is. -/
inductive Mark where
  | plain
  | separator
  | flag (f : Flag) (short : Bool) (value : Option Text)
  | valued (v : Valued) (value : Option Text)
  | stranger
  deriving DecidableEq, Repr

/-- An option with the value that stands in the same word. -/
def Switch.mark (s : Switch) (short : Bool) (value : Option Text) : Mark :=
  match s with
  | flag f => .flag f short value
  | valued v => .valued v value

def cutAtEquals (w : Text) : Text × Option Text :=
  match w.dropWhile (· != '=') with
  | _ :: value => (w.takeWhile (· != '='), some value)
  | [] => (w, none)

def isShort (w : Text) : Bool := !"--".toList.isPrefixOf w

/-- Holds of a minus sign, perhaps digits and a point, and digits; a line break may
end the word. -/
def looksNegative (w : Text) : Bool :=
  match w with
  | '-' :: t =>
      let t := if t.getLast? = some '\n' then t.dropLast else t
      match t.takeWhile isDigit, t.dropWhile isDigit with
      | ds, [] => !ds.isEmpty
      | _, '.' :: ds => !ds.isEmpty && ds.all isDigit
      | _, _ => false
  | _ => false

/-- What a word that begins with a dash and is no full spelling stands for. -/
def markDashed (w : Text) : Except UsageFault Mark :=
  let (stem, value) := cutAtEquals w
  let candidates :=
    if isShort w then
      (spellings.filter (·.1 = w.take 2)).map fun (s, o) => (s, o.mark true (some (w.drop 2)))
    else
      (spellings.filter fun s => stem.isPrefixOf s.1).map fun (s, o) => (s, o.mark false value)
  match candidates with
  | [(_, mark)] => .ok mark
  | [] => .ok (if looksNegative w || w.contains ' ' then .plain else .stranger)
  | several => .error (.ambiguous w (several.map (·.1)))

/-- What a word is that stands before two dashes. -/
def markOf (w : Text) : Except UsageFault Mark :=
  match w with
  | '-' :: _ :: _ =>
      match spellings.lookup w with
      | some o => .ok (o.mark (isShort w) none)
      | none =>
          match cutAtEquals w with
          | (stem, some value) =>
              match spellings.lookup stem with
              | some o => .ok (o.mark (isShort stem) (some value))
              | none => markDashed w
          | _ => markDashed w
  | _ => .ok .plain

def markAll : List Text → Except UsageFault (List (Text × Mark))
  | [] => .ok []
  | w :: ws =>
      if w = "--".toList then .ok ((w, .separator) :: ws.map (·, .plain))
      else do
        let mark ← markOf w
        let rest ← markAll ws
        .ok ((w, mark) :: rest)

end TableRobot.Console
