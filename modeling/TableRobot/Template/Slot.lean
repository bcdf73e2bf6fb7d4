import TableRobot.Text.Digit
/-!
# Slots of templates

A template is a text with slots. A slot begins with a per cent sign; behind it
stand, each of them optional, a key between parentheses, flags, a width, a
precision behind a point and a size mark, and at the end the conversion. Two per
cent signs are one that stands for itself. A template may end within a slot.
-/

namespace TableRobot.Template

/-- The key of a slot. -/
inductive Key where
  | absent
  | unclosed
  | named (key : Text)
  deriving DecidableEq, Repr

/-- A width or a precision; a star takes it from the arguments. -/
inductive Count where
  | absent
  | given (n : Nat)
  | star
  deriving DecidableEq, Repr

/-- The flags of a slot. -/
structure Flags where
  left : Bool
  plus : Bool
  blank : Bool
  marked : Bool
  zero : Bool
  deriving DecidableEq, Repr

/-- A slot; a template that ends within it leaves it without a conversion. The place is
that of the conversion. -/
structure Slot where
  key : Key
  flags : Flags
  width : Count
  precision : Count
  conversion? : Option Char
  place : Nat
  deriving DecidableEq, Repr

/-- A part of a template. -/
inductive Piece where
  | plain (c : Char)
  | slot (s : Slot)
  deriving DecidableEq, Repr

/-! ## Reading -/

/-- The text up to the parenthesis that closes `depth` others before it, and the text
behind. -/
def splitKey (depth : Nat) : Text → Option (Text × Text)
  | [] => none
  | c :: t =>
      if c = ')' && depth = 0 then some ([], t)
      else
        let depth := if c = '(' then depth + 1 else if c = ')' then depth - 1 else depth
        (splitKey depth t).map fun (key, rest) => (c :: key, rest)

def Key.read : Text → Key × Text
  | '(' :: t =>
      match splitKey 0 t with
      | some (key, rest) => (.named key, rest)
      | none => (.unclosed, [])
  | t => (.absent, t)

def isFlag (c : Char) : Bool := c == '-' || c == '+' || c == ' ' || c == '#' || c == '0'

def Flags.read (t : Text) : Flags × Text :=
  let fs := t.takeWhile isFlag
  (⟨fs.contains '-', fs.contains '+', fs.contains ' ', fs.contains '#', fs.contains '0'⟩,
    t.dropWhile isFlag)

def Count.read : Text → Count × Text
  | '*' :: t => (.star, t)
  | t =>
      let ds := t.takeWhile Char.isDigit
      (if ds = [] then .absent else .given (Text.numberOf ds), t.dropWhile Char.isDigit)

/-- Reads a precision; a point alone stands for zero. -/
def Count.readPrecision : Text → Count × Text
  | '.' :: t =>
      match Count.read t with
      | (.absent, rest) => (.given 0, rest)
      | found => found
  | t => (.absent, t)

/-- The text without a size mark at its beginning. -/
def dropSizeMark : Text → Text
  | c :: t => if c = 'h' || c = 'l' || c = 'L' then t else c :: t
  | [] => []

/-- Reads the slot whose per cent sign stands before `t`, at `place`; the second part is
the text behind the slot. -/
def Slot.read (place : Nat) (t : Text) : Slot × Text :=
  let (key, afterKey) := Key.read t
  let (flags, afterFlags) := Flags.read afterKey
  let (width, afterWidth) := Count.read afterFlags
  let (precision, afterPrecision) := Count.readPrecision afterWidth
  let rest := dropSizeMark afterPrecision
  (⟨key, flags, width, precision, rest.head?, place + 1 + (t.length - rest.length)⟩, rest.drop 1)

/-- The pieces of a text that begins at `place`, without the first `passed` characters. -/
def piecesFrom (place passed : Nat) : Text → List Piece
  | [] => []
  | c :: t =>
      match passed with
      | n + 1 => piecesFrom (place + 1) n t
      | 0 =>
          if c ≠ '%' then .plain c :: piecesFrom (place + 1) 0 t
          else if t.head? = some '%' then .plain '%' :: piecesFrom (place + 1) 1 t
          else
            let (slot, rest) := Slot.read place t
            .slot slot :: piecesFrom (place + 1) (t.length - rest.length) t

def pieces (template : Text) : List Piece := piecesFrom 0 0 template

example : pieces "a%%%(k)-5.2lf".toList =
    [.plain 'a', .plain '%',
      .slot ⟨.named "k".toList, ⟨true, false, false, false, false⟩, .given 5, .given 2,
        some 'f', 12⟩] := by decide +kernel

end TableRobot.Template
