import TableRobot.Text.Blank
import TableRobot.Text.Capital
import TableRobot.Text.Digit
/-!
# Placements

A placement asks for two coordinates and perhaps a facing:

    PLACE X,Y
    PLACE X,Y,FACING

The keyword is read in any case and needs white space behind it; the parts may
have white space around them. A coordinate is a row of digits of any script
behind at most one minus sign, a facing a row of Latin letters. Only the shape
is settled here; values and names are looked at when the placement is carried
out. `Placement.Layout` states the grammar and `Placement.read?` recognises it.
-/

namespace TableRobot

open Text (trim capitals isAllBlank isBlank isDigit isLetter fields)

/-- The parts of a placement as they were written. -/
structure Placement where
  x : Text
  y : Text
  facing : Option Text
  deriving DecidableEq, Repr

namespace Placement

def keyword : Text := "PLACE".toList

/-- Holds of a row of digits behind at most one minus sign. -/
def isCoordinate (t : Text) : Bool :=
  let ds := match t with
    | '-' :: r => r
    | r => r
  !ds.isEmpty && ds.all isDigit

def isWord (t : Text) : Bool := !t.isEmpty && t.all isLetter

/-- The placement with these parts, if each has its shape. -/
def ofParts? : List Text → Option Placement
  | [x, y] => if isCoordinate x && isCoordinate y then some ⟨x, y, none⟩ else none
  | [x, y, f] =>
      if isCoordinate x && isCoordinate y && isWord f then some ⟨x, y, some f⟩ else none
  | _ => none

/-- Recognises a placement; a text of another shape is none. -/
def read? (t : Text) : Option Placement :=
  let cmd := trim t
  if capitals (cmd.take keyword.length) = keyword then
    match cmd.drop keyword.length with
    | c :: rest => if isBlank c then ofParts? ((fields ',' (c :: rest)).map trim) else none
    | [] => none
  else none

/-- The parts as a command line of separate words, the keyword first. -/
def parts (p : Placement) : List Text :=
  match p.facing with
  | none => [keyword, p.x, p.y]
  | some f => [keyword, p.x, p.y, f]

/-! ## The grammar -/

/-- Holds of a spelling of the keyword in capital and small letters. -/
def IsKeyword (k : Text) : Prop :=
  k.all isLetter = true ∧ k.map Char.toUpper = keyword

/-- A part of a text with the white space around it. -/
@[ext]
structure Padded where
  before : Text
  core : Text
  after : Text
  before_blank : isAllBlank before = true
  after_blank : isAllBlank after = true

namespace Padded

def text (f : Padded) : Text := f.before ++ f.core ++ f.after

end Padded

/-- A text cut into the parts of a placement, with white space where it is admitted. The gap
behind the keyword is the white space before the first coordinate. -/
@[ext]
structure Layout where
  lead : Text
  key : Text
  x : Padded
  y : Padded
  facing : Option Padded
  lead_blank : isAllBlank lead = true
  isKeyword_key : IsKeyword key
  gap_ne_nil : x.before ≠ []
  isCoordinate_x : isCoordinate x.core = true
  isCoordinate_y : isCoordinate y.core = true
  isWord_facing : ∀ f ∈ facing, isWord f.core = true

namespace Layout

def body (l : Layout) : Text :=
  l.x.text ++ ',' :: match l.facing with
    | none => l.y.text
    | some f => l.y.text ++ ',' :: f.text

def text (l : Layout) : Text := l.lead ++ l.key ++ l.body

/-- The parts that count. -/
def placement (l : Layout) : Placement := ⟨l.x.core, l.y.core, l.facing.map Padded.core⟩

end Layout

example : read? " place\u00a0-1 , \u0663,north".toList =
    some ⟨"-1".toList, "\u0663".toList, some "north".toList⟩ := by decide +kernel

example : read? "PLACE1,2".toList = none := by decide +kernel

end Placement

end TableRobot
