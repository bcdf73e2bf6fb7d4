import TableRobot.Numeral.Word
import TableRobot.Template.Argument
import TableRobot.Template.Fault
import TableRobot.Template.Slot
/-!
# Filling templates

The slots of a template take arguments in order, or by key where the only
argument is a table that is not empty. What fills a slot has a sign, a marker
of its base and a body, and is laid out in the width of the slot. A row of
arguments has to be used up.
-/

namespace TableRobot.Template

open Numeral (Floating Form radixDigits zeros)

/-! ## Supply of arguments -/

/-- The arguments that are left: a row of them, or a table and the one argument that is
at hand. -/
inductive Supply where
  | row (rest : List Argument)
  | table (entries : List (Text × Argument)) (held : Option Argument)
  deriving Repr

namespace Supply

def ofArguments : List Argument → Supply
  | [.table (e :: es)] => table (e :: es) (some (.table (e :: es)))
  | args => row args

def next : Supply → Except Fault (Argument × Supply)
  | row (a :: rest) => .ok (a, row rest)
  | table entries (some a) => .ok (a, table entries none)
  | _ => .error .tooFewArguments

/-- The next argument as the count that a star stands for. -/
def nextCount (supply : Supply) : Except Fault (Int × Supply) := do
  let (a, supply) ← supply.next
  match a.integer? with
  | some n => .ok (n, supply)
  | none => .error .starNeedsInteger

/-- The supply with the argument of a key at hand. -/
def focus : Key → Supply → Except Fault Supply
  | .absent, supply => .ok supply
  | _, row _ => .error .tableNeeded
  | .unclosed, table _ _ => .error .keyUnclosed
  | .named key, table entries _ =>
      match entries.lookup key with
      | some a => .ok (table entries (some a))
      | none => .error (.keyMissing key)

def isSpent : Supply → Bool
  | row rest => rest.isEmpty
  | table _ _ => true

end Supply

/-! ## Counts -/

def maxPrecision : Nat := 2147483647

/-- The width of a slot; a negative one stands for the flag of the left side. -/
def Slot.widthFrom (s : Slot) (supply : Supply) : Except Fault (Int × Supply) :=
  match s.width with
  | .absent => .ok (0, supply)
  | .given n => if Numeral.fitsWord n then .ok (n, supply) else .error .widthTooBig
  | .star => do
      let (n, supply) ← supply.nextCount
      if Numeral.fitsWord n then .ok (n, supply) else .error .widthBeyondWord

def Slot.precisionFrom (s : Slot) (supply : Supply) : Except Fault (Option Nat × Supply) :=
  match s.precision with
  | .absent => .ok (none, supply)
  | .given n => if n ≤ maxPrecision then .ok (some n, supply) else .error .precisionTooBig
  | .star => do
      let (n, supply) ← supply.nextCount
      if Numeral.fits32 n then .ok (some n.toNat, supply) else .error .precisionBeyondWord

/-! ## Conversions -/

/-- What stands in a slot for a character. -/
inductive Conversion where
  | display
  | shown
  | ascii
  | character
  | decimal
  | radix (base : Nat) (upper : Bool)
  | floating (form : Form) (upper : Bool)
  deriving DecidableEq, Repr

def Conversion.named? (c : Char) : Option Conversion :=
  match c with
  | 's' => some .display
  | 'r' => some .shown
  | 'a' => some .ascii
  | 'c' => some .character
  | 'd' | 'i' | 'u' => some .decimal
  | 'o' => some (.radix 8 false)
  | 'x' => some (.radix 16 false)
  | 'X' => some (.radix 16 true)
  | 'e' => some (.floating .scientific false)
  | 'E' => some (.floating .scientific true)
  | 'f' => some (.floating .fixed false)
  | 'F' => some (.floating .fixed true)
  | 'g' => some (.floating .general false)
  | 'G' => some (.floating .general true)
  | _ => none

/-- What fills a slot before it is laid out. -/
structure Filler where
  numeric : Bool
  sign : Text
  marker : Text
  body : Text
  deriving DecidableEq, Repr

namespace Filler

def ofText (t : Text) : Filler := ⟨false, [], [], t⟩

def ofCut (precision : Option Nat) (t : Text) : Filler :=
  ofText (match precision with
    | some n => t.take n
    | none => t)

def text (f : Filler) : Text := f.sign ++ f.marker ++ f.body

def maxWidth : Nat := 4294967295

/-- The filler in a width. Zeros stand behind the sign and the marker of a number. -/
def laidOut (f : Filler) (flags : Flags) (width : Nat) : Except Fault Text :=
  let gap := width - f.text.length
  if gap = 0 then .ok f.text
  else if maxWidth < width then .error .noRoom
  else if flags.left then .ok (f.text ++ List.replicate gap ' ')
  else if flags.zero && f.numeric then .ok (f.sign ++ f.marker ++ zeros gap ++ f.body)
  else .ok (List.replicate gap ' ' ++ f.text)

end Filler

def signText (flags : Flags) (negative : Bool) : Text :=
  if negative then ['-'] else if flags.plus then ['+'] else if flags.blank then [' '] else []

def inCase (upper : Bool) (t : Text) : Text := if upper then t.map Char.toUpper else t

def integerFiller (n : Int) (base : Nat) (upper : Bool) (flags : Flags)
    (precision : Option Nat) : Except Fault Filler :=
  let count := precision.getD 0
  if maxPrecision - 3 < count then .error .tooManyDigits
  else
    let ds := radixDigits base n.natAbs
    let marker : Text :=
      if flags.marked then
        if base = 8 then "0o".toList else if base = 16 then "0x".toList else []
      else []
    .ok ⟨true, signText flags (n < 0), inCase upper marker,
      zeros (count - ds.length) ++ inCase upper ds⟩

/-- The filler that a floating number is; six is the precision where none is given. -/
def floatingFiller (x : Floating) (form : Form) (upper : Bool) (flags : Flags)
    (precision : Option Nat) : Filler :=
  ⟨true, signText flags x.isNegative, [],
    inCase upper (x.unsignedText form flags.marked (precision.getD 6))⟩

namespace Argument

/-- The integer of a decimal conversion; a floating number is cut toward zero. -/
def cut (c : Char) : Argument → Except Fault Int
  | floating x => x.cut.mapError .uncuttable
  | a =>
      match a.integer? with
      | some n => .ok n
      | none => .error (.numberNeeded c a.sort)

def integer (c : Char) (a : Argument) : Except Fault Int :=
  match a.integer? with
  | some n => .ok n
  | none => .error (.integerNeeded c a.sort)

def toFloating : Argument → Except Fault Floating
  | floating x => .ok x
  | a =>
      match a.integer? with
      | some n =>
          match Floating.ofInt? n with
          | some x => .ok x
          | none => .error .beyondFloating
      | none => .error (.floatingNeeded a.sort)

/-- The character that an argument is or has the number of. -/
def character : Argument → Except Fault Char
  | text [c] => .ok c
  | a =>
      match a.integer? with
      | some n =>
          if 0 ≤ n && n ≤ 0x10FFFF then .ok (Char.ofNat n.toNat)
          else .error .beyondCharacters
      | none => .error .characterNeeded

/-- What an argument puts into a slot with the conversion that `c` stands for. -/
def filler (a : Argument) (c : Char) (conversion : Conversion) (flags : Flags)
    (precision : Option Nat) : Except Fault Filler :=
  match conversion with
  | .display => .ok (.ofCut precision a.display)
  | .shown => .ok (.ofCut precision a.shown)
  | .ascii => .ok (.ofCut precision a.ascii)
  | .character => (a.character).map fun c => .ofText [c]
  | .decimal => do
      let n ← a.cut c
      integerFiller n 10 false flags precision
  | .radix base upper => do
      let n ← a.integer c
      integerFiller n base upper flags precision
  | .floating form upper => do
      let x ← a.toFloating
      .ok (floatingFiller x form upper flags precision)

end Argument

/-! ## Templates -/

/-- The room that a width asks for. The least integer of a word has no opposite within
the word and asks for none. -/
def roomOf (width : Int) : Nat := (Numeral.wrapWord width.natAbs).toNat

/-- Fills a slot; the second part is what is left of the supply. -/
def Slot.fill (s : Slot) (supply : Supply) : Except Fault (Text × Supply) := do
  let supply ← supply.focus s.key
  let (width, supply) ← s.widthFrom supply
  let (precision, supply) ← s.precisionFrom supply
  match s.conversion? with
  | none => .error .incomplete
  | some c =>
      let (a, supply) ← supply.next
      match Conversion.named? c with
      | none => .error (.unknownConversion c s.place)
      | some conversion =>
          let filler ← a.filler c conversion s.flags precision
          let flags := { s.flags with left := s.flags.left || width < 0 }
          let t ← filler.laidOut flags (roomOf width)
          .ok (t, supply)

def fillPieces (supply : Supply) : List Piece → Except Fault Text
  | [] => if supply.isSpent then .ok [] else .error .tooManyArguments
  | .plain c :: ps => (fillPieces supply ps).map (c :: ·)
  | .slot s :: ps => do
      let (t, supply) ← s.fill supply
      let rest ← fillPieces supply ps
      .ok (t ++ rest)

/-- The template with its slots filled by the arguments. -/
def fill (template : Text) (args : List Argument) : Except Fault Text :=
  fillPieces (.ofArguments args) (pieces template)

/-- The template with its slots filled; without arguments it stands as it is. -/
def fillIfAny (template : Text) (args : List Argument) : Except Fault Text :=
  if args.isEmpty then .ok template else fill template args

example : (fill "m %s|%+05d, 100%%".toList [.text "é".toList, .whole 7]).toOption =
    some "m é|+0007, 100%".toList := by decide +kernel

example : (fill "%(n)#x".toList [.table [("n".toList, .whole 255)]]).toOption =
    some "0xff".toList := by decide +kernel

end TableRobot.Template
