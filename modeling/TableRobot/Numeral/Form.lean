import TableRobot.Numeral.Shortest
/-!
# Forms of floating numbers

A floating number is written with a set number of places, with a power of ten,
or in the form of the two that suits its order. Where no precision is asked for
it is written with the fewest digits that identify it, with a power of ten from
ten to the sixteenth on and below a ten thousandth.
-/

namespace TableRobot.Numeral

/-- The forms of a number with a precision. -/
inductive Form where
  | fixed
  | scientific
  | general
  deriving DecidableEq, Repr

def zeros (count : Nat) : Text := List.replicate count '0'

/-- A whole part and a fraction; `full` keeps the point if there is no fraction. -/
def pointed (full : Bool) (whole fraction : Text) : Text :=
  if fraction.isEmpty && !full then whole else whole ++ '.' :: fraction

/-- A power of ten in writing, with a sign and at least two digits. -/
def powerText (k : Int) : Text :=
  let ds := digits k.natAbs
  'e' :: (if k < 0 then '-' else '+') :: (zeros (2 - ds.length) ++ ds)

namespace Digits

def whole (d : Digits) : Text :=
  if d.order < 0 then ['0']
  else
    let count := d.order.toNat + 1
    d.digits.take count ++ zeros (count - d.digits.length)

def fraction (d : Digits) : Text :=
  if d.order < 0 then zeros (-d.order - 1).toNat ++ d.digits
  else d.digits.drop (d.order.toNat + 1)

def plainText (full : Bool) (d : Digits) : Text := pointed full d.whole d.fraction

def powerForm (full : Bool) (d : Digits) : Text :=
  pointed full (d.digits.take 1) (d.digits.drop 1) ++ powerText d.order

/-- Holds of the orders that are written with a point where `limit` digits stand before
it at most. -/
def isPlain (limit : Nat) (d : Digits) : Bool := -4 ≤ d.order && d.order < limit

end Digits

namespace Magnitude

def fixedText (m : Magnitude) (full : Bool) (places : Nat) : Text :=
  let ds := digits (m.rounded (-(places : Int)))
  let ds := zeros (places + 1 - ds.length) ++ ds
  pointed full (ds.take (ds.length - places)) (ds.drop (ds.length - places))

/-- The magnitude in a form; `full` keeps the point and the zeros at the end. -/
def text (m : Magnitude) (form : Form) (full : Bool) (precision : Nat) : Text :=
  match form with
  | .fixed => m.fixedText full precision
  | .scientific => (m.significant (precision + 1)).powerForm full
  | .general =>
      let count := if precision = 0 then 1 else precision
      let d := m.significant count
      let d := if full then d else d.stripped
      if d.isPlain count then d.plainText full else d.powerForm full

/-- The magnitude by the fewest digits that identify it, with a fraction or a power. -/
def naturalText (m : Magnitude) : Text :=
  let d := m.shortest
  if d.isPlain 16 then
    d.whole ++ '.' :: if d.fraction.isEmpty then ['0'] else d.fraction
  else d.powerForm false

end Magnitude

namespace Floating

/-- Holds of the numbers that are written with a minus sign. -/
def isNegative : Floating → Bool
  | finite negative _ => negative
  | infinite negative => negative
  | notANumber => false

/-- A number without its sign, by the text of its magnitude. -/
def unsignedBy (magnitudeText : Magnitude → Text) : Floating → Text
  | finite _ m => magnitudeText m
  | infinite _ => "inf".toList
  | notANumber => "nan".toList

/-- A number without its sign, in a form with a precision. -/
def unsignedText (x : Floating) (form : Form) (full : Bool) (precision : Nat) : Text :=
  x.unsignedBy (·.text form full precision)

/-- A number by the fewest digits that identify it. -/
def naturalText (x : Floating) : Text :=
  let t := x.unsignedBy Magnitude.naturalText
  if x.isNegative then '-' :: t else t

example : (ofBits 0x3FD0000000000000).unsignedText .fixed false 1 = "0.2".toList := by
  decide +kernel

example : (ofBits 0x4341C37937E08000).naturalText = "1e+16".toList := by decide +kernel

end Floating

end TableRobot.Numeral
