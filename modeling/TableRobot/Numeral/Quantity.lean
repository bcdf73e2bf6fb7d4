import TableRobot.Numeral.Floating
/-!
# Quantities given by a caller

A caller may give a table size or a coordinate as an integer, as a floating
number, as a truth value or in writing. Each denotes an integer: a floating
number is cut toward zero, truth counts one, and a writing is read as a numeral.
-/

namespace TableRobot.Numeral

/-- An amount as a caller gives it; what is no amount goes by the name of its sort. -/
inductive Quantity where
  | whole (n : Int)
  | floating (x : Floating)
  | truth (b : Bool)
  | writing (t : Text)
  | other (sort : Text)
  deriving DecidableEq, Repr

/-- Why a quantity denotes no integer. -/
inductive QuantityFault where
  | numeral (fault : Fault)
  | cut (fault : CutFault)
  | unusable (sort : Text)
  deriving DecidableEq, Repr

def QuantityFault.message : QuantityFault → Text
  | .numeral fault => fault.message
  | .cut fault => fault.message
  | .unusable sort =>
      "int() argument must be a string, a bytes-like object or a real number, not '".toList ++
        sort ++ "'".toList

def Quantity.toInt : Quantity → Except QuantityFault Int
  | .whole n => .ok n
  | .floating x => x.cut.mapError .cut
  | .truth b => .ok (if b then 1 else 0)
  | .writing t => (read t).mapError .numeral
  | .other sort => .error (.unusable sort)

end TableRobot.Numeral
