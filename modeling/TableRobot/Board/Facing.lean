import TableRobot.Text.Blank
import TableRobot.Text.Capital
/-!
# Facings

The four directions in which a robot can look, ordered clockwise from north.
Turns are rotations of that order, and each facing has a name that is read
without regard to case.
-/

namespace TableRobot

open Text (capitals trim)

/-- A direction on the table. -/
inductive Facing where
  | north
  | east
  | south
  | west
  deriving DecidableEq, Repr

namespace Facing

def all : List Facing := [north, east, south, west]

def index : Facing → Nat
  | north => 0
  | east => 1
  | south => 2
  | west => 3

def turnedLeft : Facing → Facing
  | north => west
  | east => north
  | south => east
  | west => south

def turnedRight : Facing → Facing
  | north => east
  | east => south
  | south => west
  | west => north

def name : Facing → Text
  | north => "NORTH".toList
  | east => "EAST".toList
  | south => "SOUTH".toList
  | west => "WEST".toList

def named? (t : Text) : Option Facing := all.find? (·.name == t)

/-- The facing that a word names, in any case and between any white space. -/
def read? (t : Text) : Option Facing := named? (capitals (trim t))

@[simp] theorem named?_name (f : Facing) : named? f.name = some f := by
  cases f <;> decide

theorem eq_name_of_named? {t : Text} {f : Facing} (h : named? t = some f) : t = f.name := by
  have := List.find?_some h
  exact (by simpa using this : f.name = t).symm

theorem index_turnedRight (f : Facing) : f.turnedRight.index = (f.index + 1) % 4 := by
  cases f <;> rfl

theorem index_turnedLeft (f : Facing) : f.turnedLeft.index = (f.index + 3) % 4 := by
  cases f <;> rfl

@[simp] theorem turnedLeft_turnedRight (f : Facing) : f.turnedRight.turnedLeft = f := by
  cases f <;> rfl

@[simp] theorem turnedRight_turnedLeft (f : Facing) : f.turnedLeft.turnedRight = f := by
  cases f <;> rfl

end Facing

end TableRobot
