import TableRobot.Board.Cell
import TableRobot.Command.Placement
/-!
# Spelling of commands

The texts that a client sends for the built-in commands. A placement may name a
facing or carry any word in its place; the word is trimmed and put in capitals,
and nothing checks that it names a facing.
-/

namespace TableRobot

open Numeral (written)
open Text (trim capitals)

/-- What stands behind the coordinates of a placement. -/
inductive Heading where
  | facing (f : Facing)
  | word (t : Text)
  deriving DecidableEq, Repr

def Heading.text : Heading → Text
  | facing f => f.name
  | word t => capitals (trim t)

namespace Spelling

def place (x y : Int) : Option Heading → Text
  | none => Placement.keyword ++ ' ' :: written x ++ ',' :: written y
  | some h => Placement.keyword ++ ' ' :: written x ++ ',' :: written y ++ ',' :: h.text

def move : Text := "MOVE".toList

def left : Text := "LEFT".toList

def right : Text := "RIGHT".toList

def report : Text := "REPORT".toList

end Spelling

def keywordOf (t : Text) : Text := capitals (trim t)

end TableRobot
