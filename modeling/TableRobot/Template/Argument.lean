import TableRobot.Numeral.Form
import TableRobot.Text.Quoted
/-!
# Arguments of templates

What a template is filled with: texts, numbers and truth values, nothing at all,
and listings and tables of such. An argument is displayed as it is; within a
listing or a table it is shown, and a text is shown between quotes.
-/

namespace TableRobot.Template

open Numeral (Floating written)
open Text (asciiOnly joined quoted truth)

/-- What fills a slot. -/
inductive Argument where
  | nothing
  | truth (b : Bool)
  | whole (n : Int)
  | floating (x : Floating)
  | text (t : Text)
  | listing (items : List Argument)
  | table (entries : List (Text × Argument))
  deriving Inhabited, Repr

namespace Argument

def sort : Argument → Text
  | nothing => "NoneType".toList
  | truth _ => "bool".toList
  | whole _ => "int".toList
  | floating _ => "float".toList
  | text _ => "str".toList
  | listing _ => "list".toList
  | table _ => "dict".toList

mutual

def shown : Argument → Text
  | nothing => "None".toList
  | truth b => Text.truth b
  | whole n => written n
  | floating x => x.naturalText
  | text t => quoted t
  | listing items => '[' :: joined ", ".toList (shownItems items) ++ [']']
  | table entries => '\x7b' :: joined ", ".toList (shownEntries entries) ++ ['\x7d']

def shownItems : List Argument → List Text
  | [] => []
  | a :: rest => a.shown :: shownItems rest

def shownEntries : List (Text × Argument) → List Text
  | [] => []
  | (key, a) :: rest => (quoted key ++ ": ".toList ++ a.shown) :: shownEntries rest

end

def display : Argument → Text
  | text t => t
  | a => a.shown

def ascii (a : Argument) : Text := asciiOnly a.shown

/-- The integer that an argument is; truth counts one. -/
def integer? : Argument → Option Int
  | truth b => some (if b then 1 else 0)
  | whole n => some n
  | _ => none

example : (listing [.text "a".toList, .nothing, .table [("k".toList, .whole 1)]]).shown =
    "['a', None, \x7b'k': 1\x7d]".toList := by decide +kernel

end Argument

end TableRobot.Template
