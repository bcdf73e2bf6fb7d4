import TableRobot.Board.Outcome
import TableRobot.Text.Hex
/-!
# Outcomes as JSON

An outcome is written as one object on one line, in ASCII: every character
beyond the visible ones of ASCII is escaped, characters beyond the basic plane
as a pair of surrogates.
-/

namespace TableRobot.Json

open Text (hex)

def unitEscape (n : Nat) : Text := '\\' :: 'u' :: hex 4 n

def escaped (c : Char) : Text :=
  if c = '"' then ['\\', '"']
  else if c = '\\' then ['\\', '\\']
  else if c = '\n' then ['\\', 'n']
  else if c = '\r' then ['\\', 'r']
  else if c = '\t' then ['\\', 't']
  else if c = '\x08' then ['\\', 'b']
  else if c = '\x0c' then ['\\', 'f']
  else if 0x20 ≤ c.toNat && c.toNat ≤ 0x7E then [c]
  else if c.toNat < 0x10000 then unitEscape c.toNat
  else
    let n := c.toNat - 0x10000
    unitEscape (0xD800 + n / 0x400) ++ unitEscape (0xDC00 + n % 0x400)

def string (t : Text) : Text := '"' :: (t.flatMap escaped ++ ['"'])

def stringOrNull : Option Text → Text
  | none => "null".toList
  | some t => string t

def truth (b : Bool) : Text := if b then "true".toList else "false".toList

def pair (key value : Text) : Text := string key ++ ": ".toList ++ value

def outcome (command : Text) (o : Outcome) : Text :=
  '\x7b' :: Text.joined ", ".toList
    [pair "command".toList (string command), pair "success".toList (truth o.success),
      pair "message".toList (string o.message),
      pair "report".toList (stringOrNull o.report)] ++ ['\x7d']

example : string "é\n😀".toList = "\"\\u00e9\\n\\ud83d\\ude00\"".toList := by decide +kernel

end TableRobot.Json
