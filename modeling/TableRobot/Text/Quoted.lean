import TableRobot.Text.Hex
import TableRobot.Text.Visible
/-!
# Quoted texts in messages

Messages show a text between quotes with what cannot be seen escaped. Single
quotes are used unless the text has a single quote and no double quote; then
only the quote in use, the backslash and hidden characters are escaped.
-/

namespace TableRobot.Text

def quoteFor (t : Text) : Char :=
  if t.contains '\'' && !t.contains '"' then '"' else '\''

/-- A character by its code point, in the shortest of three widths. -/
def escape (c : Char) : Text :=
  if c.toNat < 0x100 then '\\' :: 'x' :: hex 2 c.toNat
  else if c.toNat < 0x10000 then '\\' :: 'u' :: hex 4 c.toNat
  else '\\' :: 'U' :: hex 8 c.toNat

/-- One character as it stands between quotes of the kind `q`. -/
def shown (q : Char) (c : Char) : Text :=
  if c = q || c = '\\' then ['\\', c]
  else if c = '\n' then ['\\', 'n']
  else if c = '\r' then ['\\', 'r']
  else if c = '\t' then ['\\', 't']
  else if isVisible c then [c]
  else escape c

def asciiOnly (t : Text) : Text :=
  t.flatMap fun c => if c.toNat < 0x80 then [c] else escape c

/-- The text between quotes, with escapes for what cannot stand there. -/
def quoted (t : Text) : Text :=
  let q := quoteFor t
  q :: (t.flatMap (shown q) ++ [q])

example : quoted "it's".toList = "\"it's\"".toList := by decide +kernel

example : quoted "a\"b'c\\\n\u200b".toList = "'a\"b\\'c\\\\\\n\\u200b'".toList := by
  decide +kernel

end TableRobot.Text
