import TableRobot.Text.Basic
/-!
# Blank characters

The characters that count as white space around commands, words and numerals.
Numerals admit all of them but the four information separators.
-/

namespace TableRobot.Text

/-- White space: the ASCII controls from tab to carriage return, the information
separators, the space, next line, no-break space and the Unicode spaces. -/
def isBlank (c : Char) : Bool :=
  let n := c.toNat
  (0x09 ≤ n && n ≤ 0x0D) || (0x1C ≤ n && n ≤ 0x20) || n == 0x85 || n == 0xA0 || n == 0x1680 ||
    (0x2000 ≤ n && n ≤ 0x200A) || n == 0x2028 || n == 0x2029 || n == 0x202F || n == 0x205F ||
    n == 0x3000

/-- White space that may stand around a numeral. -/
def isNumeralBlank (c : Char) : Bool :=
  isBlank c && !(0x1C ≤ c.toNat && c.toNat ≤ 0x1F)

def trim (t : Text) : Text := trimBy isBlank t

def isAllBlank (t : Text) : Bool := t.all isBlank

def isAscii (t : Text) : Bool := t.all (·.toNat < 0x80)

def isLetter (c : Char) : Bool :=
  (0x41 ≤ c.toNat && c.toNat ≤ 0x5A) || (0x61 ≤ c.toNat && c.toNat ≤ 0x7A)

theorem trim_trim (t : Text) : trim (trim t) = trim t := trimBy_trimBy isBlank t

theorem trim_of_isAllBlank {t : Text} (h : isAllBlank t = true) : trim t = [] := by
  have hdrop : t.dropWhile isBlank = [] := by simpa using dropWhile_append_of_all h []
  rw [trim, trimBy, hdrop]
  rfl

theorem isAllBlank_of_trim {t : Text} (h : trim t = []) : isAllBlank t = true := by
  have hwhole := takeWhile_append_trimBy isBlank t
  rw [show trimBy isBlank t = [] from h] at hwhole
  rw [isAllBlank, ← hwhole, List.all_append, List.all_append, List.all_reverse,
    List.all_takeWhile, List.all_takeWhile]
  rfl

theorem trimEndBy_of_trim {t : Text} (h : trim t = t) : trimEndBy isBlank t = t := by
  have htwice : trimEndBy isBlank (trim t) = trim t := trimEndBy_trimEndBy isBlank _
  rwa [h] at htwice

end TableRobot.Text
