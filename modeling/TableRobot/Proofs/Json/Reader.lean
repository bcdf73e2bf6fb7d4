import TableRobot.Json.Writer
/-!
# Reading JSON

A reader for JSON texts that knows nothing of how outcomes are written: blanks
between tokens, all escapes, pairs of surrogates, numbers, arrays and objects.
A text that is no JSON text is refused, and so is a lone surrogate.
-/

namespace TableRobot.Json

open Text (readHex?)

/-- A value.  A number is kept as it is written, and members stay in order. -/
inductive Value where
  | null
  | boolean (b : Bool)
  | number (numeral : Text)
  | string (t : Text)
  | array (items : List Value)
  | object (members : List (Text × Value))

/-! ## Strings -/

def shortEscape? : Char → Option Char
  | '"' => some '"'
  | '\\' => some '\\'
  | '/' => some '/'
  | 'b' => some '\x08'
  | 'f' => some '\x0c'
  | 'n' => some '\n'
  | 'r' => some '\r'
  | 't' => some '\t'
  | _ => none

/-- The codes up to the closing quote, with what follows it.  An escaped character beyond the
basic plane has two codes. -/
def readCodes : Text → Option (List Nat × Text)
  | [] => none
  | '"' :: t => some ([], t)
  | '\\' :: 'u' :: a :: b :: c :: d :: t => do
      let n ← readHex? [a, b, c, d]
      let (ns, t) ← readCodes t
      some (n :: ns, t)
  | '\\' :: e :: t => do
      let c ← shortEscape? e
      let (ns, t) ← readCodes t
      some (c.toNat :: ns, t)
  | c :: t =>
      if c.toNat < 0x20 || c == '\\' then none
      else do
        let (ns, t) ← readCodes t
        some (c.toNat :: ns, t)

def isHigh (n : Nat) : Bool := 0xD800 ≤ n && n < 0xDC00

def isLow (n : Nat) : Bool := 0xDC00 ≤ n && n < 0xE000

def pairUp? : List Nat → Option Text
  | [] => some []
  | n :: ns =>
      if isLow n then none
      else if isHigh n then
        match ns with
        | m :: ns =>
            if isLow m then
              (pairUp? ns).map (Char.ofNat (0x10000 + (n - 0xD800) * 0x400 + (m - 0xDC00)) :: ·)
            else none
        | [] => none
      else (pairUp? ns).map (Char.ofNat n :: ·)

def readString (t : Text) : Option (Text × Text) := do
  let (ns, t) ← readCodes t
  let u ← pairUp? ns
  some (u, t)

/-! ## Numbers -/

def readOne (cs : List Char) : Text → Text × Text
  | [] => ([], [])
  | c :: t => if cs.contains c then ([c], t) else ([], c :: t)

def readDigits (t : Text) : Option (Text × Text) :=
  if t.takeWhile Char.isDigit = [] then none
  else some (t.takeWhile Char.isDigit, t.dropWhile Char.isDigit)

def readInteger : Text → Option (Text × Text)
  | '0' :: t => some (['0'], t)
  | t => readDigits t

def readFraction (t : Text) : Option (Text × Text) :=
  let (point, t) := readOne ['.'] t
  if point = [] then some ([], t)
  else do
    let (ds, t) ← readDigits t
    some (point ++ ds, t)

def readExponent (t : Text) : Option (Text × Text) :=
  let (mark, t) := readOne ['e', 'E'] t
  if mark = [] then some ([], t)
  else do
    let (sign, t) := readOne ['+', '-'] t
    let (ds, t) ← readDigits t
    some (mark ++ sign ++ ds, t)

def readNumber (t : Text) : Option (Value × Text) := do
  let (sign, t) := readOne ['-'] t
  let (whole, t) ← readInteger t
  let (fraction, t) ← readFraction t
  let (exponent, t) ← readExponent t
  some (.number (sign ++ whole ++ fraction ++ exponent), t)

/-! ## Values -/

def isBlank (c : Char) : Bool := c == ' ' || c == '\t' || c == '\n' || c == '\r'

def skipBlanks (t : Text) : Text := t.dropWhile isBlank

section

variable {α : Type}

/-- At least one and at most `n` items with commas between them, up to the closing bracket. -/
def readRow (close : Char) (item : Text → Option (α × Text)) :
    (n : Nat) → Text → Option (List α × Text)
  | 0, _ => none
  | n + 1, t => do
      let (a, t) ← item t
      match skipBlanks t with
      | [] => none
      | c :: t =>
          if c = close then some ([a], t)
          else if c = ',' then do
            let (as, t) ← readRow close item n t
            some (a :: as, t)
          else none

def readItems (close : Char) (item : Text → Option (α × Text)) (t : Text) :
    Option (List α × Text) :=
  match skipBlanks t with
  | [] => none
  | c :: u => if c = close then some ([], u) else readRow close item t.length t

end

def readMember (value : Text → Option (Value × Text)) (t : Text) :
    Option ((Text × Value) × Text) :=
  match skipBlanks t with
  | '"' :: t => do
      let (key, t) ← readString t
      match skipBlanks t with
      | ':' :: t => do
          let (v, t) ← value t
          some ((key, v), t)
      | _ => none
  | _ => none

/-- The value that a text begins with, with what follows it.  Arrays and objects stand in one
another at most `depth` deep. -/
def readValue : (depth : Nat) → Text → Option (Value × Text)
  | 0, _ => none
  | depth + 1, t =>
      match skipBlanks t with
      | 'n' :: 'u' :: 'l' :: 'l' :: t => some (.null, t)
      | 't' :: 'r' :: 'u' :: 'e' :: t => some (.boolean true, t)
      | 'f' :: 'a' :: 'l' :: 's' :: 'e' :: t => some (.boolean false, t)
      | '"' :: t => do
          let (u, t) ← readString t
          some (.string u, t)
      | '[' :: t => do
          let (items, t) ← readItems ']' (readValue depth) t
          some (.array items, t)
      | '\x7b' :: t => do
          let (members, t) ← readItems '\x7d' (readMember (readValue depth)) t
          some (.object members, t)
      | t => readNumber t

def read? (t : Text) : Option Value :=
  match readValue t.length t with
  | some (v, rest) => if skipBlanks rest = [] then some v else none
  | none => none

example : (read? "[-1.5e+3, \"\\ud83d\\ude00\\/\", \x7b\"a\" : [ ]\x7d, true]\n".toList).isSome ∧
    (read? "\"\\ud83d\"".toList).isNone ∧ (read? "[01]".toList).isNone := by decide +kernel

/-! ## Rows -/

theorem skipBlanks_cons {c : Char} (hc : isBlank c = false) (t : Text) :
    skipBlanks (c :: t) = c :: t := List.dropWhile_cons_of_neg (by rw [hc]; decide)

section

variable {α : Type} {close : Char} {item : Text → Option (α × Text)} {n : Nat} {a : α} {t u : Text}

theorem readRow_last (hclose : isBlank close = false) (ht : item t = some (a, close :: u)) :
    readRow close item (n + 1) t = some ([a], u) := by
  rw [readRow, ht]
  simp only [Option.bind_eq_bind, Option.bind_some, skipBlanks_cons hclose, if_true]

theorem readRow_more (hclose : close ≠ ',') (ht : item t = some (a, ',' :: u)) :
    readRow close item (n + 1) t = (readRow close item n u).map fun p => (a :: p.1, p.2) := by
  have hcomma : isBlank ',' = false := rfl
  rw [readRow, ht]
  simp only [Option.bind_eq_bind, Option.bind_some, skipBlanks_cons hcomma, if_neg hclose.symm,
    if_true]
  cases readRow close item n u <;> rfl

theorem readRow_space (hitem : ∀ t, item (' ' :: t) = item t) (n : Nat) (t : Text) :
    readRow close item n (' ' :: t) = readRow close item n t := by
  cases n with
  | zero => rfl
  | succ n => rw [readRow, readRow, hitem]

theorem readRow_joined {entries : List (Text × α)} (hne : entries ≠ [])
    (hn : entries.length ≤ n) (hblank : isBlank close = false) (hcomma : close ≠ ',')
    (hitem : ∀ e ∈ entries, ∀ t, item (e.1 ++ t) = some (e.2, t))
    (hspace : ∀ t, item (' ' :: t) = item t) (t : Text) :
    readRow close item n (Text.joined ", ".toList (entries.map Prod.fst) ++ close :: t) =
      some (entries.map Prod.snd, t) := by
  induction entries generalizing n with
  | nil => exact absurd rfl hne
  | cons e entries ih =>
      obtain ⟨n, rfl⟩ : ∃ m, n = m + 1 := ⟨n - 1, by simp only [List.length_cons] at hn; omega⟩
      have hfirst := hitem e List.mem_cons_self
      cases entries with
      | nil => exact readRow_last hblank (hfirst _)
      | cons f entries =>
          have htail := ih (List.cons_ne_nil f entries) (Nat.le_of_succ_le_succ hn)
            fun g hg => hitem g (List.mem_cons_of_mem e hg)
          rw [List.map_cons, List.map_cons, Text.joined, List.append_assoc, List.append_assoc,
            ← List.map_cons]
          refine (readRow_more hcomma (hfirst _)).trans ?_
          refine (congrArg (Option.map _) ((readRow_space hspace n _).trans htail)).trans ?_
          rfl

end

end TableRobot.Json
