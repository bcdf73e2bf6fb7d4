import TableRobot.Proofs.Json.Reader
/-!
# Outcomes read back

What is written of an outcome are visible characters of ASCII and spaces only,
and it reads as the object with the command and the fields of the outcome.
-/

namespace TableRobot.Json

open Text (hex readHex?)

def isPlain (c : Char) : Bool := 0x20 ≤ c.toNat && c.toNat ≤ 0x7E

theorem isPlain_iff {c : Char} : isPlain c = true ↔ 0x20 ≤ c.toNat ∧ c.toNat ≤ 0x7E := by
  rw [isPlain, Bool.and_eq_true, decide_eq_true_eq, decide_eq_true_eq]

/-! ## Characters that were escaped -/

def unitsOf (c : Char) : List Nat :=
  if c.toNat < 0x10000 then [c.toNat]
  else [0xD800 + (c.toNat - 0x10000) / 0x400, 0xDC00 + (c.toNat - 0x10000) % 0x400]

theorem unitsOf_of_lt {c : Char} (h : c.toNat < 0x10000) : unitsOf c = [c.toNat] := if_pos h

theorem isValid_toNat (c : Char) : c.toNat < 0xD800 ∨ 0xDFFF < c.toNat ∧ c.toNat < 0x110000 :=
  c.valid

theorem readCodes_unitEscape {n : Nat} (hn : n < 0x10000) (t : Text) :
    readCodes (unitEscape n ++ t) = (readCodes t).map fun p => (n :: p.1, p.2) := by
  have hread : readHex? (hex 4 n) = some n := by
    rw [Text.readHex?_hex]
    exact congrArg some (Nat.mod_eq_of_lt hn)
  obtain ⟨a, b, c, d, hdigits⟩ : ∃ a b c d, hex 4 n = [a, b, c, d] := ⟨_, _, _, _, rfl⟩
  have htext : unitEscape n ++ t = '\\' :: 'u' :: a :: b :: c :: d :: t := by
    rw [unitEscape, hdigits]
    rfl
  rw [htext, readCodes, ← hdigits, hread]
  cases readCodes t <;> rfl

theorem readCodes_shortEscape {e c : Char} (he : shortEscape? e = some c) (t : Text) :
    readCodes ('\\' :: e :: t) = (readCodes t).map fun p => (c.toNat :: p.1, p.2) := by
  rw [readCodes, he]
  · cases readCodes t <;> rfl
  · rintro a b c d u rfl -
    cases he

theorem readCodes_plain {c : Char} (hplain : 0x20 ≤ c.toNat) (hquote : c ≠ '"')
    (hbackslash : c ≠ '\\') (t : Text) :
    readCodes (c :: t) = (readCodes t).map fun p => (c.toNat :: p.1, p.2) := by
  rw [readCodes]
  · rw [if_neg (by simpa using ⟨hplain, hbackslash⟩)]
    cases readCodes t <;> rfl
  · exact hquote
  · rintro a b c d u rfl -
    exact hbackslash rfl
  · rintro e u rfl -
    exact hbackslash rfl

/-- A character is written behind a backslash, as itself, or as one or two escaped codes. -/
theorem escaped_cases (c : Char) :
    (∃ e, shortEscape? e = some c ∧ escaped c = ['\\', e]) ∨
      (isPlain c = true ∧ c ≠ '"' ∧ c ≠ '\\' ∧ escaped c = [c]) ∨
      (c.toNat < 0x10000 ∧ escaped c = unitEscape c.toNat) ∨
      0x10000 ≤ c.toNat ∧ escaped c = unitEscape (0xD800 + (c.toNat - 0x10000) / 0x400) ++
        unitEscape (0xDC00 + (c.toNat - 0x10000) % 0x400) := by
  fun_cases escaped c with
  | case1 h | case2 _ h | case3 _ _ h | case4 _ _ _ h | case5 _ _ _ _ h | case6 _ _ _ _ _ h
  | case7 _ _ _ _ _ _ h =>
      subst h
      exact .inl ⟨_, rfl, rfl⟩
  | case8 hquote hbackslash _ _ _ _ _ hvisible =>
      exact .inr (.inl ⟨hvisible, hquote, hbackslash, rfl⟩)
  | case9 _ _ _ _ _ _ _ _ hplane => exact .inr (.inr (.inl ⟨hplane, rfl⟩))
  | case10 _ _ _ _ _ _ _ _ hplane => exact .inr (.inr (.inr ⟨Nat.le_of_not_lt hplane, rfl⟩))

theorem isPlain_of_shortEscape? {e c : Char} (h : shortEscape? e = some c) :
    isPlain e = true ∧ c.toNat ≤ 0x7E := by
  unfold shortEscape? at h
  split at h <;> cases h <;> decide

theorem readCodes_escaped (c : Char) (t : Text) :
    readCodes (escaped c ++ t) = (readCodes t).map fun p => (unitsOf c ++ p.1, p.2) := by
  rcases escaped_cases c with ⟨e, he, hc⟩ | ⟨hplain, hquote, hbackslash, hc⟩ | ⟨hplane, hc⟩ |
    ⟨hplane, hc⟩
  · have hlt := (isPlain_of_shortEscape? he).2
    rw [hc, unitsOf_of_lt (by omega)]
    exact readCodes_shortEscape he t
  · rw [isPlain_iff] at hplain
    rw [hc, unitsOf_of_lt (by omega)]
    exact readCodes_plain hplain.1 hquote hbackslash t
  · rw [hc, unitsOf_of_lt hplane]
    exact readCodes_unitEscape hplane t
  · have hvalid := isValid_toNat c
    rw [hc, List.append_assoc, readCodes_unitEscape (by omega), readCodes_unitEscape (by omega),
      unitsOf, if_neg (Nat.not_lt.2 hplane)]
    cases readCodes t <;> rfl

theorem pairUp?_cons {n : Nat} (h : n < 0xD800 ∨ 0xE000 ≤ n) (ns : List Nat) :
    pairUp? (n :: ns) = (pairUp? ns).map (Char.ofNat n :: ·) := by
  have hhigh : ¬isHigh n = true := by
    simp only [isHigh, Bool.and_eq_true, decide_eq_true_eq]
    omega
  have hlow : ¬isLow n = true := by
    simp only [isLow, Bool.and_eq_true, decide_eq_true_eq]
    omega
  rw [pairUp?.eq_def]
  simp only [if_neg hlow, if_neg hhigh]

theorem pairUp?_pair {i j : Nat} (hi : i < 0x400) (hj : j < 0x400) (ns : List Nat) :
    pairUp? ((0xD800 + i) :: (0xDC00 + j) :: ns) =
      (pairUp? ns).map (Char.ofNat (0x10000 + i * 0x400 + j) :: ·) := by
  have hnotlow : ¬isLow (0xD800 + i) = true := by
    simp only [isLow, Bool.and_eq_true, decide_eq_true_eq]
    omega
  have hhigh : isHigh (0xD800 + i) = true := by
    simp only [isHigh, Bool.and_eq_true, decide_eq_true_eq]
    omega
  have hlow : isLow (0xDC00 + j) = true := by
    simp only [isLow, Bool.and_eq_true, decide_eq_true_eq]
    omega
  rw [pairUp?.eq_def]
  simp only [if_neg hnotlow, if_pos hhigh, if_pos hlow, Nat.add_sub_cancel_left]

theorem pairUp?_unitsOf (c : Char) (ns : List Nat) :
    pairUp? (unitsOf c ++ ns) = (pairUp? ns).map (c :: ·) := by
  have hvalid := isValid_toNat c
  by_cases hplane : c.toNat < 0x10000
  · rw [unitsOf_of_lt hplane, List.singleton_append, pairUp?_cons (by omega), Char.ofNat_toNat]
  · have hcode : 0x10000 + (c.toNat - 0x10000) / 0x400 * 0x400 + (c.toNat - 0x10000) % 0x400 =
        c.toNat := by omega
    rw [unitsOf, if_neg hplane, List.cons_append, List.singleton_append,
      pairUp?_pair (by omega) (by omega), hcode, Char.ofNat_toNat]

theorem readCodes_string (u t : Text) :
    readCodes (u.flatMap escaped ++ '"' :: t) = some (u.flatMap unitsOf, t) := by
  induction u with
  | nil => rfl
  | cons c u ih =>
      rw [List.flatMap_cons, List.append_assoc, readCodes_escaped, ih]
      rfl

theorem pairUp?_flatMap_unitsOf (u : Text) : pairUp? (u.flatMap unitsOf) = some u := by
  induction u with
  | nil => rfl
  | cons c u ih =>
      rw [List.flatMap_cons, pairUp?_unitsOf, ih]
      rfl

theorem readString_escaped (u t : Text) :
    readString (u.flatMap escaped ++ '"' :: t) = some (u, t) := by
  rw [readString, readCodes_string]
  simp only [Option.bind_eq_bind, Option.bind_some, pairUp?_flatMap_unitsOf]

/-! ## Outcomes -/

theorem readMember_pair {value : Text → Option (Value × Text)} {v : Value} {w : Text}
    (hvalue : ∀ t, value (w ++ t) = some (v, t)) (hspace : ∀ t, value (' ' :: t) = value t)
    (key t : Text) :
    readMember value (pair key w ++ t) = some ((key, v), t) := by
  have htext : pair key w ++ t = '"' :: (key.flatMap escaped ++ '"' :: ':' :: ' ' :: (w ++ t)) := by
    simp [pair, string]
  rw [htext, readMember, skipBlanks_cons (by decide)]
  simp only [readString_escaped, Option.bind_eq_bind, Option.bind_some]
  rw [skipBlanks_cons (by decide)]
  simp only [hspace, hvalue, Option.bind_some]

theorem readValue_space (depth : Nat) (t : Text) :
    readValue depth (' ' :: t) = readValue depth t := by
  cases depth with
  | zero => rfl
  | succ depth => rfl

theorem readValue_string (depth : Nat) (u t : Text) :
    readValue (depth + 1) (string u ++ t) = some (.string u, t) := by
  rw [string, List.cons_append, List.append_assoc, readValue, skipBlanks_cons (by decide)]
  simp only [List.singleton_append, readString_escaped]
  rfl

theorem readValue_truth (depth : Nat) (b : Bool) (t : Text) :
    readValue (depth + 1) (truth b ++ t) = some (.boolean b, t) := by
  cases b <;> rfl

theorem readValue_stringOrNull (depth : Nat) (report : Option Text) (t : Text) :
    readValue (depth + 1) (stringOrNull report ++ t) = some (report.elim .null .string, t) := by
  cases report with
  | none => rfl
  | some payload => exact readValue_string depth payload t

theorem readValue_object (depth : Nat) (t : Text) :
    readValue (depth + 1) ('\x7b' :: t) =
      (readItems '\x7d' (readMember (readValue depth)) t).map fun p => (.object p.1, p.2) := by
  rw [readValue, skipBlanks_cons (by decide)]
  simp only
  cases readItems '\x7d' (readMember (readValue depth)) t <;> rfl

def ofOutcome (command : Text) (o : Outcome) : Value :=
  .object [("command".toList, .string command), ("success".toList, .boolean o.success),
    ("message".toList, .string o.message), ("report".toList, o.report.elim .null .string)]

def writtenMembers (command : Text) (o : Outcome) : List (Text × Text × Value) :=
  [(pair "command".toList (string command), "command".toList, .string command),
    (pair "success".toList (truth o.success), "success".toList, .boolean o.success),
    (pair "message".toList (string o.message), "message".toList, .string o.message),
    (pair "report".toList (stringOrNull o.report), "report".toList, o.report.elim .null .string)]

theorem readMember_written {command : Text} {o : Outcome} {e : Text × Text × Value}
    (he : e ∈ writtenMembers command o) (depth : Nat) (t : Text) :
    readMember (readValue (depth + 1)) (e.1 ++ t) = some (e.2, t) := by
  simp only [writtenMembers, List.mem_cons, List.not_mem_nil, or_false] at he
  rcases he with rfl | rfl | rfl | rfl
  · exact readMember_pair (readValue_string depth command) (readValue_space _) _ t
  · exact readMember_pair (readValue_truth depth o.success) (readValue_space _) _ t
  · exact readMember_pair (readValue_string depth o.message) (readValue_space _) _ t
  · exact readMember_pair (readValue_stringOrNull depth o.report) (readValue_space _) _ t

def writtenRow (command : Text) (o : Outcome) : Text :=
  Text.joined ", ".toList ((writtenMembers command o).map Prod.fst) ++ ['\x7d']

theorem outcome_eq (command : Text) (o : Outcome) :
    outcome command o = '\x7b' :: writtenRow command o := rfl

theorem readItems_writtenRow (depth : Nat) (command : Text) (o : Outcome) :
    readItems '\x7d' (readMember (readValue (depth + 1))) (writtenRow command o) =
      some ((writtenMembers command o).map Prod.snd, []) := by
  have hlength : 4 ≤ (writtenRow command o).length := by
    simp only [writtenRow, writtenMembers, List.map_cons, Text.joined, pair, string,
      List.length_append, List.length_cons]
    omega
  obtain ⟨u, hu⟩ : ∃ u, writtenRow command o = '"' :: u := ⟨_, rfl⟩
  rw [readItems, hu, skipBlanks_cons (by decide)]
  simp only
  rw [if_neg (by decide), ← hu]
  exact readRow_joined (List.cons_ne_nil _ _) hlength (by decide) (by decide)
    (fun e he => readMember_written he depth) (fun t => rfl) []

theorem read?_outcome (command : Text) (o : Outcome) :
    read? (outcome command o) = some (ofOutcome command o) := by
  -- The row is not empty, so the reader may go one level into the object.
  obtain ⟨depth, hdepth⟩ : ∃ depth, (outcome command o).length = depth + 2 := ⟨_, rfl⟩
  rw [read?, hdepth, outcome_eq, readValue_object, readItems_writtenRow]
  rfl

/-! ## Characters that are written -/

theorem isPlain_hexDigit (n : Nat) : isPlain (Text.hexDigit (n % 16)) = true := by
  have hdigits : ∀ i : Fin 16, isPlain (Text.hexDigit i) = true := by decide
  exact hdigits ⟨n % 16, Nat.mod_lt n (by decide)⟩

theorem all_isPlain_hex (width n : Nat) : (hex width n).all isPlain = true := by
  induction width generalizing n with
  | zero => rfl
  | succ width ih =>
      rw [hex, List.all_append, ih, List.all_cons, isPlain_hexDigit]
      rfl

theorem all_isPlain_unitEscape (n : Nat) : (unitEscape n).all isPlain = true :=
  all_isPlain_hex 4 n

theorem all_isPlain_escaped (c : Char) : (escaped c).all isPlain = true := by
  rcases escaped_cases c with ⟨e, he, hc⟩ | ⟨hplain, -, -, hc⟩ | ⟨-, hc⟩ | ⟨-, hc⟩
  · rw [hc, List.all_cons, List.all_cons, (isPlain_of_shortEscape? he).1]
    rfl
  · rw [hc, List.all_cons, hplain]
    rfl
  · rw [hc, all_isPlain_unitEscape]
  · rw [hc, List.all_append, all_isPlain_unitEscape, all_isPlain_unitEscape]
    rfl

theorem all_isPlain_string (t : Text) : (string t).all isPlain = true := by
  have hescaped : (t.flatMap escaped).all isPlain = true := by
    rw [List.all_flatMap, List.all_eq_true]
    exact fun c _ => all_isPlain_escaped c
  rw [string, List.all_cons, List.all_append, hescaped]
  rfl

theorem all_isPlain_truth (b : Bool) : (truth b).all isPlain = true := by
  cases b <;> rfl

theorem all_isPlain_stringOrNull (report : Option Text) :
    (stringOrNull report).all isPlain = true := by
  cases report with
  | none => rfl
  | some payload => exact all_isPlain_string payload

theorem all_isPlain_pair (key : Text) {value : Text} (hvalue : value.all isPlain = true) :
    (pair key value).all isPlain = true := by
  rw [pair, List.all_append, List.all_append, all_isPlain_string, hvalue]
  rfl

theorem all_isPlain_outcome (command : Text) (o : Outcome) :
    (outcome command o).all isPlain = true := by
  have hmembers : ∀ e ∈ writtenMembers command o, e.1.all isPlain = true := by
    intro e he
    simp only [writtenMembers, List.mem_cons, List.not_mem_nil, or_false] at he
    rcases he with rfl | rfl | rfl | rfl
    · exact all_isPlain_pair _ (all_isPlain_string command)
    · exact all_isPlain_pair _ (all_isPlain_truth o.success)
    · exact all_isPlain_pair _ (all_isPlain_string o.message)
    · exact all_isPlain_pair _ (all_isPlain_stringOrNull o.report)
  rw [outcome_eq, List.all_eq_true]
  intro c hc
  rw [List.mem_cons, writtenRow, List.mem_append, List.mem_singleton] at hc
  rcases hc with rfl | hc | rfl
  · rfl
  · rcases Text.mem_joined hc with hc | ⟨t, ht, hc⟩
    · exact List.all_eq_true.1 (by rfl : (", ".toList).all isPlain = true) c hc
    · obtain ⟨e, he, rfl⟩ := List.mem_map.1 ht
      exact List.all_eq_true.1 (hmembers e he) c hc
  · rfl

end TableRobot.Json
