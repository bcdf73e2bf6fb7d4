import TableRobot.Console.Source
/-!
# Files in UTF-8

The bytes of a text are decoded to the text, wherever the chunks of the file end.
A chunk may end inside a character: what is decoded then are the whole
characters, and the beginning of the next one goes to the front of the next
chunk.
-/

namespace TableRobot

def Text.encoded (t : Text) : List UInt8 := t.flatMap String.utf8EncodeChar

theorem Text.encoded_cons (c : Char) (t : Text) :
    encoded (c :: t) = String.utf8EncodeChar c ++ encoded t := rfl

namespace Console

open Text (encoded encoded_cons)

/-! ## The bytes of one character -/

inductive EncodedAs (n : Nat) : List UInt8 → Prop where
  | one {a : UInt8} (hn : n < 0x80) (ha : a.toNat = n) : EncodedAs n [a]
  | two {a b : UInt8} (hlow : 0x80 ≤ n) (hhigh : n < 0x800) (ha : a.toNat = 0xC0 + n / 0x40)
      (hb : b.toNat = 0x80 + n % 0x40) : EncodedAs n [a, b]
  | three {a b c : UInt8} (hlow : 0x800 ≤ n) (hhigh : n < 0x10000)
      (hvalid : n < 0xD800 ∨ 0xDFFF < n) (ha : a.toNat = 0xE0 + n / 0x1000)
      (hb : b.toNat = 0x80 + n / 0x40 % 0x40) (hc : c.toNat = 0x80 + n % 0x40) :
      EncodedAs n [a, b, c]
  | four {a b c d : UInt8} (hlow : 0x10000 ≤ n) (hhigh : n < 0x110000)
      (ha : a.toNat = 0xF0 + n / 0x40000) (hb : b.toNat = 0x80 + n / 0x1000 % 0x40)
      (hc : c.toNat = 0x80 + n / 0x40 % 0x40) (hd : d.toNat = 0x80 + n % 0x40) :
      EncodedAs n [a, b, c, d]

theorem toNat_ofNat_eq {m n : Nat} (hm : m < 0x100) (h : m = n) : (UInt8.ofNat m).toNat = n := by
  rw [UInt8.toNat_ofNat', ← h]
  exact Nat.mod_eq_of_lt hm

theorem encodedAs_utf8EncodeChar (c : Char) : EncodedAs c.toNat (String.utf8EncodeChar c) := by
  have hvalid := c.valid
  have hcode : c.val.toNat = c.toNat := rfl
  simp only [UInt32.isValidChar, Nat.isValidChar, hcode] at hvalid
  simp only [String.utf8EncodeChar, hcode]
  split
  · exact .one (by omega) (toNat_ofNat_eq (by omega) rfl)
  · split
    · exact .two (by omega) (by omega) (toNat_ofNat_eq (by omega) (by omega))
        (toNat_ofNat_eq (by omega) (by omega))
    · split
      · exact .three (by omega) (by omega) (by omega) (toNat_ofNat_eq (by omega) (by omega))
          (toNat_ofNat_eq (by omega) (by omega)) (toNat_ofNat_eq (by omega) (by omega))
      · exact .four (by omega) (by omega) (toNat_ofNat_eq (by omega) (by omega))
          (toNat_ofNat_eq (by omega) (by omega)) (toNat_ofNat_eq (by omega) (by omega))
          (toNat_ofNat_eq (by omega) (by omega))

/-! ### Tests of bytes -/

theorem isContinuation_iff {b : UInt8} :
    isContinuation b = true ↔ 0x80 ≤ b.toNat ∧ b.toNat ≤ 0xBF := by
  simp [isContinuation, UInt8.le_iff_toNat_le]

theorem secondFits_iff {a b : UInt8} : secondFits a b = true ↔
    (0x80 ≤ b.toNat ∧ b.toNat ≤ 0xBF) ∧ (a.toNat = 0xE0 → 0xA0 ≤ b.toNat) ∧
      (a.toNat = 0xED → b.toNat ≤ 0x9F) ∧ (a.toNat = 0xF0 → 0x90 ≤ b.toNat) ∧
      (a.toNat = 0xF4 → b.toNat ≤ 0x8F) := by
  rw [secondFits, Bool.and_eq_true, isContinuation_iff]
  simp only [← UInt8.toNat_inj, UInt8.le_iff_toNat_le, UInt8.reduceToNat]
  grind

/-! ### Decoding by the first byte -/

theorem not_lt_of_toNat_le {a b : UInt8} (h : b.toNat ≤ a.toNat) : ¬a < b :=
  UInt8.not_lt.2 (UInt8.le_iff_toNat_le.2 h)

section

variable (position : Nat) (a b c d : UInt8) (rest : List UInt8)

theorem decodeFrom_one (ha : a.toNat < 0x80) :
    decodeFrom position (a :: rest) = (decodeFrom (position + 1) rest).push a.toNat := by
  have hone : a < 0x80 := UInt8.lt_iff_toNat_lt.2 ha
  rw [decodeFrom.eq_def]
  simp [hone]

theorem decodeFrom_two (hlow : 0xC2 ≤ a.toNat) (hhigh : a.toNat < 0xE0) :
    decodeFrom position [a] = .text [] [a] ∧
      (isContinuation b = true → decodeFrom position (a :: b :: rest) =
        (decodeFrom (position + 2) rest).push ((a.toNat - 0xC0) * 0x40 + payload b)) := by
  have hone : ¬a < 0x80 := not_lt_of_toNat_le (Nat.le_trans (by decide) hlow)
  have hbad : ¬a < 0xC2 := not_lt_of_toNat_le (Nat.le_trans (by decide) hlow)
  have htwo : a < 0xE0 := UInt8.lt_iff_toNat_lt.2 hhigh
  constructor
  · rw [decodeFrom.eq_def]
    simp [hone, hbad, htwo]
  · intro hb
    rw [decodeFrom.eq_def]
    simp [hone, hbad, htwo, hb]

theorem decodeFrom_three (hlow : 0xE0 ≤ a.toNat) (hhigh : a.toNat < 0xF0) :
    decodeFrom position [a] = .text [] [a] ∧
      (secondFits a b = true → decodeFrom position [a, b] = .text [] [a, b] ∧
        (isContinuation c = true → decodeFrom position (a :: b :: c :: rest) =
          (decodeFrom (position + 3) rest).push
            ((a.toNat - 0xE0) * 0x1000 + payload b * 0x40 + payload c))) := by
  have hone : ¬a < 0x80 := not_lt_of_toNat_le (Nat.le_trans (by decide) hlow)
  have hbad : ¬a < 0xC2 := not_lt_of_toNat_le (Nat.le_trans (by decide) hlow)
  have htwo : ¬a < 0xE0 := not_lt_of_toNat_le (Nat.le_trans (by decide) hlow)
  have hthree : a < 0xF0 := UInt8.lt_iff_toNat_lt.2 hhigh
  refine ⟨?_, fun hb => ⟨?_, fun hc => ?_⟩⟩
  · rw [decodeFrom.eq_def]
    simp [hone, hbad, htwo, hthree]
  · rw [decodeFrom.eq_def]
    simp [hone, hbad, htwo, hthree, hb]
  · rw [decodeFrom.eq_def]
    simp [hone, hbad, htwo, hthree, hb, hc]

theorem decodeFrom_four (hlow : 0xF0 ≤ a.toNat) (hhigh : a.toNat < 0xF5) :
    decodeFrom position [a] = .text [] [a] ∧
      (secondFits a b = true → decodeFrom position [a, b] = .text [] [a, b] ∧
        (isContinuation c = true → decodeFrom position [a, b, c] = .text [] [a, b, c] ∧
          (isContinuation d = true → decodeFrom position (a :: b :: c :: d :: rest) =
            (decodeFrom (position + 4) rest).push
              ((a.toNat - 0xF0) * 0x40000 + payload b * 0x1000 + payload c * 0x40 +
                payload d)))) := by
  have hone : ¬a < 0x80 := not_lt_of_toNat_le (Nat.le_trans (by decide) hlow)
  have hbad : ¬a < 0xC2 := not_lt_of_toNat_le (Nat.le_trans (by decide) hlow)
  have htwo : ¬a < 0xE0 := not_lt_of_toNat_le (Nat.le_trans (by decide) hlow)
  have hthree : ¬a < 0xF0 := not_lt_of_toNat_le (Nat.le_trans (by decide) hlow)
  have hfour : a < 0xF5 := UInt8.lt_iff_toNat_lt.2 hhigh
  refine ⟨?_, fun hb => ⟨?_, fun hc => ⟨?_, fun hd => ?_⟩⟩⟩
  · rw [decodeFrom.eq_def]
    simp [hone, hbad, htwo, hthree, hfour]
  · rw [decodeFrom.eq_def]
    simp [hone, hbad, htwo, hthree, hfour, hb]
  · rw [decodeFrom.eq_def]
    simp [hone, hbad, htwo, hthree, hfour, hb, hc]
  · rw [decodeFrom.eq_def]
    simp [hone, hbad, htwo, hthree, hfour, hb, hc, hd]

end

/-! ### Decoding one character -/

theorem decodeFrom_append {n : Nat} {bytes : List UInt8} (h : EncodedAs n bytes) (position : Nat)
    (rest : List UInt8) :
    decodeFrom position (bytes ++ rest) =
      (decodeFrom (position + bytes.length) rest).push n := by
  cases h with
  | one hn ha =>
      rw [← ha]
      exact decodeFrom_one position _ rest (by omega)
  | @two a b hlow hhigh ha hb =>
      obtain ⟨-, hwhole⟩ := decodeFrom_two position a b rest (by omega) (by omega)
      have hcode : n = (a.toNat - 0xC0) * 0x40 + payload b := by rw [payload, hb]; omega
      rw [hcode]
      exact hwhole (isContinuation_iff.2 (by omega))
  | @three a b c hlow hhigh hvalid ha hb hc =>
      obtain ⟨-, hsecond⟩ := decodeFrom_three position a b c rest (by omega) (by omega)
      obtain ⟨-, hwhole⟩ := hsecond (secondFits_iff.2 (by omega))
      have hcode : n = (a.toNat - 0xE0) * 0x1000 + payload b * 0x40 + payload c := by
        rw [payload, payload, hb, hc]
        omega
      rw [hcode]
      exact hwhole (isContinuation_iff.2 (by omega))
  | @four a b c d hlow hhigh ha hb hc hd =>
      obtain ⟨-, hsecond⟩ := decodeFrom_four position a b c d rest (by omega) (by omega)
      obtain ⟨-, hthird⟩ := hsecond (secondFits_iff.2 (by omega))
      obtain ⟨-, hwhole⟩ := hthird (isContinuation_iff.2 (by omega))
      have hcode : n = (a.toNat - 0xF0) * 0x40000 + payload b * 0x1000 + payload c * 0x40 +
          payload d := by
        rw [payload, payload, payload, hb, hc, hd]
        omega
      rw [hcode]
      exact hwhole (isContinuation_iff.2 (by omega))

theorem decodeFrom_take {n : Nat} {bytes : List UInt8} (h : EncodedAs n bytes) (position : Nat)
    {k : Nat} (hk : k < bytes.length) :
    decodeFrom position (bytes.take k) = .text [] (bytes.take k) := by
  cases h with
  | one hn ha =>
      obtain rfl : k = 0 := Nat.lt_one_iff.1 hk
      rfl
  | @two a b hlow hhigh ha hb =>
      obtain ⟨hone, -⟩ := decodeFrom_two position a b [] (by omega) (by omega)
      match k, hk with
      | 0, _ => rfl
      | 1, _ => exact hone
  | @three a b c hlow hhigh hvalid ha hb hc =>
      obtain ⟨hone, hsecond⟩ := decodeFrom_three position a b c [] (by omega) (by omega)
      obtain ⟨htwo, -⟩ := hsecond (secondFits_iff.2 (by omega))
      match k, hk with
      | 0, _ => rfl
      | 1, _ => exact hone
      | 2, _ => exact htwo
  | @four a b c d hlow hhigh ha hb hc hd =>
      obtain ⟨hone, hsecond⟩ := decodeFrom_four position a b c d [] (by omega) (by omega)
      obtain ⟨htwo, hthird⟩ := hsecond (secondFits_iff.2 (by omega))
      obtain ⟨hthree, -⟩ := hthird (isContinuation_iff.2 (by omega))
      match k, hk with
      | 0, _ => rfl
      | 1, _ => exact hone
      | 2, _ => exact htwo
      | 3, _ => exact hthree

/-! ## Texts in chunks -/

/-- Holds of the bytes that are left over in front of a text: not all of its first character. -/
inductive Begins : List UInt8 → Text → Prop where
  | nil : Begins [] []
  | cons (c : Char) (t : Text) {k : Nat} (hk : k < (String.utf8EncodeChar c).length) :
      Begins ((String.utf8EncodeChar c).take k) (c :: t)

theorem begins_nil (t : Text) : Begins [] t := by
  cases t with
  | nil => exact .nil
  | cons c t =>
      have hlength : 0 < (String.utf8EncodeChar c).length := by
        rw [String.length_utf8EncodeChar]
        exact c.utf8Size_pos
      exact .cons c t hlength

theorem decodeFrom_encoded_append {left : List UInt8} {u : Text} (h : Begins left u) (t : Text)
    (position : Nat) : decodeFrom position (encoded t ++ left) = .text t left := by
  induction t generalizing position with
  | nil =>
      cases h with
      | nil => rfl
      | cons c u hk => exact decodeFrom_take (encodedAs_utf8EncodeChar c) position hk
  | cons c t ih =>
      rw [encoded_cons, List.append_assoc, decodeFrom_append (encodedAs_utf8EncodeChar c), ih,
        Decoded.push, Char.ofNat_toNat]

/-- A cut through the bytes of a text parts whole characters from the rest of the text, of which
the beginning may lie before the cut. -/
theorem exists_take_encoded (t : Text) (n : Nat) :
    ∃ s u left, t = s ++ u ∧ Begins left u ∧ (encoded t).take n = encoded s ++ left ∧
      left ++ (encoded t).drop n = encoded u := by
  induction t generalizing n with
  | nil => exact ⟨[], [], [], rfl, .nil, List.take_nil, List.drop_nil⟩
  | cons c t ih =>
      by_cases hn : n < (String.utf8EncodeChar c).length
      · refine ⟨[], c :: t, _, rfl, .cons c t hn, ?_, ?_⟩
        · rw [encoded_cons, List.take_append_of_le_length (Nat.le_of_lt hn)]
          rfl
        · rw [encoded_cons, List.drop_append_of_le_length (Nat.le_of_lt hn), ← List.append_assoc,
            List.take_append_drop]
      · obtain ⟨s, u, left, rfl, hbegins, htake, hdrop⟩ :=
          ih (n - (String.utf8EncodeChar c).length)
        refine ⟨c :: s, u, left, rfl, hbegins, ?_, ?_⟩
        · rw [encoded_cons, List.take_append, List.take_of_length_le (by omega), htake,
            encoded_cons, List.append_assoc]
        · rw [encoded_cons, List.drop_append, List.drop_of_length_le (by omega), List.nil_append,
            hdrop]

namespace Source

theorem readChunks_encoded {left bytes : List UInt8} {u : Text} (before : Text) {n : Nat}
    (hbegins : Begins left u) (hbytes : left ++ bytes = encoded u)
    (hn : bytes.length ≤ n * chunkSize) :
    readChunks before left n bytes = ofText (before ++ u) := by
  induction n generalizing before left bytes u with
  | zero =>
      obtain rfl : bytes = [] := List.eq_nil_of_length_eq_zero (by omega)
      rw [List.append_nil] at hbytes
      cases hbegins with
      | nil => rw [readChunks, if_pos rfl, List.append_nil]
      | cons c t hk =>
          have hlength := congrArg List.length hbytes
          rw [encoded_cons, List.length_append, List.length_take] at hlength
          omega
  | succ n ih =>
      obtain ⟨s, v, stub, rfl, hstub, htake, hdrop⟩ :=
        exists_take_encoded u (left.length + chunkSize)
      rw [← hbytes, List.take_length_add_append] at htake
      rw [← hbytes, List.drop_length_add_append] at hdrop
      rw [readChunks, htake, decodeFrom_encoded_append hstub]
      change readChunks (before ++ s) stub n (bytes.drop chunkSize) = _
      have hlength : (bytes.drop chunkSize).length ≤ n * chunkSize := by
        rw [List.length_drop]
        rw [Nat.succ_mul] at hn
        omega
      rw [ih _ hstub hdrop hlength, List.append_assoc]

/-- A file in UTF-8 has the lines of its text. -/
theorem ofBytes_encoded (t : Text) : ofBytes (encoded t) = ofText t := by
  have hlength : (encoded t).length ≤
      ((encoded t).length + chunkSize - 1) / chunkSize * chunkSize := by
    rw [chunkSize]
    omega
  exact readChunks_encoded [] (begins_nil t) (List.nil_append _) hlength

end Source

end Console

end TableRobot
