import TableRobot.Text.Blank
import TableRobot.Text.Capital
/-!
# Capitals among the letters of ASCII

Upper-casing is the full mapping of Unicode, and a handful of letters beyond
ASCII have capitals that are Latin letters.  The table names them all: the
capital of any other character beyond ASCII has a character beyond ASCII.  So a
word that avoids their capitals is the capital form of its own ASCII spellings
only.
-/

namespace TableRobot.Text

/-- The code points beyond ASCII whose capital form is ASCII, with that form. -/
def latinCapitals : List (Nat × Text) :=
  [(0xDF, "SS".toList), (0x131, "I".toList), (0x17F, "S".toList), (0xFB00, "FF".toList),
   (0xFB01, "FI".toList), (0xFB02, "FL".toList), (0xFB03, "FFI".toList),
   (0xFB04, "FFL".toList), (0xFB05, "ST".toList), (0xFB06, "ST".toList)]

/-- Holds of a word in which a letter of each of these forms is missing. -/
def avoidsLatin (w : Text) : Bool := latinCapitals.all fun e => e.2.any fun d => !w.contains d

/-! ## Checks of the tables -/

theorem forall_ascii {P : Char → Prop} (h : ∀ n < 0x80, P (Char.ofNat n)) {c : Char}
    (hc : c.toNat < 0x80) : P c := by
  have hp := h c.toNat hc
  rwa [Char.ofNat_toNat] at hp

private theorem expansions_latin : (capitalExpansions.all fun e =>
    (e.2.map Char.ofNat).any (0x80 ≤ ·.toNat) ||
      latinCapitals.contains (e.1, e.2.map Char.ofNat)) = true := by
  decide +kernel

private theorem expansion_latin {e : Nat × List Nat} (he : e ∈ capitalExpansions)
    (h : ∀ d ∈ e.2.map Char.ofNat, d.toNat < 0x80) :
    (e.1, e.2.map Char.ofNat) ∈ latinCapitals := by
  have hcheck := List.all_eq_true.1 expansions_latin e he
  rw [Bool.or_eq_true] at hcheck
  rcases hcheck with hany | hmem
  · obtain ⟨d, hd, hle⟩ := List.any_eq_true.1 hany
    exact absurd (h d hd) (Nat.not_lt_of_le (of_decide_eq_true hle))
  · exact List.contains_iff_mem.1 hmem

private theorem run_latin : ∀ r ∈ capitalRuns,
    (r.first = r.last ∧ (r.first, [Char.ofNat r.target]) ∈ latinCapitals) ∨ 0x80 ≤ r.target := by
  decide +kernel

theorem toNat_ofNat {n : Nat} (h : n.isValidChar) : (Char.ofNat n).toNat = n := by
  have hchar : Char.ofNat n = Char.ofNatAux n h := dif_pos h
  rw [hchar]
  rfl

/-! ## The mapping -/

/-- What the capital form of a character can be: that of the ASCII table, an entry of the list
of expansions, the member of a run, or the character itself. -/
inductive CapitalForm (c : Char) : Text → Prop where
  | ascii (hc : c.toNat < 0x80) : CapitalForm c [c.toUpper]
  | expansion {e : Nat × List Nat} (he : e ∈ capitalExpansions) (hcode : e.1 = c.toNat) :
      CapitalForm c (e.2.map Char.ofNat)
  | run {r : CapitalRun} (hr : r ∈ capitalRuns) (hcov : r.covers c.toNat = true) :
      CapitalForm c [Char.ofNat (r.target + (c.toNat - r.first))]
  | self (hself : capital c = [c]) : CapitalForm c [c]

theorem capitalForm (c : Char) : CapitalForm c (capital c) := by
  by_cases hc : c.toNat < 0x80
  · rw [capital_of_ascii hc]
    exact .ascii hc
  · have hcap : capital c = (capitalCodes c.toNat).map Char.ofNat := if_neg hc
    cases hlook : capitalExpansions.lookup c.toNat with
    | some ns =>
        have hcodes : capitalCodes c.toNat = ns := by rw [capitalCodes, hlook]
        obtain ⟨before, after, heq, -⟩ := List.lookup_eq_some_iff.1 hlook
        rw [hcap, hcodes]
        exact .expansion (e := (c.toNat, ns)) (by simp [heq]) rfl
    | none =>
        cases hrun : capitalRuns.find? (·.covers c.toNat) with
        | none =>
            have hcodes : capitalCodes c.toNat = [c.toNat] := by rw [capitalCodes, hlook, hrun]
            have hself : capital c = [c] := by
              rw [hcap, hcodes, List.map_singleton, Char.ofNat_toNat]
            rw [hself]
            exact .self hself
        | some r =>
            have hcodes : capitalCodes c.toNat = [r.target + (c.toNat - r.first)] := by
              rw [capitalCodes, hlook, hrun]
            rw [hcap, hcodes]
            exact .run (List.mem_of_find?_eq_some hrun) (by simpa using List.find?_some hrun)

theorem CapitalForm.ne_nil {c : Char} {t : Text} (h : CapitalForm c t) : t ≠ [] := by
  have hlists : ∀ e ∈ capitalExpansions, e.2 ≠ [] := by decide +kernel
  cases h with
  | ascii => simp
  | expansion he hcode => simpa using hlists _ he
  | run => simp
  | self => simp

theorem capitals_ne_nil {t : Text} (h : t ≠ []) : capitals t ≠ [] := by
  obtain ⟨c, u, rfl⟩ := List.exists_cons_of_ne_nil h
  rw [capitals_cons]
  exact List.append_ne_nil_of_left_ne_nil (capitalForm c).ne_nil _

theorem CapitalRun.bounds_of_covers {r : CapitalRun} {n : Nat} (h : r.covers n = true) :
    r.first ≤ n ∧ n ≤ r.last ∧ (n - r.first) % r.stride = 0 := by
  simpa [CapitalRun.covers, and_assoc] using h

private theorem valid_targets : ∀ r ∈ capitalRuns,
    r.target + (r.last - r.first) < 0xD800 ∨
      (0xDFFF < r.target ∧ r.target + (r.last - r.first) < 0x110000) := by
  decide +kernel

theorem toNat_target {r : CapitalRun} {n : Nat} (hr : r ∈ capitalRuns)
    (hcov : r.covers n = true) :
    (Char.ofNat (r.target + (n - r.first))).toNat = r.target + (n - r.first) := by
  obtain ⟨hfirst, hlast, -⟩ := CapitalRun.bounds_of_covers hcov
  apply toNat_ofNat
  rcases valid_targets r hr with h | ⟨hlow, hhigh⟩
  · exact .inl (by omega)
  · exact .inr ⟨by omega, by omega⟩

theorem CapitalForm.mem_latinCapitals {c : Char} {t : Text} (h : CapitalForm c t)
    (hc : 0x80 ≤ c.toNat) (hascii : ∀ d ∈ t, d.toNat < 0x80) :
    (c.toNat, t) ∈ latinCapitals := by
  cases h with
  | ascii hlow => omega
  | expansion he hcode =>
      rw [← hcode]
      exact expansion_latin he hascii
  | @run r hr hcov =>
      obtain ⟨hfirst, hlast, -⟩ := CapitalRun.bounds_of_covers hcov
      have htarget := hascii _ (List.mem_singleton_self _)
      rw [toNat_target hr hcov] at htarget
      rcases run_latin r hr with ⟨hone, hmem⟩ | hhigh
      · have hn : c.toNat = r.first := by omega
        simpa [hn] using hmem
      · omega
  | self hself =>
      have hlow := hascii c (List.mem_singleton_self c)
      omega

theorem capitals_of_isAscii {t : Text} (h : isAscii t = true) :
    capitals t = t.map Char.toUpper := by
  induction t with
  | nil => rfl
  | cons c t ih =>
      simp only [isAscii, List.all_cons, Bool.and_eq_true, decide_eq_true_eq] at h
      rw [capitals_cons, capital_of_ascii h.1, ih h.2]
      rfl

theorem mem_capitals_of_mem {c d : Char} {t : Text} (hc : c ∈ t) (hd : d ∈ capital c) :
    d ∈ capitals t :=
  List.mem_flatMap.2 ⟨c, hc, hd⟩

theorem isAscii_of_capitals {t : Text} (h : ∀ d ∈ capitals t, d.toNat < 0x80)
    (havoid : avoidsLatin (capitals t) = true) : isAscii t = true := by
  refine List.all_eq_true.2 fun c hc => decide_eq_true (Nat.lt_of_not_le fun hle => ?_)
  have hmem := (capitalForm c).mem_latinCapitals hle fun d hd => h d (mem_capitals_of_mem hc hd)
  obtain ⟨d, hd, hmiss⟩ := List.any_eq_true.1 (List.all_eq_true.1 havoid _ hmem)
  have hfound : (capitals t).contains d = true :=
    List.contains_iff_mem.2 (mem_capitals_of_mem hc hd)
  rw [hfound] at hmiss
  cases hmiss

theorem isAscii_of_all_isLetter {t : Text} (h : t.all isLetter = true) : isAscii t = true := by
  refine List.all_eq_true.2 fun c hc => decide_eq_true ?_
  have := List.all_eq_true.1 h c hc
  simp only [isLetter, Bool.or_eq_true, Bool.and_eq_true, decide_eq_true_eq] at this
  omega

theorem isLetter_of_toUpper {c : Char} (hc : c.toNat < 0x80) :
    isLetter c.toUpper = true → isLetter c = true :=
  forall_ascii (P := fun c => isLetter c.toUpper = true → isLetter c = true) (by decide) hc

/-- The spellings of a word in capitals, in any mixture of capital and small letters, are
the ASCII texts whose capital form it is. -/
theorem capitals_eq_iff {k w : Text} (hw : w.all isLetter = true)
    (havoid : avoidsLatin w = true) :
    capitals k = w ↔ k.all isLetter = true ∧ k.map Char.toUpper = w := by
  constructor
  · intro hk
    have hascii : isAscii k = true := by
      refine isAscii_of_capitals (fun d hd => ?_) (by rwa [hk])
      exact of_decide_eq_true (List.all_eq_true.1 (isAscii_of_all_isLetter hw) d (hk ▸ hd))
    rw [capitals_of_isAscii hascii] at hk
    refine ⟨List.all_eq_true.2 fun c hc => ?_, hk⟩
    refine isLetter_of_toUpper (of_decide_eq_true (List.all_eq_true.1 hascii c hc)) ?_
    exact List.all_eq_true.1 hw _ (hk ▸ List.mem_map_of_mem hc)
  · rintro ⟨hl, hk⟩
    rw [capitals_of_isAscii (isAscii_of_all_isLetter hl), hk]

end TableRobot.Text
