import TableRobot.Proofs.Text.Capitals
/-!
# Capital forms stay as they are

The capital form of a text is made of characters that are their own capital
forms, so upper-casing twice is upper-casing once.  White space is its own
capital form, and no other character has white space in its capital form:
upper-casing and trimming can change places.
-/

namespace TableRobot.Text

/-! ## Twice is once -/

/-- Holds of two runs if no target of the one belongs to the other: they lie apart, they
alternate, or the only target is left out. -/
def CapitalRun.clear (r q : CapitalRun) : Bool :=
  Nat.blt q.last r.target || Nat.blt (r.target + (r.last - r.first)) q.first ||
    (r.stride == 2 && q.stride == 2 && (r.target + q.first) % 2 == 1) ||
    (r.first == r.last && !q.covers r.target)

theorem CapitalRun.not_covers_of_clear {r q : CapitalRun} {n : Nat} (h : r.clear q = true)
    (hcov : r.covers n = true) : q.covers (r.target + (n - r.first)) = false := by
  obtain ⟨hfirst, hlast, hstep⟩ := bounds_of_covers hcov
  cases hq : q.covers (r.target + (n - r.first)) with
  | false => rfl
  | true =>
      obtain ⟨hlow, hhigh, hstep'⟩ := bounds_of_covers hq
      simp only [clear, Bool.or_eq_true, Nat.blt_eq, Bool.and_eq_true, beq_iff_eq] at h
      rcases h with ((h | h) | ⟨⟨hr2, hq2⟩, h⟩) | ⟨hone, h⟩
      · omega
      · omega
      · rw [hr2] at hstep
        rw [hq2] at hstep'
        omega
      · rw [show r.target + (n - r.first) = r.target by omega] at hq
        rw [hq] at h
        cases h

private theorem clear_runs : (capitalRuns.all fun r => capitalRuns.all r.clear) = true := by
  decide +kernel

private theorem clear_expansions : (capitalRuns.all fun r => capitalExpansions.all fun e =>
    Nat.blt e.1 r.target || Nat.blt (r.target + (r.last - r.first)) e.1) = true := by
  decide +kernel

private theorem latin_targets : ∀ r ∈ capitalRuns, 0x80 ≤ r.target ∨
    (r.first = r.last ∧ capital (Char.ofNat r.target) = [Char.ofNat r.target]) := by
  decide +kernel

theorem capital_target {r : CapitalRun} {n : Nat} (hr : r ∈ capitalRuns)
    (hcov : r.covers n = true) :
    capital (Char.ofNat (r.target + (n - r.first))) =
      [Char.ofNat (r.target + (n - r.first))] := by
  obtain ⟨hfirst, hlast, -⟩ := CapitalRun.bounds_of_covers hcov
  rcases latin_targets r hr with hlow | ⟨hone, hcap⟩
  · have hlook : capitalExpansions.lookup (r.target + (n - r.first)) = none := by
      apply List.lookup_eq_none_iff.2
      intro e he
      have hclear := List.all_eq_true.1 (List.all_eq_true.1 clear_expansions r hr) e he
      rw [Bool.or_eq_true, Nat.blt_eq, Nat.blt_eq] at hclear
      exact bne_iff_ne.2 (by omega)
    have hfind : capitalRuns.find? (·.covers (r.target + (n - r.first))) = none := by
      apply List.find?_eq_none.2
      intro q hq
      have hclear := List.all_eq_true.1 (List.all_eq_true.1 clear_runs r hr) q hq
      simp [CapitalRun.not_covers_of_clear hclear hcov]
    rw [capital, if_neg (by rw [toNat_target hr hcov]; omega), toNat_target hr hcov,
      capitalCodes, hlook, hfind]
    rfl
  · rw [show r.target + (n - r.first) = r.target by omega, hcap]

private theorem settled_expansions : ∀ e ∈ capitalExpansions, ∀ m ∈ e.2,
    capital (Char.ofNat m) = [Char.ofNat m] := by
  decide +kernel

theorem CapitalForm.settled {c : Char} {t : Text} (h : CapitalForm c t) :
    ∀ d ∈ t, capital d = [d] := by
  intro d hd
  cases h with
  | ascii hc =>
      rw [List.mem_singleton.1 hd]
      exact forall_ascii (P := fun c => capital c.toUpper = [c.toUpper]) (by decide) hc
  | expansion he hcode =>
      obtain ⟨m, hm, rfl⟩ := List.mem_map.1 hd
      exact settled_expansions _ he m hm
  | run hr hcov =>
      rw [List.mem_singleton.1 hd]
      exact capital_target hr hcov
  | self hself =>
      rw [List.mem_singleton.1 hd, hself]

theorem capitals_of_forall {t : Text} (h : ∀ c ∈ t, capital c = [c]) : capitals t = t := by
  induction t with
  | nil => rfl
  | cons c t ih =>
      rw [capitals_cons, h c List.mem_cons_self, ih fun d hd => h d (List.mem_cons_of_mem c hd)]
      rfl

@[simp] theorem capitals_capitals (t : Text) : capitals (capitals t) = capitals t := by
  apply capitals_of_forall
  intro d hd
  obtain ⟨c, -, hc⟩ := List.mem_flatMap.1 hd
  exact (capitalForm c).settled d hc

/-! ## White space -/

def blankRanges : List (Nat × Nat) :=
  [(0x09, 0x0D), (0x1C, 0x20), (0x85, 0x85), (0xA0, 0xA0), (0x1680, 0x1680), (0x2000, 0x200A),
   (0x2028, 0x2029), (0x202F, 0x202F), (0x205F, 0x205F), (0x3000, 0x3000)]

theorem exists_range_of_isBlank {c : Char} (h : isBlank c = true) :
    ∃ z ∈ blankRanges, z.1 ≤ c.toNat ∧ c.toNat ≤ z.2 := by
  simp only [isBlank, Bool.or_eq_true, Bool.and_eq_true, decide_eq_true_eq, beq_iff_eq] at h
  simp only [blankRanges, List.mem_cons, List.not_mem_nil, or_false, exists_eq_or_imp,
    exists_eq_left]
  omega

private theorem blank_settled : ∀ z ∈ blankRanges, ∀ i < 32, z.1 + i ≤ z.2 →
    capital (Char.ofNat (z.1 + i)) = [Char.ofNat (z.1 + i)] := by
  decide +kernel

theorem capital_of_isBlank {c : Char} (h : isBlank c = true) : capital c = [c] := by
  have hwidth : ∀ z ∈ blankRanges, z.2 < z.1 + 32 := by decide
  obtain ⟨z, hz, hlow, hhigh⟩ := exists_range_of_isBlank h
  have hbound := hwidth z hz
  have hcap := blank_settled z hz (c.toNat - z.1) (by omega) (by omega)
  rwa [show z.1 + (c.toNat - z.1) = c.toNat by omega, Char.ofNat_toNat] at hcap

private theorem expansions_not_blank : ∀ e ∈ capitalExpansions, ∀ m ∈ e.2,
    isBlank (Char.ofNat m) = false := by
  decide +kernel

private theorem runs_not_blank : ∀ r ∈ capitalRuns, ∀ z ∈ blankRanges,
    z.2 < r.target ∨ r.target + (r.last - r.first) < z.1 := by
  decide +kernel

theorem CapitalForm.isBlank_of_mem {c d : Char} {t : Text} (h : CapitalForm c t) (hd : d ∈ t)
    (hblank : isBlank d = true) : isBlank c = true := by
  cases h with
  | ascii hc =>
      rw [List.mem_singleton.1 hd] at hblank
      exact forall_ascii (P := fun c => isBlank c.toUpper = true → isBlank c = true) (by decide)
        hc hblank
  | expansion he =>
      obtain ⟨m, hm, rfl⟩ := List.mem_map.1 hd
      rw [expansions_not_blank _ he m hm] at hblank
      cases hblank
  | run hr hcov =>
      rw [List.mem_singleton.1 hd] at hblank
      obtain ⟨hfirst, hlast, -⟩ := CapitalRun.bounds_of_covers hcov
      obtain ⟨z, hz, hlow, hhigh⟩ := exists_range_of_isBlank hblank
      rw [toNat_target hr hcov] at hlow hhigh
      rcases runs_not_blank _ hr z hz with h | h <;> omega
  | self => rwa [List.mem_singleton.1 hd] at hblank

theorem not_isBlank_of_mem_capital {c d : Char} (hc : isBlank c = false) (hd : d ∈ capital c) :
    isBlank d = false := by
  cases hblank : isBlank d with
  | false => rfl
  | true =>
      rw [(capitalForm c).isBlank_of_mem hd hblank] at hc
      cases hc

/-! ## Trimming -/

theorem dropWhile_capitals (t : Text) :
    (capitals t).dropWhile isBlank = capitals (t.dropWhile isBlank) := by
  induction t with
  | nil => rfl
  | cons c t ih =>
      rw [capitals_cons]
      cases hc : isBlank c with
      | true =>
          rw [capital_of_isBlank hc, List.singleton_append, List.dropWhile_cons_of_pos hc,
            List.dropWhile_cons_of_pos hc, ih]
      | false =>
          have hnone : ∀ d ∈ capital c, isBlank d = false := fun d =>
            not_isBlank_of_mem_capital hc
          rw [dropWhile_append_of_none (capitalForm c).ne_nil hnone,
            List.dropWhile_cons_of_neg (by simp [hc]), capitals_cons]

theorem trimEndBy_capitals (t : Text) :
    trimEndBy isBlank (capitals t) = capitals (trimEndBy isBlank t) := by
  induction t with
  | nil => rfl
  | cons c t ih =>
      rw [capitals_cons]
      cases hc : isBlank c with
      | true =>
          have hempty : (capitals (trimEndBy isBlank t)).isEmpty =
              (trimEndBy isBlank t).isEmpty := by
            cases trimEndBy isBlank t with
            | nil => rfl
            | cons d u => simp [capitals_cons, (capitalForm d).ne_nil]
          rw [capital_of_isBlank hc, List.singleton_append, trimEndBy_cons, trimEndBy_cons, ih,
            hempty]
          split
          · rfl
          · rw [capitals_cons, capital_of_isBlank hc, List.singleton_append]
      | false =>
          have hnone : ∀ d ∈ capital c, isBlank d = false := fun d =>
            not_isBlank_of_mem_capital hc
          rw [trimEndBy_append_left (capitalForm c).ne_nil hnone, ih, trimEndBy_cons, hc,
            Bool.and_false]
          rfl

/-- Upper-casing and trimming can change places. -/
theorem trim_capitals (t : Text) : trim (capitals t) = capitals (trim t) := by
  rw [trim, trimBy, dropWhile_capitals, trimEndBy_capitals]
  rfl

end TableRobot.Text
