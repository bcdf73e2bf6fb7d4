import TableRobot.Proofs.Command.Builtin
import TableRobot.Proofs.Lexicon.Adoption
/-!
# Rivals of the built-in kinds

While the built-in kinds carry their own names, their keywords alone decide
how discovery ends.  Another kind that holds such a keyword is a rival, and to
a kind that has yet to be made so is what was made in its place before.  A
keyword that nobody holds goes to its built-in kind.  A claim makes or removes
no rival of another kind, so the rivals can be read off the lexicon before
discovery begins.
-/

namespace TableRobot

open Text (capitals)

theorem Builtin.eq_of_keyword_eq {b c : Builtin} (h : b.keyword = c.keyword) : b = c := by
  revert h
  cases b <;> cases c <;> decide

theorem Builtin.mem_all (b : Builtin) : b ∈ Builtin.all := by
  cases b <;> decide

theorem Builtin.nodup_all : Builtin.all.Nodup := by decide

theorem Group.mem_all (g : Group) : g ∈ Group.all := by
  cases g <;> decide

theorem Group.nodup_kinds (g : Group) : g.kinds.Nodup := by
  cases g <;> decide

theorem Group.eq_of_mem_kinds {g h : Group} {b : Builtin} (hg : b ∈ g.kinds) (hh : b ∈ h.kinds) :
    g = h := by
  revert hg hh
  cases g <;> cases h <;> cases b <;> decide

namespace Lexicon

variable {lex next settled : Lexicon} {b c : Builtin} {bs cs : List Builtin} {g : Group}
  {k : Kind} {w : Text}

/-! ## Own names -/

/-- Holds of a lexicon in which each built-in kind carries its own keyword as its label. -/
def OwnNames (lex : Lexicon) : Prop :=
  ∀ b : Builtin, lex.labels.lookup (.builtin b) = some b.keyword

theorem ownNames_initial : OwnNames initial := by
  intro b
  cases b <;> rfl

theorem OwnNames.of_labels (h : OwnNames lex) (hlabels : next.labels = lex.labels) :
    OwnNames next := by
  intro b
  rw [hlabels]
  exact h b

theorem OwnNames.label (h : OwnNames lex) (b : Builtin) :
    lex.label (.builtin b) = b.keyword := by
  rw [Lexicon.label, h b]

theorem OwnNames.newCommand (h : OwnNames lex) (b : Builtin) :
    lex.newCommand (.builtin b) = .ok (Command.fresh b) := by
  have hname : lex.nameOf (.builtin b) = b.keyword := by
    rw [nameOf, h.label b]
    exact if_neg (isKey_keyword b).ne_nil
  rw [Lexicon.newCommand, hname]
  rfl

def Summons.ofBuiltin [Routines] (b : Builtin) (words : List Text) : Summons :=
  match (Command.fresh b).attempt words with
  | (c, .accepted) => .command c
  | (_, .declined reason) =>
      .declined (Summons.reason reason "Command validation failed".toList)

theorem OwnNames.value_summon [Routines] (h : OwnNames settled) (hsettles : Settles lex settled)
    (hw : settled.kind? (capitals w) = some (.builtin b)) (ws : List Text) :
    (lex.summon (w :: ws)).value = (settled, .ok (.ofBuiltin b (w :: ws))) := by
  rw [summon, hsettles.value_afterDiscovery]
  simp only [summonDiscovered, Logged.value_bind, hw, h.newCommand b, Summons.ofBuiltin]
  cases (Command.fresh b).attempt (w :: ws) with
  | mk c verdict => cases verdict <;> rfl

/-! ## Made kinds and rivals -/

def IsMade (lex : Lexicon) (b : Builtin) : Prop := ∃ g ∈ lex.loaded, b ∈ g.kinds

instance (lex : Lexicon) (b : Builtin) : Decidable (lex.IsMade b) :=
  inferInstanceAs (Decidable (∃ g ∈ lex.loaded, b ∈ g.kinds))

theorem isMade_iff (hb : b ∈ g.kinds) : lex.IsMade b ↔ g ∈ lex.loaded := by
  constructor
  · rintro ⟨h, hh, hbh⟩
    rwa [Group.eq_of_mem_kinds hb hbh]
  · intro hg
    exact ⟨g, hg, hb⟩

theorem isMade_of_loaded (h : next.loaded = lex.loaded) : next.IsMade b ↔ lex.IsMade b := by
  rw [IsMade, IsMade, h]

theorem Progress.isMade (h : Progress lex next) (hb : lex.IsMade b) : next.IsMade b := by
  obtain ⟨g, hg, hbg⟩ := hb
  exact ⟨g, h.mem_loaded hg, hbg⟩

/-- The kind that holds the keyword of a built-in kind in its place.  As long as the built-in kind
has yet to be made, whatever holds its keyword is in its place. -/
def rival? (lex : Lexicon) (b : Builtin) : Option Kind :=
  (lex.kind? b.keyword).filter fun k => !decide (lex.IsMade b) || k != .builtin b

theorem rival?_eq_some_iff : lex.rival? b = some k ↔
    lex.kind? b.keyword = some k ∧ (lex.IsMade b → k ≠ .builtin b) := by
  rw [rival?, Option.filter_eq_some_iff]
  simp [Decidable.imp_iff_not_or]

theorem rival?_eq_none_iff : lex.rival? b = none ↔
    ∀ k, lex.kind? b.keyword = some k → lex.IsMade b ∧ k = .builtin b := by
  rw [rival?, Option.filter_eq_none_iff]
  simp

theorem rival?_eq_none_of_bound (hmade : lex.IsMade b)
    (hkind : lex.kind? b.keyword = some (.builtin b)) : lex.rival? b = none := by
  rw [rival?_eq_none_iff]
  intro k hk
  exact ⟨hmade, Option.some.inj (hk.symm.trans hkind)⟩

theorem rival?_eq_kind? (h : ¬lex.IsMade b) : lex.rival? b = lex.kind? b.keyword := by
  apply Option.ext
  intro k
  simp [rival?_eq_some_iff, h]

theorem rival?_congr (hkind : next.kind? b.keyword = lex.kind? b.keyword)
    (hmade : next.IsMade b ↔ lex.IsMade b) : next.rival? b = lex.rival? b := by
  simp [rival?, hkind, hmade]

/-! ## Claims -/

/-- The lexicon in which each of the built-in kinds has its keyword if that was free, behind all
that was bound before. -/
def claimAll (lex : Lexicon) (bs : List Builtin) : Lexicon :=
  { lex with bindings := lex.bindings ++
      (bs.filter fun b => (lex.kind? b.keyword).isNone).map fun b => (b.keyword, .builtin b) }

theorem lookup_keywords_iff : (bs.map fun b => (b.keyword, Kind.builtin b)).lookup w = some k ↔
    ∃ b ∈ bs, w = b.keyword ∧ k = .builtin b := by
  induction bs with
  | nil => simp
  | cons b bs ih =>
      rw [List.map_cons, List.lookup_cons]
      by_cases hw : w = b.keyword
      · subst hw
        rw [beq_self_eq_true]
        constructor
        · intro hk
          exact ⟨b, List.mem_cons_self, rfl, (Option.some.inj hk).symm⟩
        · rintro ⟨c, -, hbc, rfl⟩
          rw [Builtin.eq_of_keyword_eq hbc]
      · have hbeq : (w == b.keyword) = false := by simpa using hw
        simp only [hbeq, List.mem_cons, exists_eq_or_imp, hw, false_and, false_or]
        exact ih

theorem kind?_claimAll_iff : (lex.claimAll bs).kind? w = some k ↔
    lex.kind? w = some k ∨ lex.kind? w = none ∧ ∃ b ∈ bs, w = b.keyword ∧ k = .builtin b := by
  have happend : (lex.claimAll bs).kind? w = (lex.kind? w).or
      (((bs.filter fun b => (lex.kind? b.keyword).isNone).map
        fun b => (b.keyword, Kind.builtin b)).lookup w) := List.lookup_append
  rw [happend, Option.or_eq_some_iff, lookup_keywords_iff]
  apply or_congr_right
  apply and_congr_right
  intro hw
  apply exists_congr
  intro b
  rw [List.mem_filter, Option.isNone_iff_eq_none]
  constructor
  · rintro ⟨⟨hb, -⟩, hwb, hk⟩
    exact ⟨hb, hwb, hk⟩
  · rintro ⟨hb, rfl, hk⟩
    exact ⟨⟨hb, hw⟩, rfl, hk⟩

theorem kind?_claimAll_of_mem (hb : b ∈ bs) (hfree : lex.rival? b = none) :
    (lex.claimAll bs).kind? b.keyword = some (.builtin b) := by
  rw [kind?_claimAll_iff]
  cases hk : lex.kind? b.keyword with
  | none => exact .inr ⟨rfl, b, hb, rfl, rfl⟩
  | some k => exact .inl (by rw [(rival?_eq_none_iff.1 hfree k hk).2])

/-- Only to a kind that has yet to be made its own claim is a rival. -/
theorem rival?_claimAll (h : c ∈ bs → lex.IsMade c) :
    (lex.claimAll bs).rival? c = lex.rival? c := by
  apply Option.ext
  intro k
  simp only [rival?_eq_some_iff, kind?_claimAll_iff]
  constructor
  · rintro ⟨hk | ⟨-, b, hb, hcb, rfl⟩, hne⟩
    · exact ⟨hk, hne⟩
    · obtain rfl := Builtin.eq_of_keyword_eq hcb
      exact absurd rfl (hne (h hb))
  · rintro ⟨hk, hne⟩
    exact ⟨.inl hk, hne⟩

theorem claimAll_of_bound (h : ∀ b ∈ bs, lex.kind? b.keyword ≠ none) : lex.claimAll bs = lex := by
  have hnone : (bs.filter fun b => (lex.kind? b.keyword).isNone) = [] := by
    rw [List.filter_eq_nil_iff]
    intro b hb
    rw [Option.isNone_iff_eq_none]
    exact h b hb
  rw [claimAll, hnone, List.map_nil, List.append_nil]

theorem claimAll_nil (lex : Lexicon) : lex.claimAll [] = lex :=
  claimAll_of_bound (List.forall_mem_nil _)

theorem claimAll_singleton (h : lex.kind? b.keyword = none) :
    lex.claimAll [b] = lex.bound b.keyword (.builtin b) := by
  simp [claimAll, bound, h]

theorem claimAll_append (h : ∀ c ∈ cs, c ∉ bs) :
    lex.claimAll (bs ++ cs) = (lex.claimAll bs).claimAll cs := by
  -- The claims before them neither free nor take the keywords of the later ones.
  have hfilter : (cs.filter fun c => ((lex.claimAll bs).kind? c.keyword).isNone) =
      cs.filter fun c => (lex.kind? c.keyword).isNone := by
    apply List.filter_congr
    intro c hc
    congr 1
    apply Option.ext
    intro k
    rw [kind?_claimAll_iff, or_iff_left_iff_imp]
    rintro ⟨-, b, hb, hcb, -⟩
    obtain rfl := Builtin.eq_of_keyword_eq hcb
    exact absurd hb (h c hc)
  rw [claimAll, claimAll, hfilter, claimAll, List.filter_append, List.map_append,
    ← List.append_assoc]

end Lexicon

end TableRobot
