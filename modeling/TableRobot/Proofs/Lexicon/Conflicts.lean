import TableRobot.Proofs.Lexicon.Operations
/-!
# Conflicts in discovery

A discovery goes through the built-in kinds in their order and binds each of
them whose keyword is free.  If it meets no rival, it has bound them all and
the lexicon is discovered.  At the first rival it stops, and what it has bound
by then stays: tried again it is in vain each time and binds nothing more, until
the bindings are cleared.  It names the same keyword each time if the group of
that keyword had been loaded before.
-/

namespace TableRobot

def Builtin.LeadsGroup (b : Builtin) : Prop := ∃ g : Group, g.kinds.head? = some b

theorem Lexicon.Place.before_eq_nil {p : Lexicon.Place} (h : p.kind.LeadsGroup) :
    p.before = [] := by
  obtain ⟨g, hg⟩ := h
  obtain rfl := Group.eq_of_mem_kinds (List.mem_of_mem_head? hg) p.kind_mem_kinds
  rw [p.kinds_eq] at hg
  cases hbefore : p.before with
  | nil => rfl
  | cons c cs =>
      rw [hbefore] at hg
      have hc : c = p.kind := Option.some.inj hg
      have hmem : c ∈ p.earlier := List.mem_append_right _ (hbefore ▸ List.mem_cons_self)
      exact absurd (hc ▸ hmem) p.kind_not_mem_earlier

namespace Lexicon

variable {lex next : Lexicon} {b : Builtin} {bs : List Builtin} {k : Kind} {w : Text}

/-! ## Gains -/

/-- What a lexicon gains by built-in kinds: each of them whose keyword was free has it now, behind
all that was bound before. -/
structure Gains (lex : Lexicon) (bs : List Builtin) (next : Lexicon) : Prop where
  bindings : next.bindings = lex.bindings ++
    (bs.filter fun b => (lex.kind? b.keyword).isNone).map fun b => (b.keyword, .builtin b)
  kind?_iff : ∀ w k, next.kind? w = some k ↔
    lex.kind? w = some k ∨ ∃ b ∈ bs, w = b.keyword ∧ k = .builtin b
  labels : next.labels = lex.labels

theorem gains_of_bindings (h : ∀ b ∈ bs, lex.rival? b = none)
    (hbindings : next.bindings = (lex.claimAll bs).bindings) (hlabels : next.labels = lex.labels) :
    Gains lex bs next where
  bindings := hbindings
  kind?_iff w k := by
    have hkind : next.kind? w = (lex.claimAll bs).kind? w := by rw [kind?, hbindings]; rfl
    rw [hkind]
    constructor
    · intro hw
      exact (kind?_claimAll_iff.1 hw).imp_right And.right
    · rintro (hw | ⟨b, hb, rfl, rfl⟩)
      · exact kind?_claimAll_iff.2 (.inl hw)
      · exact kind?_claimAll_of_mem hb (h b hb)
  labels := hlabels

/-! ## The ends of a discovery -/

/-- Holds of a lexicon in which the keyword of each built-in kind is free, or else the kind has been
made and has it. -/
def Unrivalled (lex : Lexicon) : Prop :=
  ∀ (b : Builtin) k, lex.kind? b.keyword = some k → lex.IsMade b ∧ k = .builtin b

theorem unrivalled_iff : lex.Unrivalled ↔ ∀ b, lex.rival? b = none :=
  forall_congr' fun _ => rival?_eq_none_iff.symm

theorem unrivalled_iff_of_atHome (hmade : ∀ b, lex.IsMade b) (h : AtHome lex) :
    lex.Unrivalled ↔ ∀ (b : Builtin) k, lex.kind? b.keyword = some k →
      ∃ c : Builtin, k = .builtin c := by
  constructor
  · intro hlex b k hk
    exact ⟨b, (hlex b k hk).2⟩
  · intro honly b k hk
    obtain ⟨c, rfl⟩ := honly b k hk
    rw [h c b hk]
    exact ⟨hmade b, rfl⟩

theorem gains_completed (h : lex.Unrivalled) : Gains lex Builtin.all lex.completed := by
  obtain ⟨loaded, -, heq⟩ := lex.completed_eq
  rw [heq]
  exact gains_of_bindings (fun b _ => unrivalled_iff.1 h b) rfl rfl

theorem isMade_completed (lex : Lexicon) (b : Builtin) : lex.completed.IsMade b := by
  obtain ⟨loaded, hloaded, heq⟩ := lex.completed_eq
  obtain ⟨g, -, hb⟩ := List.mem_flatMap.1 (Group.kinds_all ▸ b.mem_all)
  rw [isMade_iff hb, heq]
  exact hloaded g

theorem FirstRival.gains_halted {p : Place} (h : FirstRival lex p k) :
    Gains lex p.earlier (lex.halted p) := by
  obtain ⟨loaded, heq, -⟩ := lex.halted_eq p
  rw [heq]
  exact gains_of_bindings h.free rfl rfl

theorem discover_clear (hnames : OwnNames lex) : ∃ next,
    lex.clear.value.discover.value = (next, .ok ()) ∧ next.discovered = true ∧
      next.bindings = (Builtin.all.map fun b => (b.keyword, .builtin b)) ∧
      next.labels = lex.labels := by
  have hfree : lex.clear.value.Unrivalled := by
    intro b k hk
    cases hk
  have hgains := gains_completed hfree
  exact ⟨_, discover_of_free (hnames.of_labels rfl) rfl (unrivalled_iff.1 hfree), rfl,
    hgains.bindings, hgains.labels⟩

/-- A lexicon that has not been discovered, with the built-in kinds under their own names, whichever
groups of them have been loaded.  If every built-in keyword is free or bound to its own kind, as it
has been made, discovery adds exactly the missing ones and succeeds, and after that no look-up
changes anything.  Otherwise it names the first keyword that another kind has, and adds exactly the
missing ones before it.  Every look-up is then in vain for one and the same reason and changes
nothing, any number of times, until the bindings are cleared: then discovery binds exactly the
built-in kinds.  The reason is that of the discovery if the kind that it names had been made before
or comes first in its group.  If all kinds have been made and have no keywords of each other, only a
kind that is not built in can be in the way. -/
theorem discovery_completes_or_names_conflict [Routines] (hnames : OwnNames lex)
    (hlex : lex.discovered = false) :
    (lex.Unrivalled →
      ∃ next, lex.discover.value = (next, .ok ()) ∧ next.discovered = true ∧
        Gains lex Builtin.all next ∧ (∀ b, next.IsMade b) ∧ next.discover.value = (next, .ok ()) ∧
        ∀ ops : List Operation, (∀ op ∈ ops, op.IsLookup) → next.afterAll ops = next) ∧
      (¬lex.Unrivalled →
        ∃ before b after k next fault, Builtin.all = before ++ b :: after ∧
          (∀ c ∈ before, ∀ q, lex.kind? c.keyword = some q → lex.IsMade c ∧ q = .builtin c) ∧
          lex.kind? b.keyword = some k ∧ (lex.IsMade b → k ≠ .builtin b) ∧
          lex.discover.value = (next, .error (.keywordTaken b.keyword k.title b.title)) ∧
          next.discovered = false ∧ Gains lex before next ∧
          (∀ ops : List Operation, (∀ op ∈ ops, op.IsLookup) → next.afterAll ops = next ∧
            ∀ op, op.IsLookup → (next.afterAll ops).fault? op = some fault) ∧
          (∃ (c : Builtin) (q : Kind), next.kind? c.keyword = some q ∧
            fault = .keywordTaken c.keyword q.title c.title) ∧
          (lex.IsMade b ∨ b.LeadsGroup → fault = .keywordTaken b.keyword k.title b.title) ∧
          ∃ renewed, next.clear.value.discover.value = (renewed, .ok ()) ∧
            renewed.discovered = true ∧
            renewed.bindings = (Builtin.all.map fun c => (c.keyword, .builtin c)) ∧
            renewed.labels = lex.labels) ∧
      ((∀ b, lex.IsMade b) → AtHome lex → (lex.Unrivalled ↔
        ∀ (b : Builtin) k, lex.kind? b.keyword = some k → ∃ c : Builtin, k = .builtin c)) := by
  refine ⟨fun hfree => ?_, fun hrivals => ?_, unrivalled_iff_of_atHome⟩
  · have hsettled : lex.completed.discover.value = (lex.completed, .ok ()) :=
      settles_of_discovered rfl
    refine ⟨lex.completed, discover_of_free hnames hlex (unrivalled_iff.1 hfree), rfl,
      gains_completed hfree, lex.isMade_completed, hsettled, fun ops hops => ?_⟩
    apply afterAll_of_isLookup _ hops
    rw [hsettled]
  · rw [unrivalled_iff] at hrivals
    obtain ⟨p, k, hfirst⟩ := exists_firstRival hrivals
    obtain ⟨hk, hne⟩ := rival?_eq_some_iff.1 hfirst.rival
    obtain ⟨loaded, heq, -⟩ := lex.halted_eq p
    obtain ⟨c, q, hq, hagain, hsame⟩ := hfirst.discover_again hnames hlex
    have hgains := hfirst.gains_halted
    have hundiscovered : (lex.halted p).discovered = false := by rw [heq]; exact hlex
    refine ⟨p.earlier, p.kind, _, k, lex.halted p, .keywordTaken c.keyword q.title c.title,
      p.all_eq, fun c hc => rival?_eq_none_iff.1 (hfirst.free c hc), hk, hne,
      hfirst.discover hnames hlex, hundiscovered, hgains, fun ops hops => ?_, ⟨c, q, hq, rfl⟩,
      fun hb => ?_, ?_⟩
    · have hstays : (lex.halted p).afterAll ops = lex.halted p := by
        apply afterAll_of_isLookup _ hops
        rw [hagain]
      refine ⟨hstays, fun op hop => ?_⟩
      rw [hstays]
      apply hop.fault?
      rw [hagain]
    · obtain ⟨rfl, rfl⟩ := hsame (hb.imp_right Place.before_eq_nil)
      rfl
    · obtain ⟨renewed, hvalue, hdone, hbindings, hlabels⟩ :=
        discover_clear (hnames.of_labels hgains.labels)
      exact ⟨renewed, hvalue, hdone, hbindings, hlabels.trans hgains.labels⟩

/-- Steps have a keyword besides, and the keyword of turns to the left is taken: discovery comes as
far as the two built-in kinds before it, and then every look-up names the rival until the bindings
are cleared. -/
theorem discovery_completes_or_names_conflict_left :
    ∃ lex next : Lexicon, OwnNames lex ∧ lex.discovered = false ∧
      lex.bindings = [("PACE".toList, .builtin .move), ("LEFT".toList, walker)] ∧
      next.bindings = lex.bindings ++
        [("PLACE".toList, .builtin .place), ("MOVE".toList, .builtin .move)] ∧
      lex.discover.value =
        (next, .error (.keywordTaken "LEFT".toList "Walker".toList "LeftCommand".toList)) ∧
      next.afterAll [.summon ["pace".toList], .keywords, .find "right".toList] = next ∧
      next.fault? (.summon ["pace".toList]) =
        some (.keywordTaken "LEFT".toList "Walker".toList "LeftCommand".toList) ∧
      next.clear.value.discover.value = (.initial, .ok ()) := by
  let lex : Lexicon :=
    { initial with
      bindings := [("PACE".toList, .builtin .move), ("LEFT".toList, walker)], discovered := false }
  have hnames : OwnNames lex := ownNames_initial.of_labels rfl
  have hrival : ¬lex.Unrivalled := fun h => walker_ne_builtin .left (h .left walker rfl).2
  obtain ⟨before, b, after, k, next, fault, -, -, -, -, hvalue, -, -, hlookups, -, hsame, -⟩ :=
    (discovery_completes_or_names_conflict hnames rfl).2.1 hrival
  have hleft : lex.discover.value = ({ lex with bindings := lex.bindings ++
      [("PLACE".toList, .builtin .place), ("MOVE".toList, .builtin .move)] },
      .error (.keywordTaken "LEFT".toList "Walker".toList "LeftCommand".toList)) := rfl
  obtain ⟨rfl, hfault⟩ := Prod.mk.inj (hvalue.symm.trans hleft)
  have hmade : lex.IsMade b := loyal_initial.made b
  have hlookup := (hlookups [] (List.forall_mem_nil _)).2 (.summon ["pace".toList]) trivial
  rw [hsame (.inl hmade)] at hlookup
  refine ⟨lex, _, hnames, rfl, rfl, rfl, hleft, ?_, ?_, rfl⟩
  · apply (hlookups _ _).1
    intro op hop
    simp only [List.mem_cons, List.not_mem_nil, or_false] at hop
    rcases hop with rfl | rfl | rfl <;> trivial
  · rwa [Except.error.inj hfault] at hlookup

/-- Built-in kinds can be in the way themselves.  One of them is bound to the keyword of another:
then no kind but the built-in ones has a keyword, and discovery is in vain nevertheless.  Or the
keyword of turns to the left is taken before anything is loaded: the discovery names it, and every
look-up after that names the keyword of steps, which belongs to the kind that the first load has
made and not to the one that the next load makes. -/
theorem builtin_kinds_in_the_way :
    (∃ lex next : Lexicon, initial.afterAll [.clear, .bind "left".toList (.builtin .move)] = lex ∧
        OwnNames lex ∧ lex.discovered = false ∧
        (∀ w k, lex.kind? w = some k → ∃ c : Builtin, k = .builtin c) ∧
        lex.discover.value = (next,
          .error (.keywordTaken "LEFT".toList "MoveCommand".toList "LeftCommand".toList))) ∧
      ∃ lex next : Lexicon, blank.afterAll [.adopt "left".toList walker] = lex ∧
        OwnNames lex ∧ lex.discovered = false ∧ lex.bindings = [("LEFT".toList, walker)] ∧
        lex.discover.value = (next,
          .error (.keywordTaken "LEFT".toList "Walker".toList "LeftCommand".toList)) ∧
        next.bindings = [("LEFT".toList, walker), ("PLACE".toList, .builtin .place),
          ("MOVE".toList, .builtin .move)] ∧
        next.discover.value = (next,
          .error (.keywordTaken "MOVE".toList "MoveCommand".toList "MoveCommand".toList)) ∧
        ∀ op : Operation, op.IsLookup → next.fault? op =
          some (.keywordTaken "MOVE".toList "MoveCommand".toList "MoveCommand".toList) := by
  refine ⟨⟨_, _, rfl, ?_, rfl, ?_, rfl⟩, _, _, rfl, ?_, rfl, rfl, rfl, rfl, rfl, ?_⟩
  · exact ownNames_initial.of_labels rfl
  · intro w k hk
    obtain ⟨rfl, rfl⟩ := Prod.mk.inj (List.mem_singleton.1 (mem_of_lookup hk))
    exact ⟨.move, rfl⟩
  · intro b
    cases b <;> rfl
  · intro op hop
    exact hop.fault? rfl

end Lexicon

end TableRobot
