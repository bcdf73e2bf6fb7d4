import TableRobot.Proofs.Lexicon.Rivals
/-!
# How a discovery ends

To make kinds and to bind them comes to the same: the keywords are claimed one
after another until a rival is met.  So a discovery without rivals leaves every
group loaded and every built-in kind with its keyword, and otherwise it leaves
the groups before the first rival loaded and the keywords before it claimed.
-/

namespace TableRobot.Lexicon

variable {lex : Lexicon} {b : Builtin} {bs before : List Builtin} {g : Group}
  {gs : List Group} {k : Kind}

/-! ## Claims in order -/

def claimUntil (lex : Lexicon) : List Builtin → Lexicon × Except Fault Unit
  | [] => (lex, .ok ())
  | b :: bs =>
      match lex.rival? b with
      | some k => (lex, .error (.keywordTaken b.keyword k.title b.title))
      | none => claimUntil (lex.claimAll [b]) bs

theorem claimUntil_append (hnodup : bs.Nodup) (hfree : ∀ b ∈ bs, lex.rival? b = none)
    (cs : List Builtin) : lex.claimUntil (bs ++ cs) = (lex.claimAll bs).claimUntil cs := by
  induction bs generalizing lex with
  | nil => rw [List.nil_append, claimAll_nil]
  | cons b bs ih =>
      obtain ⟨hb, hrest⟩ := List.nodup_cons.1 hnodup
      have hne : ∀ c ∈ bs, c ∉ [b] := by
        rintro c hc hcb
        obtain rfl := List.mem_singleton.1 hcb
        exact hb hc
      have hclaim : lex.claimAll (b :: bs) = (lex.claimAll [b]).claimAll bs := claimAll_append hne
      rw [List.cons_append, claimUntil, hfree b List.mem_cons_self, hclaim]
      apply ih hrest
      intro c hc
      rw [rival?_claimAll fun hcb => absurd hcb (hne c hc)]
      exact hfree c (List.mem_cons_of_mem b hc)

theorem claimUntil_of_free (hnodup : bs.Nodup) (hfree : ∀ b ∈ bs, lex.rival? b = none) :
    lex.claimUntil bs = (lex.claimAll bs, .ok ()) := by
  have happend := claimUntil_append hnodup hfree []
  rwa [List.append_nil] at happend

theorem claimUntil_of_rival (hnodup : (before ++ b :: bs).Nodup)
    (hfree : ∀ c ∈ before, lex.rival? c = none) (hrival : lex.rival? b = some k) :
    lex.claimUntil (before ++ b :: bs) =
      (lex.claimAll before, .error (.keywordTaken b.keyword k.title b.title)) := by
  obtain ⟨hbefore, -, hdisjoint⟩ := List.nodup_append.1 hnodup
  have hb : b ∉ before := fun hb => hdisjoint b hb b List.mem_cons_self rfl
  rw [claimUntil_append hbefore hfree, claimUntil, rival?_claimAll fun h => absurd h hb, hrival]

theorem value_makeAll (h : ∀ b ∈ bs, ¬lex.IsMade b) :
    (lex.makeAll bs).value = lex.claimUntil bs := by
  induction bs generalizing lex with
  | nil => rfl
  | cons b bs ih =>
      obtain ⟨hb, hbs⟩ := List.forall_mem_cons.1 h
      rw [makeAll, claimUntil, rival?_eq_kind? hb]
      cases hkind : lex.kind? b.keyword with
      | some holder => rfl
      | none =>
          rw [claimAll_singleton hkind]
          exact ih hbs

theorem value_bindAll (hnames : OwnNames lex) (h : ∀ b ∈ bs, lex.IsMade b) :
    (lex.bindAll bs).value = lex.claimUntil bs := by
  induction bs generalizing lex with
  | nil => rfl
  | cons b bs ih =>
      obtain ⟨hb, hbs⟩ := List.forall_mem_cons.1 h
      have hne : b.keyword ≠ [] := (isKey_keyword b).ne_nil
      simp only [bindAll, hnames.label b, if_neg hne, Logged.value_bind, bind,
        capitals_keyword b]
      rw [claimUntil]
      cases hkind : lex.kind? b.keyword with
      | none =>
          have hrival : lex.rival? b = none := by simp [rival?, hkind]
          rw [hrival, claimAll_singleton hkind]
          exact ih (hnames.of_labels rfl) hbs
      | some q =>
          by_cases hq : q = .builtin b
          · have hrival : lex.rival? b = none := rival?_eq_none_of_bound hb (hq ▸ hkind)
            have hclaim : lex.claimAll [b] = lex :=
              claimAll_of_bound (List.forall_mem_singleton.2 (by simp [hkind]))
            simp only [if_pos hq, hrival, hclaim]
            exact ih hnames hbs
          · have hrival : lex.rival? b = some q := rival?_eq_some_iff.2 ⟨hkind, fun _ => hq⟩
            simp only [if_neg hq, hrival]
            rfl

/-! ## One group -/

def pass (lex : Lexicon) (g : Group) : Lexicon :=
  { lex.claimAll g.kinds with
    loaded := if g ∈ lex.loaded then lex.loaded else lex.loaded ++ [g] }

theorem OwnNames.pass (h : OwnNames lex) (g : Group) : OwnNames (lex.pass g) := h.of_labels rfl

theorem mem_loaded_pass {h : Group} : h ∈ (lex.pass g).loaded ↔ h ∈ lex.loaded ∨ h = g := by
  by_cases hg : g ∈ lex.loaded
  · simp only [pass, if_pos hg]
    constructor
    · exact .inl
    · rintro (hh | rfl)
      · exact hh
      · exact hg
  · simp [pass, if_neg hg]

/-- What a load has bound is bound again, and that changes nothing. -/
theorem value_bindAll_pass (hnames : OwnNames lex) (hfree : ∀ b ∈ g.kinds, lex.rival? b = none) :
    ((lex.pass g).bindAll g.kinds).value = (lex.pass g, .ok ()) := by
  have hkind : ∀ b ∈ g.kinds, (lex.pass g).kind? b.keyword = some (.builtin b) :=
    fun b hb => kind?_claimAll_of_mem hb (hfree b hb)
  have hmade : ∀ b ∈ g.kinds, (lex.pass g).IsMade b :=
    fun b hb => (isMade_iff hb).2 (mem_loaded_pass.2 (.inr rfl))
  have hagain : ∀ b ∈ g.kinds, (lex.pass g).rival? b = none :=
    fun b hb => rival?_eq_none_of_bound (hmade b hb) (hkind b hb)
  rw [value_bindAll (hnames.pass g) hmade, claimUntil_of_free g.nodup_kinds hagain,
    claimAll_of_bound fun b hb => by simp [hkind b hb]]

theorem visit_of_free (hnames : OwnNames lex) (hfree : ∀ b ∈ g.kinds, lex.rival? b = none) :
    (lex.visit g).value = (lex.pass g, .ok ()) := by
  by_cases hg : g ∈ lex.loaded
  · have hmade : ∀ b ∈ g.kinds, lex.IsMade b := fun b hb => (isMade_iff hb).2 hg
    simp only [visit, load, if_pos hg, Logged.value_bind, Logged.value_pure, pass]
    rw [value_bindAll hnames hmade, claimUntil_of_free g.nodup_kinds hfree]
    rfl
  · have hunmade : ∀ b ∈ g.kinds, ¬lex.IsMade b := fun b hb => mt (isMade_iff hb).1 hg
    have hmake : (lex.makeAll g.kinds).value = (lex.claimAll g.kinds, .ok ()) := by
      rw [value_makeAll hunmade, claimUntil_of_free g.nodup_kinds hfree]
    have hpass : lex.pass g = { lex.claimAll g.kinds with loaded := lex.loaded ++ [g] } := by
      rw [pass, if_neg hg]
    have hbind := value_bindAll_pass hnames hfree
    simp only [visit, load, if_neg hg, Logged.value_bind, hmake]
    rw [hpass] at hbind ⊢
    exact hbind

theorem visit_of_rival (hnames : OwnNames lex) (hkinds : g.kinds = before ++ b :: bs)
    (hfree : ∀ c ∈ before, lex.rival? c = none) (hrival : lex.rival? b = some k) :
    (lex.visit g).value =
      (lex.claimAll before, .error (.keywordTaken b.keyword k.title b.title)) := by
  have huntil : lex.claimUntil g.kinds =
      (lex.claimAll before, .error (.keywordTaken b.keyword k.title b.title)) := by
    rw [hkinds]
    exact claimUntil_of_rival (hkinds ▸ g.nodup_kinds) hfree hrival
  by_cases hg : g ∈ lex.loaded
  · have hmade : ∀ b ∈ g.kinds, lex.IsMade b := fun b hb => (isMade_iff hb).2 hg
    simp only [visit, load, if_pos hg, Logged.value_bind, Logged.value_pure]
    rw [value_bindAll hnames hmade, huntil]
  · have hunmade : ∀ b ∈ g.kinds, ¬lex.IsMade b := fun b hb => mt (isMade_iff hb).1 hg
    simp only [visit, load, if_neg hg, Logged.value_bind, value_makeAll hunmade, huntil]
    rfl

/-! ## Groups in order -/

def passAll (lex : Lexicon) (gs : List Group) : Lexicon := gs.foldl pass lex

theorem OwnNames.passAll (h : OwnNames lex) (gs : List Group) : OwnNames (lex.passAll gs) := by
  induction gs generalizing lex with
  | nil => exact h
  | cons g gs ih => exact ih (h.pass g)

theorem passAll_eq (lex : Lexicon) (hnodup : (gs.flatMap Group.kinds).Nodup) :
    ∃ loaded, lex.passAll gs = { lex.claimAll (gs.flatMap Group.kinds) with loaded := loaded } ∧
      ∀ g, g ∈ loaded ↔ g ∈ lex.loaded ∨ g ∈ gs := by
  induction gs generalizing lex with
  | nil =>
      refine ⟨lex.loaded, ?_, fun g => by simp⟩
      rw [List.flatMap_nil, claimAll_nil]
      rfl
  | cons h gs ih =>
      rw [List.flatMap_cons] at hnodup ⊢
      obtain ⟨-, hrest, hdisjoint⟩ := List.nodup_append.1 hnodup
      obtain ⟨loaded, heq, hloaded⟩ := ih (lex.pass h) hrest
      refine ⟨loaded, ?_, fun g => ?_⟩
      · rw [claimAll_append fun c hc hch => hdisjoint c hch c hc rfl]
        exact heq
      · rw [hloaded, mem_loaded_pass, List.mem_cons, or_assoc]

theorem rival?_pass (hb : b ∉ g.kinds) : (lex.pass g).rival? b = lex.rival? b := by
  have hmade : (lex.pass g).IsMade b ↔ lex.IsMade b := by
    constructor
    · rintro ⟨h, hh, hbh⟩
      rcases mem_loaded_pass.1 hh with hh | rfl
      · exact ⟨h, hh, hbh⟩
      · exact absurd hbh hb
    · rintro ⟨h, hh, hbh⟩
      exact ⟨h, mem_loaded_pass.2 (.inl hh), hbh⟩
  have hclaim : (lex.claimAll g.kinds).rival? b = lex.rival? b :=
    rival?_claimAll fun h => absurd h hb
  rw [← hclaim]
  exact rival?_congr rfl hmade

theorem rival?_passAll (hnodup : (gs.flatMap Group.kinds).Nodup)
    (hb : b ∉ gs.flatMap Group.kinds) : (lex.passAll gs).rival? b = lex.rival? b := by
  induction gs generalizing lex with
  | nil => rfl
  | cons g gs ih =>
      rw [List.flatMap_cons] at hnodup hb
      obtain ⟨hg, hgs⟩ := not_or.1 fun h => hb (List.mem_append.2 h)
      exact (ih (List.nodup_append.1 hnodup).2.1 hgs).trans (rival?_pass hg)

theorem visitAll_append (hnames : OwnNames lex) (hnodup : (gs.flatMap Group.kinds).Nodup)
    (hfree : ∀ b ∈ gs.flatMap Group.kinds, lex.rival? b = none) (hs : List Group) :
    (lex.visitAll (gs ++ hs)).value = ((lex.passAll gs).visitAll hs).value := by
  induction gs generalizing lex with
  | nil => rfl
  | cons g gs ih =>
      rw [List.flatMap_cons] at hnodup hfree
      obtain ⟨-, hrest, hdisjoint⟩ := List.nodup_append.1 hnodup
      obtain ⟨hg, hgs⟩ := List.forall_mem_append.1 hfree
      simp only [List.cons_append, visitAll, Logged.value_bind, visit_of_free hnames hg]
      apply ih (hnames.pass g) hrest
      intro c hc
      rw [rival?_pass fun hcg => hdisjoint c hcg c hc rfl]
      exact hgs c hc

theorem passAll_of_loaded (hloaded : ∀ g ∈ gs, g ∈ lex.loaded)
    (hbound : ∀ b ∈ gs.flatMap Group.kinds, lex.kind? b.keyword ≠ none) : lex.passAll gs = lex := by
  induction gs with
  | nil => rfl
  | cons g gs ih =>
      obtain ⟨hg, hgs⟩ := List.forall_mem_cons.1 hloaded
      rw [List.flatMap_cons] at hbound
      obtain ⟨hkinds, hrest⟩ := List.forall_mem_append.1 hbound
      have hpass : lex.pass g = lex := by rw [pass, if_pos hg, claimAll_of_bound hkinds]
      rw [passAll, List.foldl_cons, hpass]
      exact ih hgs hrest

/-! ## The two ends of a discovery -/

theorem nodup_kinds_all : (Group.all.flatMap Group.kinds).Nodup := Builtin.nodup_all

def completed (lex : Lexicon) : Lexicon := { lex.passAll Group.all with discovered := true }

theorem completed_eq (lex : Lexicon) : ∃ loaded, (∀ g, g ∈ loaded) ∧
    lex.completed = { lex.claimAll Builtin.all with discovered := true, loaded := loaded } := by
  obtain ⟨loaded, heq, hloaded⟩ := lex.passAll_eq nodup_kinds_all
  refine ⟨loaded, fun g => (hloaded g).2 (.inr g.mem_all), ?_⟩
  rw [completed, heq]
  rfl

theorem discover_of_free (hnames : OwnNames lex) (hlex : lex.discovered = false)
    (hfree : ∀ b, lex.rival? b = none) : lex.discover.value = (lex.completed, .ok ()) := by
  have hvisit := visitAll_append hnames nodup_kinds_all (fun b _ => hfree b) []
  rw [List.append_nil] at hvisit
  rw [discover, hlex]
  simp only [Bool.false_eq_true, if_false, Logged.value_bind, hvisit]
  rfl

/-- A place in the order of the built-in kinds: the kind there, its group, and what stands before
and behind them. -/
structure Place where
  passed : List Group
  group : Group
  coming : List Group
  before : List Builtin
  kind : Builtin
  after : List Builtin
  groups_eq : Group.all = passed ++ group :: coming
  kinds_eq : group.kinds = before ++ kind :: after

namespace Place

def earlier (p : Place) : List Builtin := p.passed.flatMap Group.kinds ++ p.before

theorem all_eq (p : Place) : Builtin.all =
    p.earlier ++ p.kind :: (p.after ++ p.coming.flatMap Group.kinds) := by
  rw [← Group.kinds_all, p.groups_eq, List.flatMap_append, List.flatMap_cons, p.kinds_eq, earlier]
  simp

theorem nodup (p : Place) :
    (p.earlier ++ p.kind :: (p.after ++ p.coming.flatMap Group.kinds)).Nodup :=
  p.all_eq ▸ Builtin.nodup_all

theorem nodup_earlier (p : Place) : p.earlier.Nodup := (List.nodup_append.1 p.nodup).1

theorem kind_not_mem_earlier (p : Place) : p.kind ∉ p.earlier := fun h =>
  (List.nodup_append.1 p.nodup).2.2 p.kind h p.kind List.mem_cons_self rfl

theorem kind_mem_kinds (p : Place) : p.kind ∈ p.group.kinds := by
  rw [p.kinds_eq]
  exact List.mem_append_right _ List.mem_cons_self

theorem group_not_mem_passed (p : Place) : p.group ∉ p.passed := fun h =>
  p.kind_not_mem_earlier (List.mem_append_left _ (List.mem_flatMap.2 ⟨_, h, p.kind_mem_kinds⟩))

end Place

/-- Holds of the place of the first built-in kind that has a rival, and of the rival. -/
structure FirstRival (lex : Lexicon) (p : Place) (k : Kind) : Prop where
  free : ∀ c ∈ p.earlier, lex.rival? c = none
  rival : lex.rival? p.kind = some k

theorem exists_firstRival (h : ¬∀ b, lex.rival? b = none) : ∃ p k, FirstRival lex p k := by
  cases hgroup : Group.all.find? fun g => g.kinds.any fun b => (lex.rival? b).isSome with
  | none =>
      refine absurd (fun b => ?_) h
      obtain ⟨g, hg, hb⟩ := List.mem_flatMap.1 (Group.kinds_all ▸ b.mem_all)
      have hnone := List.find?_eq_none.1 hgroup g hg
      rw [Bool.not_eq_true, List.any_eq_false] at hnone
      simpa using hnone b hb
  | some g =>
      obtain ⟨hany, passed, coming, hall, hpassed⟩ := List.find?_eq_some_iff_append.1 hgroup
      obtain ⟨b, hfind⟩ :=
        Option.isSome_iff_exists.1 (List.find?_isSome.2 (List.any_eq_true.1 hany))
      obtain ⟨hb, before, after, hkinds, hbefore⟩ := List.find?_eq_some_iff_append.1 hfind
      obtain ⟨k, hk⟩ := Option.isSome_iff_exists.1 hb
      refine ⟨⟨passed, g, coming, before, b, after, hall, hkinds⟩, k, fun c hc => ?_, hk⟩
      rcases List.mem_append.1 hc with hc | hc
      · obtain ⟨h, hh, hch⟩ := List.mem_flatMap.1 hc
        have hnone := hpassed h hh
        rw [Bool.not_eq_true', List.any_eq_false] at hnone
        simpa using hnone c hch
      · simpa using hbefore c hc

/-- The lexicon after a discovery that has come as far as a place. -/
def halted (lex : Lexicon) (p : Place) : Lexicon := (lex.passAll p.passed).claimAll p.before

theorem halted_eq (lex : Lexicon) (p : Place) : ∃ loaded,
    lex.halted p = { lex.claimAll p.earlier with loaded := loaded } ∧
      ∀ g, g ∈ loaded ↔ g ∈ lex.loaded ∨ g ∈ p.passed := by
  obtain ⟨hpassed, -, hdisjoint⟩ := List.nodup_append.1 p.nodup_earlier
  obtain ⟨loaded, heq, hloaded⟩ := lex.passAll_eq hpassed
  refine ⟨loaded, ?_, hloaded⟩
  rw [Place.earlier, claimAll_append fun c hc hcp => hdisjoint c hcp c hc rfl, halted, heq]
  rfl

namespace FirstRival

variable {p : Place}

theorem discover (h : FirstRival lex p k) (hnames : OwnNames lex) (hlex : lex.discovered = false) :
    lex.discover.value =
      (lex.halted p, .error (.keywordTaken p.kind.keyword k.title p.kind.title)) := by
  obtain ⟨hpassed, hbefore⟩ := List.forall_mem_append.1 h.free
  obtain ⟨hnodup, -, hdisjoint⟩ := List.nodup_append.1 p.nodup_earlier
  have hb : p.kind ∉ p.passed.flatMap Group.kinds := fun hb =>
    p.kind_not_mem_earlier (List.mem_append_left _ hb)
  have hvisit : ((lex.passAll p.passed).visit p.group).value =
      (lex.halted p, .error (.keywordTaken p.kind.keyword k.title p.kind.title)) := by
    apply visit_of_rival (hnames.passAll p.passed) p.kinds_eq
    · intro c hc
      rw [rival?_passAll hnodup fun hcp => hdisjoint c hcp c hc rfl]
      exact hbefore c hc
    · rw [rival?_passAll hnodup hb, h.rival]
  rw [Lexicon.discover, hlex]
  simp only [Bool.false_eq_true, if_false, Logged.value_bind, p.groups_eq,
    visitAll_append hnames hnodup hpassed, visitAll, hvisit]
  rfl

/-! ### Trying again -/

theorem kind?_halted (h : FirstRival lex p k) {c : Builtin} (hc : c ∈ p.earlier) :
    (lex.halted p).kind? c.keyword = some (.builtin c) := by
  obtain ⟨loaded, heq, -⟩ := lex.halted_eq p
  rw [heq]
  exact kind?_claimAll_of_mem hc (h.free c hc)

theorem isBound_halted (h : FirstRival lex p k) : ∀ c ∈ p.earlier,
    (lex.halted p).kind? c.keyword ≠ none := by
  intro c hc
  rw [h.kind?_halted hc]
  exact Option.some_ne_none _

theorem rival?_halted_of_passed (h : FirstRival lex p k) {c : Builtin}
    (hc : c ∈ p.passed.flatMap Group.kinds) : (lex.halted p).rival? c = none := by
  obtain ⟨loaded, heq, hloaded⟩ := lex.halted_eq p
  obtain ⟨g, hg, hcg⟩ := List.mem_flatMap.1 hc
  have hmade : (lex.halted p).IsMade c := by
    rw [isMade_iff hcg, heq]
    exact (hloaded g).2 (.inr hg)
  exact rival?_eq_none_of_bound hmade (h.kind?_halted (List.mem_append_left _ hc))

theorem passAll_halted (h : FirstRival lex p k) :
    (lex.halted p).passAll p.passed = lex.halted p := by
  obtain ⟨loaded, heq, hloaded⟩ := lex.halted_eq p
  apply passAll_of_loaded
  · intro g hg
    rw [heq]
    exact (hloaded g).2 (.inr hg)
  · intro c hc
    exact h.isBound_halted c (List.mem_append_left _ hc)

theorem isMade_halted (lex : Lexicon) (p : Place) {c : Builtin} (hc : c ∈ p.group.kinds) :
    (lex.halted p).IsMade c ↔ lex.IsMade p.kind := by
  obtain ⟨loaded, heq, hloaded⟩ := lex.halted_eq p
  rw [isMade_iff hc, isMade_iff p.kind_mem_kinds, heq]
  exact (hloaded p.group).trans (or_iff_left p.group_not_mem_passed)

/-- The same rival ends the discovery again if its group had been loaded, or if the kind in its way
comes first there. -/
theorem halted_of_made (h : FirstRival lex p k) (hsame : lex.IsMade p.kind ∨ p.before = []) :
    FirstRival (lex.halted p) p k where
  free c hc := by
    rcases List.mem_append.1 hc with hpassed | hbefore
    · exact h.rival?_halted_of_passed hpassed
    · have hmade : lex.IsMade p.kind :=
        hsame.resolve_right fun hnil => List.not_mem_nil (hnil ▸ hbefore)
      have hcg : c ∈ p.group.kinds := p.kinds_eq ▸ List.mem_append_left _ hbefore
      exact rival?_eq_none_of_bound ((isMade_halted lex p hcg).2 hmade) (h.kind?_halted hc)
  rival := by
    obtain ⟨loaded, heq, -⟩ := lex.halted_eq p
    obtain ⟨hk, hne⟩ := rival?_eq_some_iff.1 h.rival
    rw [rival?_eq_some_iff, isMade_halted lex p p.kind_mem_kinds, heq]
    exact ⟨kind?_claimAll_iff.2 (.inl hk), hne⟩

/-- Otherwise the kind that its load has made first is in the way of the one that the next load
makes. -/
theorem halted_of_unmade (h : FirstRival lex p k) (hunmade : ¬lex.IsMade p.kind) {c : Builtin}
    {cs : List Builtin} (hbefore : p.before = c :: cs) (q : Place) (hpassed : q.passed = p.passed)
    (hq : q.before = []) (hkind : q.kind = c) :
    FirstRival (lex.halted p) q (.builtin c) where
  free d hd := by
    rw [Place.earlier, hpassed, hq, List.append_nil] at hd
    exact h.rival?_halted_of_passed hd
  rival := by
    have hc : c ∈ p.before := hbefore ▸ List.mem_cons_self
    have hcg : c ∈ p.group.kinds := p.kinds_eq ▸ List.mem_append_left _ hc
    rw [hkind, rival?_eq_some_iff, isMade_halted lex p hcg]
    exact ⟨h.kind?_halted (List.mem_append_right _ hc), fun hmade => absurd hmade hunmade⟩

theorem discover_again (h : FirstRival lex p k) (hnames : OwnNames lex)
    (hlex : lex.discovered = false) :
    ∃ c q, (lex.halted p).kind? c.keyword = some q ∧
      (lex.halted p).discover.value =
        (lex.halted p, .error (.keywordTaken c.keyword q.title c.title)) ∧
      (lex.IsMade p.kind ∨ p.before = [] → c = p.kind ∧ q = k) := by
  obtain ⟨loaded, heq, -⟩ := lex.halted_eq p
  have hnames' : OwnNames (lex.halted p) := by
    rw [heq]
    exact hnames.of_labels rfl
  have hlex' : (lex.halted p).discovered = false := by
    rw [heq]
    exact hlex
  by_cases hsame : lex.IsMade p.kind ∨ p.before = []
  · have hbound : ∀ c ∈ p.before, (lex.halted p).kind? c.keyword ≠ none :=
      (List.forall_mem_append.1 h.isBound_halted).2
    have hhalted : (lex.halted p).halted p = lex.halted p := by
      rw [halted, h.passAll_halted, claimAll_of_bound hbound]
    have hagain := h.halted_of_made hsame
    have hvalue := hagain.discover hnames' hlex'
    rw [hhalted] at hvalue
    exact ⟨p.kind, k, (rival?_eq_some_iff.1 hagain.rival).1, hvalue, fun _ => ⟨rfl, rfl⟩⟩
  · obtain ⟨hunmade, hne⟩ := not_or.1 hsame
    obtain ⟨c, cs, hbefore⟩ := List.exists_cons_of_ne_nil hne
    let first : Place := ⟨p.passed, p.group, p.coming, [], c, cs ++ p.kind :: p.after,
      p.groups_eq, by rw [p.kinds_eq, hbefore]; rfl⟩
    have hhalted : (lex.halted p).halted first = lex.halted p := by
      rw [halted, h.passAll_halted, claimAll_nil]
    have hagain := h.halted_of_unmade hunmade hbefore first rfl rfl rfl
    have hvalue := hagain.discover hnames' hlex'
    rw [hhalted] at hvalue
    exact ⟨c, .builtin c, (rival?_eq_some_iff.1 hagain.rival).1, hvalue,
      fun h => absurd h hsame⟩

end FirstRival

theorem kind?_discover (hnames : OwnNames lex) :
    ∃ bs, ∀ w, lex.discover.value.1.kind? w = (lex.claimAll bs).kind? w := by
  cases hlex : lex.discovered with
  | true =>
      refine ⟨[], fun w => ?_⟩
      rw [(settles_of_discovered hlex).value_discover, claimAll_nil]
  | false =>
      by_cases hfree : ∀ b, lex.rival? b = none
      · obtain ⟨loaded, -, heq⟩ := lex.completed_eq
        rw [discover_of_free hnames hlex hfree, heq]
        exact ⟨Builtin.all, fun w => rfl⟩
      · obtain ⟨p, k, hfirst⟩ := exists_firstRival hfree
        obtain ⟨loaded, heq, -⟩ := lex.halted_eq p
        rw [hfirst.discover hnames hlex, heq]
        exact ⟨p.earlier, fun w => rfl⟩

end TableRobot.Lexicon
