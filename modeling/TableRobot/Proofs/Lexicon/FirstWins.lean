import TableRobot.Proofs.Lexicon.Operations
/-!
# The first binding wins

Every operation but clearing only adds bindings, each for a keyword in capitals
that was free.  So the keywords of a lexicon are capital forms and different
from each other, and each keeps its first kind until the bindings are cleared.
A keyword that is looked up again in capitals is found again, because capital
forms stay as they are: the listing of the keywords has no gaps.
-/

namespace TableRobot.Lexicon

open Text (capitals capitals_capitals)

variable {lex next settled : Lexicon} {bs cs ds : List (Text × Kind)} {op : Operation}
  {name w : Text} {k : Kind}

/-! ## Growing bindings -/

/-- Holds of bindings and what they become as free keywords are bound one after another. -/
inductive Grown (bs : List (Text × Kind)) : List (Text × Kind) → Prop where
  | refl : Grown bs bs
  | append {cs : List (Text × Kind)} (h : Grown bs cs) {name : Text}
      (hfree : cs.lookup (capitals name) = none) (k : Kind) :
      Grown bs (cs ++ [(capitals name, k)])

namespace Grown

theorem trans (h : Grown bs cs) (hnext : Grown cs ds) : Grown bs ds := by
  induction hnext with
  | refl => exact h
  | append _ hfree k ih => exact ih.append hfree k

theorem lookup (h : Grown bs cs) (hw : bs.lookup w = some k) : cs.lookup w = some k := by
  induction h with
  | refl => exact hw
  | append _ hfree q ih => rw [List.lookup_append, ih, Option.some_or]

end Grown

structure WellKeyed (bs : List (Text × Kind)) : Prop where
  capitals_key : ∀ e ∈ bs, capitals e.1 = e.1
  nodup : (bs.map Prod.fst).Nodup

theorem wellKeyed_nil : WellKeyed [] := ⟨List.forall_mem_nil _, List.nodup_nil⟩

theorem Grown.wellKeyed (h : Grown bs cs) (hbs : WellKeyed bs) : WellKeyed cs := by
  induction h with
  | refl => exact hbs
  | @append cs _ name hfree k ih =>
      constructor
      · apply List.forall_mem_append.2 ⟨ih.capitals_key, List.forall_mem_singleton.2 ?_⟩
        exact capitals_capitals name
      · have hnew : capitals name ∉ cs.map Prod.fst := by
          intro hmem
          obtain ⟨e, he, hname⟩ := List.mem_map.1 hmem
          have hne := bne_iff_ne.1 (List.lookup_eq_none_iff.1 hfree e he)
          exact hne hname.symm
        rw [List.map_append, List.map_singleton]
        exact List.nodup_append.2 ⟨ih.nodup, List.pairwise_singleton _ _, fun v hv u hu => by
          rw [List.mem_singleton.1 hu]
          rintro rfl
          exact hnew hv⟩

/-! ## Operations -/

theorem grown_of_bind (h : (lex.bind name k).value = .ok next) :
    Grown lex.bindings next.bindings := by
  rw [bind] at h
  split at h
  · split at h
    · exact Except.ok.inj h ▸ .refl
    · cases h
  · next hfree => exact Except.ok.inj h ▸ Grown.refl.append hfree k

theorem grown_of_adopt (h : (lex.adopt name k).value = .ok next) :
    Grown lex.bindings next.bindings := by
  rw [adopt] at h
  split at h
  · simp only [Logged.value_bind] at h
    split at h
    · next hbind =>
        have hgrown := grown_of_bind hbind
        obtain rfl := Except.ok.inj h
        exact hgrown
    · cases h
  · cases h

theorem Progress.grown (h : Progress lex next) : Grown lex.bindings next.bindings := by
  induction h with
  | start => exact .refl
  | bound _ hfree b ih => exact ih.append hfree (.builtin b)
  | loaded _ _ ih => exact ih
  | discovered _ ih => exact ih

theorem grown_discover (lex : Lexicon) : Grown lex.bindings lex.discover.value.1.bindings :=
  lex.progress_discover.grown

theorem Leaves.grown (h : Leaves lex op next) (hop : op ≠ .clear) :
    Grown lex.bindings next.bindings := by
  cases h with
  | kept => exact .refl
  | bound hbind => exact grown_of_bind hbind
  | adopted hadopt => exact grown_of_adopt hadopt
  | discovered => exact lex.grown_discover
  | cleared => exact absurd rfl hop

theorem grown_afterAll [Routines] (lex : Lexicon) {ops : List Operation}
    (hops : ∀ op ∈ ops, op ≠ .clear) : Grown lex.bindings (lex.afterAll ops).bindings := by
  induction ops generalizing lex with
  | nil => exact .refl
  | cons op ops ih =>
      obtain ⟨hop, hrest⟩ := List.forall_mem_cons.1 hops
      exact ((lex.leaves_after op).grown hop).trans (ih (lex.after op) hrest)

/-! ## Keywords after any operations -/

theorem wellKeyed_initial : WellKeyed initial.bindings where
  capitals_key e he := by
    obtain ⟨b, -, rfl⟩ := List.mem_map.1 he
    exact (isKey_keyword b).capitals_eq
  nodup := by decide

theorem Leaves.wellKeyed (h : Leaves lex op next) (hlex : WellKeyed lex.bindings) :
    WellKeyed next.bindings := by
  by_cases hop : op = .clear
  · subst hop
    cases h with
    | kept => exact hlex
    | discovered => exact lex.grown_discover.wellKeyed hlex
    | cleared => exact wellKeyed_nil
  · exact (h.grown hop).wellKeyed hlex

theorem wellKeyed_afterAll [Routines] (hlex : WellKeyed lex.bindings) (ops : List Operation) :
    WellKeyed (lex.afterAll ops).bindings := by
  induction ops generalizing lex with
  | nil => exact hlex
  | cons op ops ih => exact ih ((lex.leaves_after op).wellKeyed hlex)

theorem Reached.wellKeyed [Routines] (h : Reached lex) : WellKeyed lex.bindings := by
  induction h with
  | start => exact wellKeyed_initial
  | next h op hop ih => exact (leaves_after _ op).wellKeyed ih

namespace WellKeyed

theorem capitals_eq_of_kind? (h : WellKeyed lex.bindings) (hw : lex.kind? w = some k) :
    capitals w = w :=
  h.capitals_key _ (mem_of_lookup hw)

theorem of_settles (h : WellKeyed lex.bindings) (hsettles : Settles lex settled) :
    WellKeyed settled.bindings := by
  have hdiscover := lex.grown_discover.wellKeyed h
  rwa [hsettles.value_discover] at hdiscover

theorem pairwise_sortedKeys (h : WellKeyed lex.bindings) :
    lex.sortedKeys.Pairwise Text.Precedes :=
  Text.pairwise_precedes_sorted h.nodup

end WellKeyed

/-! ## Registrations -/

/-- Holds of a lexicon in which the keyword that a name makes belongs to another kind. -/
def Bars (lex : Lexicon) (name : Text) (k : Kind) : Prop :=
  ∃ q, lex.kind? (capitals name) = some q ∧ q ≠ k

theorem isSome_faultOf {α : Type} {result : Except Fault α} :
    (faultOf result).isSome = true ↔ ¬∃ a, result = .ok a := by
  cases result with
  | ok a => simp [faultOf]
  | error fault => simp [faultOf]

theorem orKept_of_fault {result : Except Fault Lexicon}
    (h : (faultOf result).isSome = true) : lex.orKept result = lex := by
  cases result with
  | ok next => cases h
  | error fault => rfl

theorem eq_ok_orKept {result : Except Fault Lexicon} (h : faultOf result = none) :
    result = .ok (lex.orKept result) := by
  cases result with
  | ok next => rfl
  | error fault => cases h

theorem exists_value_bind_iff :
    (∃ next, (lex.bind name k).value = .ok next) ↔ ¬lex.Bars name k := by
  constructor
  · rintro ⟨next, h⟩ ⟨q, hq, hne⟩
    exact hne ((binds_of_bind h).free q hq)
  · intro hbars
    rw [bind]
    cases hq : lex.kind? (capitals name) with
    | none => exact ⟨_, rfl⟩
    | some q =>
        have hqk : q = k := Classical.not_not.1 fun hne => hbars ⟨q, hq, hne⟩
        simp only [hqk, if_true]
        exact ⟨lex, rfl⟩

theorem exists_value_adopt_iff :
    (∃ next, (lex.adopt name k).value = .ok next) ↔
      ¬(lex.Bars name k ∨ k.isCommand = false) := by
  rw [not_or, ← exists_value_bind_iff, adopt]
  cases k.isCommand with
  | false =>
      apply iff_of_false
      · rintro ⟨next, hnext⟩
        cases hnext
      · rintro ⟨-, hcommand⟩
        exact hcommand rfl
  | true =>
      simp only [if_true, Logged.value_bind]
      cases (lex.bind name k).value with
      | ok next => exact iff_of_true ⟨_, rfl⟩ ⟨⟨next, rfl⟩, nofun⟩
      | error fault =>
          apply iff_of_false
          · rintro ⟨next, hnext⟩
            cases hnext
          · rintro ⟨⟨next, hnext⟩, -⟩
            cases hnext

inductive Operation.Registers (name : Text) (k : Kind) : Operation → Prop where
  | bind : Registers name k (.bind name k)
  | adopt : Registers name k (.adopt name k)

namespace Operation.Registers

variable [Routines]

theorem isSome_fault?_iff (h : op.Registers name k) : (lex.fault? op).isSome = true ↔
    lex.Bars name k ∨ op = .adopt name k ∧ k.isCommand = false := by
  cases h with
  | bind =>
      rw [Lexicon.fault?, isSome_faultOf, exists_value_bind_iff, Classical.not_not]
      simp
  | adopt =>
      rw [Lexicon.fault?, isSome_faultOf, exists_value_adopt_iff, Classical.not_not]
      simp

theorem after_of_fault (h : op.Registers name k) (hfault : (lex.fault? op).isSome = true) :
    lex.after op = lex := by
  cases h with
  | bind => exact orKept_of_fault hfault
  | adopt => exact orKept_of_fault hfault

theorem binds (h : op.Registers name k) (hfault : lex.fault? op = none) :
    Binds lex name k (lex.after op) := by
  cases h with
  | bind => exact binds_of_bind (eq_ok_orKept hfault)
  | adopt => exact (adopts_of_adopt (eq_ok_orKept hfault)).toBinds

end Operation.Registers

/-! ## Listings -/

theorem value_afterDiscovery_ok {α : Type} {answer : Lexicon → Logged (Except Fault α)} {a : α}
    (h : (lex.afterDiscovery answer).value = (settled, .ok a)) :
    Settles lex settled ∧ (answer settled).value = .ok a := by
  have hfst := lex.value_afterDiscovery_fst answer
  cases hresult : lex.discover.value.2 with
  | error fault =>
      have hfault := value_afterDiscovery_of_fault hresult answer
      rw [h] at hfault
      cases hfault
  | ok =>
      rw [h] at hfst
      have hsettles : Settles lex settled := Prod.ext hfst.symm hresult
      rw [hsettles.value_afterDiscovery] at h
      exact ⟨hsettles, (Prod.mk.inj h).2⟩

theorem Settles.value_find? (h : Settles lex settled) (word : Text) :
    (lex.find? word).value = (settled, .ok (settled.kind? (capitals word))) :=
  h.value_afterDiscovery _

/-- Whatever has been done with a lexicon from the start, in vain or not.  Its keywords are capital
forms.  Until the bindings are cleared a keyword keeps the kind that it means.  To bind a name is a
fault exactly if its keyword belongs to another kind, or if it is to be adopted by what is not a
command, and a fault changes nothing.  If the keywords can be listed, the listing increases in the
order of code points and holds exactly what has a meaning, and a word is found whenever its capital
form is listed, each listed keyword itself among them. -/
theorem first_binding_wins [Routines] {ops : List Operation}
    (hlex : initial.afterAll ops = lex) :
    (∀ e ∈ lex.bindings, capitals e.1 = e.1) ∧
      (∀ more : List Operation, (∀ op ∈ more, op ≠ .clear) →
        ∀ w k, lex.kind? w = some k → (lex.afterAll more).kind? w = some k) ∧
      (∀ name k op, op.Registers name k →
        ((lex.fault? op).isSome = true ↔
          lex.Bars name k ∨ op = .adopt name k ∧ k.isCommand = false) ∧
        ((lex.fault? op).isSome = true → lex.after op = lex) ∧
        (lex.fault? op = none → Binds lex name k (lex.after op))) ∧
      ∀ settled ws, lex.keywords.value = (settled, .ok ws) →
        ws.Pairwise Text.Precedes ∧ (∀ w, w ∈ ws ↔ ∃ k, settled.kind? w = some k) ∧
        (∀ m, capitals m ∈ ws → ∃ k, settled.kind? (capitals m) = some k ∧
          (lex.find? m).value = (settled, .ok (some k)) ∧
          (settled.find? m).value = (settled, .ok (some k))) ∧
        ∀ w ∈ ws, ∃ k, settled.kind? w = some k ∧ settled.kind? (capitals w) = some k ∧
          (settled.find? w).value = (settled, .ok (some k)) := by
  have hkeyed : WellKeyed lex.bindings := hlex ▸ wellKeyed_afterAll wellKeyed_initial ops
  refine ⟨hkeyed.capitals_key, fun more hmore w k hw => (lex.grown_afterAll hmore).lookup hw,
    fun name k op hop => ⟨hop.isSome_fault?_iff, hop.after_of_fault, hop.binds⟩, ?_⟩
  intro settled ws hkeywords
  obtain ⟨hsettles, hlisting⟩ := value_afterDiscovery_ok hkeywords
  obtain rfl := Except.ok.inj hlisting
  have hsettled : WellKeyed settled.bindings := hkeyed.of_settles hsettles
  have hfind : ∀ m, capitals m ∈ settled.sortedKeys → ∃ k,
      settled.kind? (capitals m) = some k ∧ (lex.find? m).value = (settled, .ok (some k)) ∧
        (settled.find? m).value = (settled, .ok (some k)) := by
    intro m hm
    obtain ⟨k, hk⟩ := mem_sortedKeys.1 hm
    exact ⟨k, hk, by rw [hsettles.value_find?, hk], by rw [hsettles.refl.value_find?, hk]⟩
  refine ⟨hsettled.pairwise_sortedKeys, fun w => mem_sortedKeys, hfind, fun w hw => ?_⟩
  obtain ⟨k, hk⟩ := mem_sortedKeys.1 hw
  have hcapitals : capitals w = w := hsettled.capitals_eq_of_kind? hk
  obtain ⟨q, hq, -, hanswer⟩ := hfind w (by rwa [hcapitals])
  rw [hcapitals, hk] at hq
  obtain rfl := Option.some.inj hq
  exact ⟨k, hk, by rw [hcapitals, hk], hanswer⟩

/-- A kind is adopted in a spelling with a ligature, before the built-in kinds are discovered.  It
keeps its keyword from then on: spelt with a long letter the name is barred for steps, and spelt
with another ligature it is answered by the kind. -/
theorem first_binding_wins_ligature :
    ∃ lex, initial.afterAll [.clear, .adopt "\ufb06ep".toList walker,
        .bind "Step".toList (.builtin .move), .find "move".toList] = lex ∧
      lex.kind? "STEP".toList = some walker ∧
      (lex.fault? (.adopt "\u017ftep".toList (.builtin .move))).isSome = true ∧
      lex.after (.adopt "\u017ftep".toList (.builtin .move)) = lex ∧
      (∀ e ∈ lex.bindings, capitals e.1 = e.1) ∧
      lex.keywords.value = (lex, .ok ["LEFT".toList, "MOVE".toList, "PLACE".toList,
        "REPORT".toList, "RIGHT".toList, "STEP".toList]) ∧
      (lex.find? "\ufb05ep".toList).value = (lex, .ok (some walker)) := by
  obtain ⟨lex, hlex, hstep, hkeywords⟩ :
      ∃ lex, initial.afterAll [.clear, .adopt "\ufb06ep".toList walker,
          .bind "Step".toList (.builtin .move), .find "move".toList] = lex ∧
        lex.kind? "STEP".toList = some walker ∧
        lex.keywords.value = (lex, .ok ["LEFT".toList, "MOVE".toList, "PLACE".toList,
          "REPORT".toList, "RIGHT".toList, "STEP".toList]) := ⟨_, rfl, rfl, rfl⟩
  obtain ⟨hcapitals, -, hregisters, hlistings⟩ := first_binding_wins hlex
  have hlong : capitals "\u017ftep".toList = "STEP".toList := by decide +kernel
  have hligature : capitals "\ufb05ep".toList = "STEP".toList := by decide +kernel
  obtain ⟨hbarred, hstays, -⟩ :=
    hregisters "\u017ftep".toList (.builtin .move) _ .adopt
  have hfault : (lex.fault? (.adopt "\u017ftep".toList (.builtin .move))).isSome = true := by
    apply hbarred.2 (.inl ⟨walker, ?_, walker_ne_builtin .move⟩)
    rw [hlong, hstep]
  obtain ⟨-, -, hfind, -⟩ := hlistings lex _ hkeywords
  obtain ⟨k, hk, hanswer, -⟩ := hfind "\ufb05ep".toList (by rw [hligature]; decide)
  rw [hligature, hstep] at hk
  obtain rfl := Option.some.inj hk
  exact ⟨lex, hlex, hstep, hfault, hstays hfault, hcapitals, hkeywords, hanswer⟩

end TableRobot.Lexicon
