import TableRobot.Proofs.Command.SingleWord
import TableRobot.Proofs.Lexicon.Discovery
import TableRobot.Proofs.Text.CapitalForms
/-!
# Adopting kinds one after another

A kind can be adopted under several names.  Each of them stays bound to it, but
the label is the last of them, and a command goes by the label.  So of the
keywords that mean a single-word kind exactly one makes a command: the last.
-/

namespace TableRobot.Lexicon

open Text (capitals capitals_capitals capitals_ne_nil trim trim_capitals)

variable {lex next : Lexicon} {name : Text} {k : Kind}

/-! ## One adoption -/

theorem lookup_filter_of_ne {q : Kind} (hq : q ≠ k) (labels : List (Kind × Text)) :
    (labels.filter (·.1 != k)).lookup q = labels.lookup q := by
  induction labels with
  | nil => rfl
  | cons e labels ih =>
      by_cases he : e.1 = k
      · have hqe : (q == e.1) = false := by simpa [he] using hq
        rw [List.filter_cons_of_neg (by simp [he]), ih, List.lookup_cons, hqe]
      · rw [List.filter_cons_of_pos (by simp [he]), List.lookup_cons, List.lookup_cons, ih]

theorem lookup_labelled (lex : Lexicon) (k : Kind) (l : Text) (q : Kind) :
    (lex.labelled k l).labels.lookup q = if q = k then some l else lex.labels.lookup q := by
  unfold labelled
  by_cases hq : q = k
  · rw [if_pos hq, hq, List.lookup_cons_self]
  · have hqk : (q == k) = false := by simpa using hq
    rw [if_neg hq, List.lookup_cons, hqk]
    exact lookup_filter_of_ne hq lex.labels

theorem kind?_bound (h : lex.kind? name = none) (w : Text) :
    (lex.bound name k).kind? w = if w = name then some k else lex.kind? w := by
  have happend : (lex.bound name k).kind? w = (lex.kind? w).or ([(name, k)].lookup w) :=
    List.lookup_append
  rw [happend, List.lookup_cons]
  by_cases hw : w = name
  · rw [if_pos hw, hw, h]
    simp
  · have hwn : (w == name) = false := by simpa using hw
    rw [if_neg hw, hwn]
    simp

/-- What a successful binding leaves: the keyword means the kind, and no other keyword has
changed. -/
structure Binds (lex : Lexicon) (name : Text) (k : Kind) (next : Lexicon) : Prop where
  discovered : next.discovered = lex.discovered
  loaded : next.loaded = lex.loaded
  kind? : ∀ w, next.kind? w = if w = capitals name then some k else lex.kind? w
  /-- No other kind held the keyword before. -/
  free : ∀ q, lex.kind? (capitals name) = some q → q = k

theorem binds_of_bind (h : (lex.bind name k).value = .ok next) : Binds lex name k next := by
  rw [bind] at h
  cases hkind : lex.kind? (capitals name) with
  | none =>
      rw [hkind] at h
      obtain rfl := Except.ok.inj h
      refine ⟨rfl, rfl, kind?_bound hkind, ?_⟩
      intro q hq
      cases hkind.symm.trans hq
  | some holder =>
      rw [hkind] at h
      by_cases hholder : holder = k
      · simp only [if_pos hholder] at h
        obtain rfl := Except.ok.inj h
        refine ⟨rfl, rfl, fun w => ?_, fun q hq => ?_⟩
        · by_cases hw : w = capitals name
          · rw [if_pos hw, hw, ← hholder]
            exact hkind
          · rw [if_neg hw]
        · rw [← hholder]
          exact Option.some.inj (hq.symm.trans hkind)
      · simp only [if_neg hholder] at h
        cases h

namespace Binds

variable {w : Text} {q : Kind}

theorem eq_or_kind? (h : Binds lex name k next) (hw : next.kind? w = some q) :
    w = capitals name ∧ q = k ∨ lex.kind? w = some q := by
  rw [h.kind?] at hw
  by_cases hname : w = capitals name
  · rw [if_pos hname] at hw
    exact .inl ⟨hname, (Option.some.inj hw).symm⟩
  · rw [if_neg hname] at hw
    exact .inr hw

theorem kind?_of_some (h : Binds lex name k next) (hw : lex.kind? w = some q) :
    next.kind? w = some q := by
  rw [h.kind?]
  by_cases hname : w = capitals name
  · subst hname
    rw [if_pos rfl, h.free q hw]
  · rw [if_neg hname, hw]

end Binds

structure Adopts (lex : Lexicon) (name : Text) (k : Kind) (next : Lexicon) : Prop
    extends Binds lex name k next where
  isCommand : k.isCommand = true
  label? : ∀ q, next.labels.lookup q =
    if q = k then some (capitals name) else lex.labels.lookup q

theorem adopts_of_adopt (h : (lex.adopt name k).value = .ok next) : Adopts lex name k next := by
  unfold adopt at h
  split at h
  · next hcommand =>
      simp only [Logged.value_bind] at h
      cases hbind : (lex.bind name k).value with
      | error fault =>
          rw [hbind] at h
          cases h
      | ok mid =>
          rw [hbind] at h
          obtain rfl := Except.ok.inj h
          have hbinds := binds_of_bind hbind
          refine ⟨⟨hbinds.discovered, hbinds.loaded, hbinds.kind?, hbinds.free⟩, hcommand,
            fun q => ?_⟩
          rw [lookup_labelled, labels_of_bind hbind]
  · cases h

/-! ## Many adoptions -/

def adoptAll (lex : Lexicon) : List (Text × Kind) → Except Fault Lexicon
  | [] => .ok lex
  | (name, k) :: rest =>
      match (lex.adopt name k).value with
      | .ok lex => adoptAll lex rest
      | .error fault => .error fault

def labelAfter (k : Kind) (l? : Option Text) (adoptions : List (Text × Kind)) : Option Text :=
  adoptions.foldl (fun l? a => if k = a.2 then some (capitals a.1) else l?) l?

/-- The last keyword of a kind: that of its last adoption, or else the one at the start. -/
def latest? (adoptions : List (Text × Kind)) (k : Kind) : Option Text :=
  labelAfter k (initial.labels.lookup k) adoptions

theorem adopts_of_adoptAll_cons {e : Text × Kind} {adoptions : List (Text × Kind)}
    (h : lex.adoptAll (e :: adoptions) = .ok next) :
    ∃ mid, Adopts lex e.1 e.2 mid ∧ mid.adoptAll adoptions = .ok next := by
  rw [adoptAll] at h
  split at h
  · next mid hmid => exact ⟨mid, adopts_of_adopt hmid, h⟩
  · cases h

theorem exists_builtin_of_kind? {w : Text} (h : initial.kind? w = some k) :
    ∃ b : Builtin, w = b.keyword ∧ k = .builtin b := by
  obtain ⟨b, -, hb⟩ := List.mem_map.1 (mem_of_lookup h)
  obtain ⟨rfl, rfl⟩ := Prod.mk.inj hb
  exact ⟨b, rfl, rfl⟩

structure IsKey (w : Text) : Prop where
  capitals_eq : capitals w = w
  trim_eq : trim w = w
  ne_nil : w ≠ []

theorem isKey_capitals (htrim : trim name = name) (hne : name ≠ []) : IsKey (capitals name) where
  capitals_eq := capitals_capitals name
  trim_eq := by rw [trim_capitals, htrim]
  ne_nil := capitals_ne_nil hne

theorem isKey_keyword (b : Builtin) : IsKey b.keyword where
  capitals_eq := capitals_keyword b
  trim_eq := by cases b <;> decide +kernel
  ne_nil := by cases b <;> exact List.cons_ne_nil _ _

/-- What adoptions under trimmed names keep: keywords mean commands, every kind that they mean
has a label, and a label is a keyword of its kind. -/
structure Tidy (lex : Lexicon) : Prop where
  discovered : lex.discovered = true
  isCommand : ∀ {w k}, lex.kind? w = some k → k.isCommand = true
  isKey : ∀ {w k}, lex.kind? w = some k → IsKey w
  labelled : ∀ {w k}, lex.kind? w = some k → ∃ l, lex.labels.lookup k = some l
  kind?_label : ∀ {k l}, lex.labels.lookup k = some l → lex.kind? l = some k

theorem tidy_initial : Tidy initial where
  discovered := rfl
  isCommand h := by
    obtain ⟨b, -, rfl⟩ := exists_builtin_of_kind? h
    rfl
  isKey h := by
    obtain ⟨b, rfl, -⟩ := exists_builtin_of_kind? h
    exact isKey_keyword b
  labelled h := by
    obtain ⟨b, -, rfl⟩ := exists_builtin_of_kind? h
    exact ⟨b.keyword, by cases b <;> rfl⟩
  kind?_label h := by
    obtain ⟨b, -, hb⟩ := List.mem_map.1 (mem_of_lookup h)
    obtain ⟨rfl, rfl⟩ := Prod.mk.inj hb
    cases b <;> rfl

namespace Tidy

variable {w l : Text} {a : Action}

theorem adopts (hlex : Tidy lex) (h : Adopts lex name k next) (htrim : trim name = name)
    (hne : name ≠ []) : Tidy next where
  discovered := h.discovered.trans hlex.discovered
  isCommand hw := by
    rcases h.eq_or_kind? hw with ⟨rfl, rfl⟩ | hw
    · exact h.isCommand
    · exact hlex.isCommand hw
  isKey hw := by
    rcases h.eq_or_kind? hw with ⟨rfl, rfl⟩ | hw
    · exact isKey_capitals htrim hne
    · exact hlex.isKey hw
  labelled {w q} hw := by
    rw [h.label?]
    by_cases hq : q = k
    · exact ⟨capitals name, if_pos hq⟩
    · rw [if_neg hq]
      rcases h.eq_or_kind? hw with ⟨-, hqk⟩ | hw
      · exact absurd hqk hq
      · exact hlex.labelled hw
  kind?_label {q l} hl := by
    rw [h.label?] at hl
    rw [h.kind?]
    by_cases hq : q = k
    · rw [if_pos hq] at hl
      rw [if_pos (Option.some.inj hl).symm, hq]
    · rw [if_neg hq] at hl
      have hold := hlex.kind?_label hl
      -- The keyword of the adoption was free, so it is no label of another kind.
      have hlname : l ≠ capitals name := by
        rintro rfl
        exact hq (h.free q hold)
      rw [if_neg hlname, hold]

theorem adoptAll {adoptions : List (Text × Kind)} (hlex : Tidy lex)
    (hnames : ∀ a ∈ adoptions, trim a.1 = a.1 ∧ a.1 ≠ [])
    (h : lex.adoptAll adoptions = .ok next) : Tidy next := by
  induction adoptions generalizing lex with
  | nil =>
      obtain rfl := Except.ok.inj h
      exact hlex
  | cons e adoptions ih =>
      obtain ⟨mid, hmid, hrest⟩ := adopts_of_adoptAll_cons h
      obtain ⟨htrim, hne⟩ := hnames e List.mem_cons_self
      exact ih (hlex.adopts hmid htrim hne)
        (fun a ha => hnames a (List.mem_cons_of_mem e ha)) hrest

/-! ### Commands of single-word kinds -/

theorem newCommand (hlex : Tidy lex) (hk : k.IsSingleWord a)
    (hl : lex.labels.lookup k = some l) : lex.newCommand k = .ok (.single k a l) := by
  have hlabel : lex.label k = l := by rw [label, hl]
  have hname : lex.nameOf k = l := by
    rw [nameOf, hlabel]
    exact if_neg (hlex.isKey (hlex.kind?_label hl)).ne_nil
  rw [Lexicon.newCommand, hname, hk.new]

/-- A keyword makes a command if it is the label of its kind, and no other keyword does. -/
theorem summon [Routines] (hlex : Tidy lex) (hw : lex.kind? w = some k) (hk : k.IsSingleWord a)
    (hl : lex.labels.lookup k = some l) :
    (lex.summon [w]).value = (lex, .ok (if w = l then .command (.single k a w)
      else .declined "Command validation failed".toList)) := by
  have hcapitals := (hlex.isKey hw).capitals_eq
  rw [Lexicon.summon, (settles_of_discovered hlex.discovered).value_afterDiscovery]
  simp only [summonDiscovered, hcapitals, hw, hlex.newCommand hk hl, Command.attempt_single,
    Logged.value_bind]
  by_cases hwl : w = l
  · subst hwl
    simp only [if_true]
    rfl
  · simp only [if_neg hwl]
    rfl

end Tidy

theorem label?_adoptAll {adoptions : List (Text × Kind)} (k : Kind)
    (h : lex.adoptAll adoptions = .ok next) :
    next.labels.lookup k = labelAfter k (lex.labels.lookup k) adoptions := by
  induction adoptions generalizing lex with
  | nil =>
      obtain rfl := Except.ok.inj h
      rfl
  | cons e adoptions ih =>
      obtain ⟨mid, hmid, hrest⟩ := adopts_of_adoptAll_cons h
      rw [ih hrest, hmid.label? k]
      rfl

end TableRobot.Lexicon
