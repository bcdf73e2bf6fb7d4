import TableRobot.Interpreter.Basic
import TableRobot.Proofs.Lexicon.Visits
/-!
# Operations on a lexicon

A lexicon is shared: anyone may bind keywords, adopt kinds, ask for keywords
and commands, clear the bindings, have them discovered or make an interpreter,
also in vain.  As long as no built-in kind is given another name, a discovered
lexicon has the built-in kinds under their own keywords, and a look-up of such
a keyword is answered by the built-in kind or refused.
-/

namespace TableRobot.Lexicon

open Text (capitals)

inductive Operation where
  | bind (name : Text) (k : Kind)
  | adopt (name : Text) (k : Kind)
  | find (word : Text)
  | keywords
  | discover
  | summon (words : List Text)
  | clear
  | interpreter (size : Int)

def orKept (lex : Lexicon) : Except Fault Lexicon → Lexicon
  | .ok next => next
  | .error _ => lex

def after [Routines] (lex : Lexicon) : Operation → Lexicon
  | .bind name k => lex.orKept (lex.bind name k).value
  | .adopt name k => lex.orKept (lex.adopt name k).value
  | .find word => (lex.find? word).value.1
  | .keywords => lex.keywords.value.1
  | .discover => lex.discover.value.1
  | .summon words => (lex.summon words).value.1
  | .clear => lex.clear.value
  | .interpreter size => (Interpreter.new lex size).value.1

def faultOf {α : Type} : Except Fault α → Option Fault
  | .ok _ => none
  | .error fault => some fault

def fault? [Routines] (lex : Lexicon) : Operation → Option Fault
  | .bind name k => faultOf (lex.bind name k).value
  | .adopt name k => faultOf (lex.adopt name k).value
  | .find word => faultOf (lex.find? word).value.2
  | .keywords => faultOf lex.keywords.value.2
  | .discover => faultOf lex.discover.value.2
  | .summon words => faultOf (lex.summon words).value.2
  | .clear => none
  | .interpreter size => faultOf (Interpreter.new lex size).value.2

/-- The lexicon after operations in order, those that fail included. -/
def afterAll [Routines] (lex : Lexicon) (ops : List Operation) : Lexicon := ops.foldl after lex

def Operation.IsLookup : Operation → Prop
  | .find _ => True
  | .keywords => True
  | .discover => True
  | .summon _ => True
  | _ => False

variable {lex next settled : Lexicon} {op : Operation} {b : Builtin} {k : Kind} {w : Text}

/-! ## Look-ups -/

theorem Operation.IsLookup.after [Routines] (hop : op.IsLookup) (lex : Lexicon) :
    lex.after op = lex.discover.value.1 := by
  cases op with
  | find word => exact lex.value_afterDiscovery_fst _
  | keywords => exact lex.value_afterDiscovery_fst _
  | discover => rfl
  | summon words => exact lex.value_afterDiscovery_fst _
  | bind => cases hop
  | adopt => cases hop
  | clear => cases hop
  | interpreter => cases hop

theorem Operation.IsLookup.fault? [Routines] (hop : op.IsLookup) {fault : Fault}
    (h : lex.discover.value.2 = .error fault) : lex.fault? op = some fault := by
  cases op with
  | find word => exact congrArg faultOf (value_afterDiscovery_of_fault h _)
  | keywords => exact congrArg faultOf (value_afterDiscovery_of_fault h _)
  | discover => exact congrArg faultOf h
  | summon words => exact congrArg faultOf (value_afterDiscovery_of_fault h _)
  | bind => cases hop
  | adopt => cases hop
  | clear => cases hop
  | interpreter => cases hop

theorem afterAll_of_isLookup [Routines] (h : lex.discover.value.1 = lex) {ops : List Operation}
    (hops : ∀ op ∈ ops, op.IsLookup) : lex.afterAll ops = lex := by
  induction ops with
  | nil => rfl
  | cons op ops ih =>
      rw [afterAll, List.foldl_cons, (hops op List.mem_cons_self).after, h]
      exact ih fun op hop => hops op (List.mem_cons_of_mem _ hop)

/-! ## What an operation leaves -/

/-- What an operation can leave: the lexicon as it was, as it was bound, adopted or cleared, or
as discovery left it. -/
inductive Leaves (lex : Lexicon) : Operation → Lexicon → Prop where
  | kept (op : Operation) : Leaves lex op lex
  | bound {name : Text} {k : Kind} {next : Lexicon} (h : (lex.bind name k).value = .ok next) :
      Leaves lex (.bind name k) next
  | adopted {name : Text} {k : Kind} {next : Lexicon} (h : (lex.adopt name k).value = .ok next) :
      Leaves lex (.adopt name k) next
  | discovered (op : Operation) : Leaves lex op lex.discover.value.1
  | cleared : Leaves lex .clear lex.clear.value

theorem value_new_fst (lex : Lexicon) (size : Int) :
    (Interpreter.new lex size).value.1 = lex ∨
      (Interpreter.new lex size).value.1 = lex.discover.value.1 := by
  unfold Interpreter.new
  split
  · exact .inl rfl
  · have hbuild : (Transitions.build lex).value.1 = lex.discover.value.1 :=
      lex.value_afterDiscovery_fst _
    right
    simp only [Logged.value_bind]
    cases hresult : (Transitions.build lex).value with
    | mk next result =>
        rw [hresult] at hbuild
        cases result with
        | error fault => exact hbuild
        | ok transitions => exact hbuild

theorem leaves_after [Routines] (lex : Lexicon) (op : Operation) :
    Leaves lex op (lex.after op) := by
  cases op with
  | bind name k =>
      rw [after]
      cases h : (lex.bind name k).value with
      | ok next => exact .bound h
      | error fault => exact .kept _
  | adopt name k =>
      rw [after]
      cases h : (lex.adopt name k).value with
      | ok next => exact .adopted h
      | error fault => exact .kept _
  | find word =>
      rw [after, find?, value_afterDiscovery_fst]
      exact .discovered _
  | keywords =>
      rw [after, Lexicon.keywords, value_afterDiscovery_fst]
      exact .discovered _
  | discover => exact .discovered _
  | summon words =>
      rw [after, Lexicon.summon, value_afterDiscovery_fst]
      exact .discovered _
  | clear => exact .cleared
  | interpreter size =>
      rw [after]
      rcases lex.value_new_fst size with h | h
      · rw [h]
        exact .kept _
      · rw [h]
        exact .discovered _

/-! ## Loyal lexicons -/

/-- Holds of an operation by which a built-in kind gets a name that is not its own. -/
def Renames (lex : Lexicon) (op : Operation) : Prop :=
  ∃ (name : Text) (b : Builtin) (next : Lexicon), op = .adopt name (.builtin b) ∧
    (lex.adopt name (.builtin b)).value = .ok next ∧ capitals name ≠ b.keyword

/-- Holds of the lexicons to which operations lead from the start, none of which gives a
built-in kind another name. -/
inductive Reached [Routines] : Lexicon → Prop where
  | start : Reached initial
  | next {lex : Lexicon} (h : Reached lex) (op : Operation) (hop : ¬lex.Renames op) :
      Reached (lex.after op)

/-- Holds of a lexicon in which the built-in kinds have been made, carry their own names and, once
it has been discovered, have their own keywords. -/
structure Loyal (lex : Lexicon) : Prop where
  made : ∀ b : Builtin, lex.IsMade b
  ownNames : OwnNames lex
  kind?_keyword : lex.discovered = true → ∀ b : Builtin, lex.kind? b.keyword = some (.builtin b)

theorem loyal_initial : Loyal initial where
  made b := by cases b <;> decide
  ownNames := ownNames_initial
  kind?_keyword _ b := by cases b <;> rfl

def Blocked (lex : Lexicon) : Prop :=
  lex.discovered = false ∧ ∃ b k, lex.rival? b = some k

namespace Loyal

theorem exists_settles (h : Loyal lex) (hfree : ¬lex.Blocked) :
    ∃ settled, Settles lex settled ∧ Loyal settled := by
  cases hlex : lex.discovered with
  | true => exact ⟨lex, settles_of_discovered hlex, h⟩
  | false =>
      have hnone : ∀ b, lex.rival? b = none := by
        intro b
        apply Option.eq_none_iff_forall_ne_some.2
        intro k hk
        exact hfree ⟨hlex, b, k, hk⟩
      obtain ⟨loaded, hloaded, heq⟩ := lex.completed_eq
      have hkind : ∀ b, (lex.claimAll Builtin.all).kind? b.keyword = some (.builtin b) :=
        fun b => kind?_claimAll_of_mem b.mem_all (hnone b)
      refine ⟨lex.completed, discover_of_free h.ownNames hlex hnone, ?_⟩
      rw [heq]
      refine ⟨fun b => ?_, h.ownNames.of_labels rfl, fun _ b => hkind b⟩
      obtain ⟨g, -, hb⟩ := h.made b
      exact ⟨g, hloaded g, hb⟩

/-- A rival ends discovery, perhaps not the first one that is known of. -/
theorem exists_fault (h : Loyal lex) (hblocked : lex.Blocked) :
    lex.discover.value.1.discovered = false ∧ ∃ b k, lex.rival? b = some k ∧
      lex.discover.value.2 = .error (.keywordTaken b.keyword k.title b.title) := by
  obtain ⟨hlex, b, k, hk⟩ := hblocked
  have hrivals : ¬∀ b, lex.rival? b = none := by
    intro hfree
    rw [hfree b] at hk
    cases hk
  obtain ⟨p, q, hfirst⟩ := exists_firstRival hrivals
  obtain ⟨loaded, heq, -⟩ := lex.halted_eq p
  rw [hfirst.discover h.ownNames hlex, heq]
  exact ⟨hlex, p.kind, q, hfirst.rival, rfl⟩

theorem discover (h : Loyal lex) : Loyal lex.discover.value.1 := by
  by_cases hblocked : lex.Blocked
  · refine ⟨fun b => lex.progress_discover.isMade (h.made b),
      h.ownNames.of_labels (labels_discover lex), fun hnext => ?_⟩
    rw [(h.exists_fault hblocked).1] at hnext
    cases hnext
  · obtain ⟨settled, hsettles, hsettled⟩ := h.exists_settles hblocked
    rwa [hsettles.value_discover]

theorem of_settles (h : Loyal lex) (hsettles : Settles lex settled) : Loyal settled := by
  have hdiscover := h.discover
  rwa [hsettles.value_discover] at hdiscover

theorem leaves (h : Loyal lex) (hleaves : Leaves lex op next) (hop : ¬lex.Renames op) :
    Loyal next := by
  cases hleaves with
  | kept => exact h
  | bound hbind =>
      have hbinds := binds_of_bind hbind
      refine ⟨fun b => (isMade_of_loaded hbinds.loaded).2 (h.made b),
        h.ownNames.of_labels (labels_of_bind hbind), fun hnext b => ?_⟩
      rw [hbinds.discovered] at hnext
      exact hbinds.kind?_of_some (h.kind?_keyword hnext b)
  | @adopted name k next hadopt =>
      have hadopts := adopts_of_adopt hadopt
      refine ⟨fun b => (isMade_of_loaded hadopts.loaded).2 (h.made b), fun b => ?_,
        fun hnext b => ?_⟩
      · rw [hadopts.label?]
        by_cases hb : Kind.builtin b = k
        · -- The kind is built in, and the operation does not rename it.
          have hname : capitals name = b.keyword := by
            subst hb
            exact Classical.not_not.1 fun hne => hop ⟨name, b, next, rfl, hadopt, hne⟩
          rw [if_pos hb, hname]
        · rw [if_neg hb]
          exact h.ownNames b
      · rw [hadopts.discovered] at hnext
        exact hadopts.kind?_of_some (h.kind?_keyword hnext b)
  | discovered => exact h.discover
  | cleared =>
      refine ⟨h.made, h.ownNames, fun hnext => ?_⟩
      cases hnext

end Loyal

theorem Reached.loyal [Routines] (h : Reached lex) : Loyal lex := by
  induction h with
  | start => exact loyal_initial
  | next h op hop ih => exact ih.leaves (leaves_after _ op) hop

/-! ## Built-in kinds at home -/

/-- Holds of a lexicon in which no built-in kind has the keyword of another one. -/
def AtHome (lex : Lexicon) : Prop :=
  ∀ b c : Builtin, lex.kind? c.keyword = some (.builtin b) → b = c

/-- Holds of an operation that binds no built-in kind to the keyword of another one and adopts
none under a name that is not its own. -/
def Operation.IsProper : Operation → Prop
  | .bind name k => ∀ b c : Builtin, k = .builtin b → capitals name = c.keyword → b = c
  | .adopt name k => ∀ b : Builtin, k = .builtin b → capitals name = b.keyword
  | _ => True

theorem Operation.IsProper.not_renames (h : op.IsProper) : ¬lex.Renames op := by
  rintro ⟨name, b, next, rfl, -, hne⟩
  exact hne (h b rfl)

namespace AtHome

theorem claimAll (h : AtHome lex) (bs : List Builtin) : AtHome (lex.claimAll bs) := by
  intro b c hc
  rcases kind?_claimAll_iff.1 hc with hc | ⟨-, d, -, hcd, hbd⟩
  · exact h b c hc
  · cases hbd
    exact (Builtin.eq_of_keyword_eq hcd).symm

theorem discover (h : AtHome lex) (hnames : OwnNames lex) : AtHome lex.discover.value.1 := by
  obtain ⟨bs, hbs⟩ := kind?_discover hnames
  intro b c hc
  rw [hbs] at hc
  exact h.claimAll bs b c hc

theorem binds {name : Text} (h : AtHome lex) (hbinds : Binds lex name k next)
    (hproper : ∀ b c : Builtin, k = .builtin b → capitals name = c.keyword → b = c) :
    AtHome next := by
  intro b c hc
  rcases hbinds.eq_or_kind? hc with ⟨hname, hk⟩ | hc
  · exact hproper b c hk.symm hname.symm
  · exact h b c hc

theorem leaves (h : AtHome lex) (hnames : OwnNames lex) (hleaves : Leaves lex op next)
    (hop : op.IsProper) : AtHome next := by
  cases hleaves with
  | kept => exact h
  | bound hbind => exact h.binds (binds_of_bind hbind) hop
  | adopted hadopt =>
      apply h.binds (adopts_of_adopt hadopt).toBinds
      intro b c hk hname
      exact Builtin.eq_of_keyword_eq ((hop b hk).symm.trans hname)
  | discovered => exact h.discover hnames
  | cleared =>
      intro b c hc
      cases hc

end AtHome

/-! ## Look-ups of built-in keywords -/

/-- Whatever is done with a lexicon, if no built-in kind is given another name: once the
lexicon has been discovered every built-in kind has its own keyword.  A word that spells such
a keyword in any way is then answered by the built-in kind, and a line that begins with it by a
command of that kind.  Before discovery the answer may also be that a keyword is taken, if
another kind has taken one. -/
theorem builtin_keywords_keep_their_kinds [Routines] (h : Reached lex) :
    (lex.discovered = true → ∀ b : Builtin, lex.kind? b.keyword = some (.builtin b)) ∧
      ∀ (b : Builtin) (w : Text), capitals w = b.keyword →
        ((lex.find? w).value.2 = .ok (some (.builtin b)) ∧
          ∀ ws, (lex.summon (w :: ws)).value.2 = .ok (.ofBuiltin b (w :: ws))) ∨
        ∃ c k, lex.discovered = false ∧ lex.kind? c.keyword = some k ∧ k ≠ .builtin c ∧
          (lex.find? w).value.2 = .error (.keywordTaken c.keyword k.title c.title) ∧
          ∀ ws, (lex.summon (w :: ws)).value.2 =
            .error (.keywordTaken c.keyword k.title c.title) := by
  have hlex := h.loyal
  refine ⟨hlex.kind?_keyword, fun b w hw => ?_⟩
  by_cases hblocked : lex.Blocked
  · obtain ⟨-, c, k, hrival, hfault⟩ := hlex.exists_fault hblocked
    obtain ⟨hk, hne⟩ := rival?_eq_some_iff.1 hrival
    exact .inr ⟨c, k, hblocked.1, hk, hne (hlex.made c), value_afterDiscovery_of_fault hfault _,
      fun ws => value_afterDiscovery_of_fault hfault _⟩
  · obtain ⟨settled, hsettles, hsettled⟩ := hlex.exists_settles hblocked
    have hkind : settled.kind? (capitals w) = some (.builtin b) := by
      rw [hw]
      exact hsettled.kind?_keyword hsettles.discovered b
    refine .inl ⟨?_, fun ws => ?_⟩
    · rw [find?, hsettles.value_afterDiscovery, hkind]
      rfl
    · rw [hsettled.ownNames.value_summon hsettles hkind]

def walker : Kind :=
  .custom ⟨"Walker".toList, .keyword, none, none, none,
    some (.succeed "Walking.".toList none)⟩

theorem walker_ne_builtin (b : Builtin) : walker ≠ .builtin b := by
  simp [walker]

/-- Between clearing and discovery the keyword of steps is taken.  From then on no built-in
keyword is answered, here one that is spelt with a dotless letter, until the bindings are cleared
again. -/
theorem builtin_keywords_keep_their_kinds_taken :
    ∃ lex, Reached lex ∧ lex.kind? "MOVE".toList = some walker ∧
      capitals "r\u0131ght".toList = Builtin.keyword .right ∧
      (lex.find? "r\u0131ght".toList).value.2 =
        .error (.keywordTaken "MOVE".toList "Walker".toList "MoveCommand".toList) ∧
      ∀ ws, ∃ fault, (lex.summon ("r\u0131ght".toList :: ws)).value.2 = .error fault := by
  have hclear : ¬initial.Renames .clear := by
    rintro ⟨name, b, next, hop, -, -⟩
    cases hop
  have hadopt : ¬initial.clear.value.Renames (.adopt "move".toList walker) := by
    rintro ⟨name, b, next, hop, -, -⟩
    injection hop with _ hb
    exact walker_ne_builtin b hb
  have hreached := (Reached.start.next .clear hclear).next (.adopt "move".toList walker) hadopt
  have hw : capitals "r\u0131ght".toList = Builtin.keyword .right := by decide +kernel
  refine ⟨_, hreached, rfl, hw, rfl, fun ws => ?_⟩
  rcases (builtin_keywords_keep_their_kinds hreached).2 .right _ hw with
    ⟨hfind, -⟩ | ⟨c, k, -, -, -, -, hsummon⟩
  · cases hfind
  · exact ⟨_, hsummon ws⟩

end TableRobot.Lexicon
