import TableRobot.Command.Basic
import TableRobot.Text.Order
/-!
# The lexicon

The lexicon binds keywords to kinds of commands. A keyword is kept in capitals
and belongs to the first kind that was bound to it until the lexicon is
cleared. Kinds that were adopted under a name carry it as their label; the
others inherit the label of their parent. A cleared lexicon discovers the
built-in kinds again at the first look-up, under the labels that they carry
then, and a conflict ends the discovery half-way. The kinds of a group are made
when the group is loaded; a load that a conflict ends is done over at the next
discovery, and what it had bound is in the way of the kinds that are made then.
-/

namespace TableRobot

open Text (capitals)

/-- The built-in kinds are made and discovered in groups. -/
inductive Group where
  | basic
  | motion
  | query
  deriving DecidableEq, Repr

namespace Group

def all : List Group := [basic, motion, query]

def name : Group → Text
  | basic => "robotsim.commands.basic_commands".toList
  | motion => "robotsim.commands.motion_commands".toList
  | query => "robotsim.commands.query_commands".toList

def kinds : Group → List Builtin
  | basic => [.place]
  | motion => [.move, .left, .right]
  | query => [.report]

theorem kinds_all : all.flatMap kinds = Builtin.all := rfl

end Group

/-- Which keyword means which kind, under which labels kinds are known, whether the
built-in kinds have been discovered, and which groups of them have been loaded. -/
structure Lexicon where
  bindings : List (Text × Kind)
  labels : List (Kind × Text)
  discovered : Bool
  loaded : List Group
  deriving DecidableEq, Repr

namespace Lexicon

/-- The lexicon at the start: the built-in kinds under their own keywords. -/
def initial : Lexicon where
  bindings := Builtin.all.map fun b => (b.keyword, .builtin b)
  labels := Builtin.all.map fun b => (.builtin b, b.keyword)
  discovered := true
  loaded := Group.all

/-- The lexicon before any group is loaded. The built-in kinds have yet to be made; they
are made with the labels that are written here. -/
def blank : Lexicon where
  bindings := []
  labels := initial.labels
  discovered := false
  loaded := []

/-! ## Names -/

/-- The label of a kind: its own, else that of its parent, else the empty text. -/
def label (lex : Lexicon) (k : Kind) : Text :=
  match lex.labels.lookup k with
  | some l => l
  | none => (k.parent?.bind fun b => lex.labels.lookup (.builtin b)).getD []

/-- The label that a kind shows when it is asked for; an outsider has none. -/
def shownLabel (lex : Lexicon) (k : Kind) : Except Fault Text :=
  if k.isCommand then .ok (lex.label k)
  else .error (.missing k.title "_registered_name".toList)

/-- The name that commands of a kind go by: the label, or the title if it is empty. -/
def nameOf (lex : Lexicon) (k : Kind) : Text :=
  let l := lex.label k
  if l = [] then k.title else l

def kind? (lex : Lexicon) (key : Text) : Option Kind := lex.bindings.lookup key

theorem mem_of_lookup {α β : Type} [BEq α] [LawfulBEq α] {entries : List (α × β)} {a : α} {b : β}
    (h : entries.lookup a = some b) : (a, b) ∈ entries := by
  obtain ⟨front, back, rfl, -⟩ := List.lookup_eq_some_iff.1 h
  exact List.mem_append_right front List.mem_cons_self

def newCommand (lex : Lexicon) (k : Kind) : Except Fault Command :=
  Command.new k (lex.nameOf k)

/-! ## Binding -/

def bound (lex : Lexicon) (key : Text) (k : Kind) : Lexicon :=
  { lex with bindings := lex.bindings ++ [(key, k)] }

/-- Binds a keyword to a kind. A keyword that another kind holds is taken; to bind the
same kind again changes nothing. -/
def bind (lex : Lexicon) (name : Text) (k : Kind) : Logged (Except Fault Lexicon) :=
  let key := capitals name
  match lex.kind? key with
  | some holder =>
      if holder = k then pure (.ok lex)
      else pure (.error (.keywordTaken key holder.title k.title))
  | none => do
      Logged.tell (.bound key k.title)
      pure (.ok (lex.bound key k))

/-- The lexicon in which the kind carries the label. -/
def labelled (lex : Lexicon) (k : Kind) (l : Text) : Lexicon :=
  { lex with labels := (k, l) :: lex.labels.filter (·.1 != k) }

/-- Adopts a kind of command under a name: binds the keyword and sets the label. -/
def adopt (lex : Lexicon) (name : Text) (k : Kind) : Logged (Except Fault Lexicon) :=
  if k.isCommand then do
    match ← lex.bind name k with
    | .ok lex => pure (.ok (lex.labelled k (capitals name)))
    | .error fault => pure (.error fault)
  else pure (.error (.notACommand k.title))

/-- The lexicon without bindings; labels stay. -/
def clear (lex : Lexicon) : Logged Lexicon := do
  Logged.tell .cleared
  pure { lex with bindings := [], discovered := false }

/-! ## Discovery -/

/-- Makes built-in kinds and binds them under their keywords until one is taken. The kinds
are new, so a keyword is taken also by one that was made in their place before. -/
def makeAll (lex : Lexicon) : List Builtin → Logged (Lexicon × Except Fault Unit)
  | [] => pure (lex, .ok ())
  | b :: bs =>
      match lex.kind? b.keyword with
      | some holder => pure (lex, .error (.keywordTaken b.keyword holder.title b.title))
      | none => do
          Logged.tell (.bound b.keyword b.title)
          makeAll (lex.bound b.keyword (.builtin b)) bs

/-- Loads a group unless that has been done. A conflict leaves what was bound before it,
and the group stays unloaded. -/
def load (lex : Lexicon) (g : Group) : Logged (Lexicon × Except Fault Unit) :=
  if g ∈ lex.loaded then pure (lex, .ok ())
  else do
    match ← lex.makeAll g.kinds with
    | (lex, .ok ()) => pure ({ lex with loaded := lex.loaded ++ [g] }, .ok ())
    | (lex, .error fault) => pure (lex, .error fault)

/-- Binds built-in kinds under their labels until a keyword is taken; a kind whose
label is empty is left out. -/
def bindAll (lex : Lexicon) : List Builtin → Logged (Lexicon × Except Fault Unit)
  | [] => pure (lex, .ok ())
  | b :: bs =>
      let l := lex.label (.builtin b)
      if l = [] then bindAll lex bs
      else do
        match ← lex.bind l (.builtin b) with
        | .ok lex => bindAll lex bs
        | .error fault => pure (lex, .error fault)

/-- Loads a group and binds its kinds; those that the load itself has bound are bound
already. -/
def visit (lex : Lexicon) (g : Group) : Logged (Lexicon × Except Fault Unit) := do
  match ← lex.load g with
  | (lex, .ok ()) => do
      Logged.tell (.visited g.name)
      lex.bindAll g.kinds
  | (lex, .error fault) => pure (lex, .error fault)

def visitAll (lex : Lexicon) : List Group → Logged (Lexicon × Except Fault Unit)
  | [] => pure (lex, .ok ())
  | g :: gs => do
      match ← lex.visit g with
      | (lex, .ok ()) => visitAll lex gs
      | (lex, .error fault) => pure (lex, .error fault)

/-- Discovers the built-in kinds unless that has been done. A conflict leaves what was
bound before it, and the lexicon stays undiscovered. -/
def discover (lex : Lexicon) : Logged (Lexicon × Except Fault Unit) :=
  if lex.discovered then pure (lex, .ok ())
  else do
    Logged.tell .discovering
    match ← lex.visitAll Group.all with
    | (lex, .ok ()) =>
        Logged.tell (.discovered lex.bindings.length)
        pure ({ lex with discovered := true }, .ok ())
    | (lex, .error fault) => pure (lex, .error fault)

example : blank.discover.value = (initial, .ok ()) := rfl

/-! ## Look-up -/

/-- Discovers if needed and, if that succeeds, answers from the lexicon. -/
def afterDiscovery {α : Type} (lex : Lexicon) (answer : Lexicon → Logged (Except Fault α)) :
    Logged (Lexicon × Except Fault α) := do
  match ← lex.discover with
  | (lex, .ok ()) => do
      let a ← answer lex
      pure (lex, a)
  | (lex, .error fault) => pure (lex, .error fault)

def find? (lex : Lexicon) (word : Text) : Logged (Lexicon × Except Fault (Option Kind)) :=
  lex.afterDiscovery fun lex => pure (.ok (lex.kind? (capitals word)))

def sortedKeys (lex : Lexicon) : List Text :=
  Text.sorted (lex.bindings.map (·.1))

theorem mem_sortedKeys {lex : Lexicon} {w : Text} :
    w ∈ lex.sortedKeys ↔ ∃ k, lex.kind? w = some k := by
  rw [sortedKeys, Text.mem_sorted, List.mem_map]
  constructor
  · rintro ⟨e, he, rfl⟩
    exact Option.isSome_iff_exists.1 (List.lookup_isSome_iff.2 ⟨e, he, beq_self_eq_true e.1⟩)
  · rintro ⟨k, hk⟩
    exact ⟨(w, k), mem_of_lookup hk, rfl⟩

/-- All keywords in increasing order of code points. -/
def keywords (lex : Lexicon) : Logged (Lexicon × Except Fault (List Text)) :=
  lex.afterDiscovery fun lex => pure (.ok lex.sortedKeys)

/-- What a command line of separate words stands for. -/
inductive Summons where
  | unknown
  | declined (reason : Text)
  | command (c : Command)
  deriving DecidableEq, Repr

/-- What stands for a reason that is missing or empty. -/
def Summons.reason (given : Option Text) (default : Text) : Text :=
  match given with
  | none | some [] => default
  | some t => t

/-- Makes a command of the kind that the first word means and matches it. -/
def summonDiscovered [Routines] (lex : Lexicon) : List Text → Logged (Except Fault Summons)
  | [] => do
      Logged.tell .noParts
      pure (.ok .unknown)
  | w :: ws => do
      let name := capitals w
      Logged.tell (.matchStarted name (ws.length + 1))
      match lex.kind? name with
      | none => do
          Logged.tell (.matchUnknown name)
          pure (.ok .unknown)
      | some k =>
          match lex.newCommand k with
          | .error fault => pure (.error fault)
          | .ok c =>
              match c.attempt (w :: ws) with
              | (c, .accepted) => do
                  Logged.tell (.matchAccepted name)
                  pure (.ok (.command c))
              | (_, .declined reason) => do
                  Logged.tell (.matchDeclined name reason)
                  pure (.ok (.declined
                    (Summons.reason reason "Command validation failed".toList)))

/-- Makes the command that a line of separate words stands for. -/
def summon [Routines] (lex : Lexicon) (words : List Text) :
    Logged (Lexicon × Except Fault Summons) :=
  lex.afterDiscovery fun lex => lex.summonDiscovered words

end Lexicon

end TableRobot
