import TableRobot.Command.Basic
/-!
# Single-word commands

A command of most kinds is matched by its name: the line has to be that one
word.  What it does when it is executed is the action of its kind, and nothing
of the line is left by then.
-/

namespace TableRobot

open Text (capitals)

/-- Holds of the kinds that are matched by name and their actions: the built-in ones except
placements, and described ones that derive a matching by name and keep it. -/
inductive Kind.IsSingleWord : Kind → Action → Prop where
  | builtin {b : Builtin} (hb : b ≠ .place) : IsSingleWord (.builtin b) (.builtin b)
  | custom {c : Custom} {a : Action} (hparent : c.parent.matching = .keyword)
      (hmatching : c.matching? = none) (harguments : (Kind.custom c).takesArguments = false)
      (haction : c.action?.or c.parent.action? = some a) : IsSingleWord (.custom c) a

namespace Command

def single (k : Kind) (a : Action) (name : Text) : Command where
  kind := k
  name := name
  matching := .keyword
  action := a
  valid := true
  complaint := some []
  tableSize := unboundTableSize
  x? := none
  y? := none
  facing? := none
  memo := []

end Command

namespace Kind.IsSingleWord

variable {k : Kind} {a : Action}

theorem takesArguments (h : k.IsSingleWord a) : k.takesArguments = false := by
  cases h with
  | @builtin b hb =>
      cases b with
      | place => exact absurd rfl hb
      | move => rfl
      | left => rfl
      | right => rfl
      | report => rfl
  | custom hparent hmatching harguments haction => exact harguments

theorem new (h : k.IsSingleWord a) (name : Text) :
    Command.new k name = .ok (.single k a name) := by
  cases h with
  | @builtin b hb =>
      cases b with
      | place => exact absurd rfl hb
      | move => rfl
      | left => rfl
      | right => rfl
      | report => rfl
  | custom hparent hmatching harguments haction =>
      unfold Command.new
      simp only [haction, hmatching, Option.getD_none, hparent]
      rfl

end Kind.IsSingleWord

/-- Only the name is accepted, in any case; any other word is declined without a reason. -/
theorem Command.attempt_single [Routines] (k : Kind) (a : Action) (name w : Text) :
    (single k a name).attempt [w] =
      (single k a name, if capitals w = name then .accepted else .declined none) := by
  have hexamine : (single k a name).examine [w] =
      (single k a name, (single k a name).examineKeyword [w]) := rfl
  have hname : (single k a name).name = name := rfl
  rw [attempt, hexamine, examineKeyword, hname]
  by_cases hw : capitals w = name
  · rw [if_neg (not_not_intro hw), if_pos hw]
    rfl
  · rw [if_pos hw, if_neg hw]

end TableRobot
