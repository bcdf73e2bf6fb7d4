import TableRobot.Proofs.Interpreter.Reachable
/-!
# Walks can be retraced

A walk is a row of steps and turns that the robot obeys one after the other.
Its way back is the walk from its end to its start with left and right
exchanged, between two about-turns.  A step that has been taken can be taken
back by a robot that looks the other way: the cell it came from is on the table.
-/

namespace TableRobot

/-- A part of a walk: a step ahead or a turn on the spot. -/
inductive Pace where
  | step
  | left
  | right
  deriving DecidableEq, Repr

namespace Pace

def builtin : Pace → Builtin
  | step => .move
  | left => .left
  | right => .right

def inputs (walk : List Pace) : List (Option Text) := walk.map fun p => some p.builtin.keyword

def mirrored : Pace → Pace
  | step => step
  | left => right
  | right => left

def wayBack (walk : List Pace) : List Pace :=
  [left, left] ++ walk.reverse.map mirrored ++ [right, right]

theorem inputs_cons (p : Pace) (walk : List Pace) :
    inputs (p :: walk) = some p.builtin.keyword :: inputs walk := rfl

theorem builtin_ne_place (p : Pace) : p.builtin ≠ .place := by
  cases p <;> decide

end Pace

namespace Facing

def opposite (f : Facing) : Facing := f.turnedLeft.turnedLeft

theorem opposite_turnedRight (f : Facing) : f.turnedRight.opposite = f.opposite.turnedRight := by
  cases f <;> rfl

theorem opposite_turnedLeft (f : Facing) : f.turnedLeft.opposite = f.opposite.turnedLeft := rfl

theorem turnedRight_turnedRight_opposite (f : Facing) :
    f.opposite.turnedRight.turnedRight = f := by
  rw [opposite, turnedRight_turnedLeft, turnedRight_turnedLeft]

end Facing

theorem Cell.ahead_ahead_opposite (c : Cell) (f : Facing) : (c.ahead f).ahead f.opposite = c := by
  cases f <;> simp [ahead, Facing.opposite, Facing.turnedLeft]

def Robot.facingAbout (r : Robot) : Robot := r.turnedTo r.facing.opposite

namespace Reference

variable {size : Int} {r s : Robot}

/-- The robot after a pace; none if it does not obey. -/
def paced? (size : Int) (r : Robot) : Pace → Option Robot
  | .step =>
      if (r.cell.ahead r.facing).OnTable (reach size) then
        some (r.movedTo (r.cell.ahead r.facing))
      else none
  | .left => some (r.turnedTo r.facing.turnedLeft)
  | .right => some (r.turnedTo r.facing.turnedRight)

def walked? (size : Int) (r : Robot) (walk : List Pace) : Option Robot :=
  walk.foldlM (paced? size) r

/-! ## Paces as commands -/

theorem obey_pace (size : Int) (r : Robot) (p : Pace) :
    (obey size r p.builtin.keyword).1 = (paced? size r p).getD r ∧
      (obey size r p.builtin.keyword).2.success = (paced? size r p).isSome := by
  cases p with
  | step =>
      have hobey : obey size r Pace.step.builtin.keyword = move size r := rfl
      rw [hobey, move, paced?]
      split
      · exact ⟨rfl, rfl⟩
      · exact ⟨rfl, rfl⟩
  | left => exact ⟨rfl, rfl⟩
  | right => exact ⟨rfl, rfl⟩

theorem Stands.paced? {p : Pace} (h : Stands size r) (hp : paced? size r p = some s) :
    Stands size s := by
  cases p with
  | step =>
      rw [Reference.paced?, Option.ite_none_right_eq_some] at hp
      obtain ⟨hahead, hs⟩ := hp
      obtain rfl := Option.some.inj hs
      exact ⟨h.1, hahead⟩
  | left =>
      obtain rfl := Option.some.inj hp
      exact h
  | right =>
      obtain rfl := Option.some.inj hp
      exact h

/-- The robot obeys all commands of a walk exactly if the walk leads somewhere, and there it
ends. -/
theorem respondAll_inputs (h : Stands size r) (walk : List Pace) :
    ((∀ o ∈ (respondAll size r (Pace.inputs walk)).2, o.success = true) ↔
        (walked? size r walk).isSome = true) ∧
      ∀ s, walked? size r walk = some s → (respondAll size r (Pace.inputs walk)).1 = s := by
  induction walk generalizing r with
  | nil =>
      refine ⟨by simp [Pace.inputs, respondAll, walked?], fun s hs => ?_⟩
      exact Option.some.inj hs
  | cons p walk ih =>
      obtain ⟨hrobot, hsuccess⟩ := obey_pace size r p
      have hstep : walked? size r (p :: walk) =
          (Reference.paced? size r p).bind fun s => walked? size s walk := rfl
      rw [hstep]
      simp only [Pace.inputs_cons, respondAll, List.forall_mem_cons,
        respond_keyword h.1 p.builtin_ne_place, hrobot, hsuccess]
      cases hp : Reference.paced? size r p with
      | none => simp
      | some next => simpa using ih (h.paced? hp)

/-! ## The way back -/

/-- A pace is undone by its mirrored pace of a robot that looks the other way. -/
theorem paced?_mirrored {p : Pace} (h : Stands size r) (hp : paced? size r p = some s) :
    paced? size s.facingAbout p.mirrored = some r.facingAbout := by
  cases p with
  | step =>
      rw [paced?, Option.ite_none_right_eq_some] at hp
      obtain rfl := Option.some.inj hp.2
      have hback := r.cell.ahead_ahead_opposite r.facing
      simp only [Pace.mirrored, paced?, Robot.facingAbout, Robot.turnedTo, Robot.movedTo, hback,
        h.2, if_true]
  | left =>
      obtain rfl := Option.some.inj hp
      simp only [Pace.mirrored, paced?, Robot.facingAbout, Robot.turnedTo,
        Facing.opposite_turnedLeft, Facing.turnedRight_turnedLeft]
  | right =>
      obtain rfl := Option.some.inj hp
      simp only [Pace.mirrored, paced?, Robot.facingAbout, Robot.turnedTo,
        Facing.opposite_turnedRight, Facing.turnedLeft_turnedRight]

theorem walked?_append (walk more : List Pace) :
    walked? size r (walk ++ more) = (walked? size r walk).bind fun s => walked? size s more :=
  List.foldlM_append

theorem walked?_mirrored {walk : List Pace} (h : Stands size r)
    (hw : walked? size r walk = some s) :
    walked? size s.facingAbout (walk.reverse.map Pace.mirrored) = some r.facingAbout := by
  induction walk generalizing r with
  | nil =>
      obtain rfl := Option.some.inj hw
      rfl
  | cons p walk ih =>
      obtain ⟨next, hp, hnext⟩ := Option.bind_eq_some_iff.1 hw
      calc walked? size s.facingAbout ((p :: walk).reverse.map Pace.mirrored)
        _ = walked? size s.facingAbout (walk.reverse.map Pace.mirrored ++ [p.mirrored]) := by
            rw [List.reverse_cons, List.map_append, List.map_singleton]
        _ = walked? size next.facingAbout [p.mirrored] := by
            rw [walked?_append, ih (h.paced? hp) hnext, Option.bind_some]
        _ = some r.facingAbout := by
            rw [walked?, List.foldlM_cons, paced?_mirrored h hp]
            rfl

theorem walked?_left_left (r : Robot) :
    walked? size r [.left, .left] = some r.facingAbout := rfl

theorem walked?_right_right (r : Robot) :
    walked? size r.facingAbout [.right, .right] = some r := by
  have hturn : walked? size r.facingAbout [.right, .right] =
      some (r.turnedTo r.facing.opposite.turnedRight.turnedRight) := rfl
  rw [hturn, Facing.turnedRight_turnedRight_opposite]
  rfl

theorem walked?_wayBack {walk : List Pace} (h : Stands size r)
    (hw : walked? size r walk = some s) : walked? size s (Pace.wayBack walk) = some r := by
  calc walked? size s (Pace.wayBack walk)
    _ = walked? size s.facingAbout (walk.reverse.map Pace.mirrored ++ [.right, .right]) := by
        rw [Pace.wayBack, List.append_assoc, walked?_append, walked?_left_left, Option.bind_some]
    _ = walked? size r.facingAbout [.right, .right] := by
        rw [walked?_append, walked?_mirrored h hw, Option.bind_some]
    _ = some r := walked?_right_right r

theorem Stands.walked? {walk : List Pace} (h : Stands size r)
    (hw : walked? size r walk = some s) : Stands size s := by
  induction walk generalizing r with
  | nil =>
      obtain rfl := Option.some.inj hw
      exact h
  | cons p walk ih =>
      obtain ⟨next, hp, hnext⟩ := Option.bind_eq_some_iff.1 hw
      exact ih (h.paced? hp) hnext

end Reference

open Reference

namespace Interpreter

/-- A walk of a placed robot, at any point of a run, that obeys each pace can be retraced: on
the way back the robot obeys each pace again, and it ends where the walk started, with the same
facing and with nothing else of the interpreter changed. -/
theorem walks_can_be_retraced [Routines] {size : Int} (hsize : 1 ≤ size) {lex : Lexicon}
    {i : Interpreter} (hreach : Reachable size lex i) (hplaced : i.robot.placed = true)
    (walk : List Pace)
    (hwalk : ∀ o ∈ (i.processAll lex (Pace.inputs walk)).value.2.2, o.success = true) :
    let there := (i.processAll lex (Pace.inputs walk)).value
    let back := (there.2.1.processAll there.1 (Pace.inputs (Pace.wayBack walk))).value
    back.1 = lex ∧ back.2.1 = i ∧ ∀ o ∈ back.2.2, o.success = true := by
  obtain ⟨rfl, r, rfl, hr⟩ := hreach.exists_lawful hsize
  have hstands : Stands size r := hr.stands hplaced
  obtain ⟨hobeys, hends⟩ := respondAll_inputs hstands walk
  rw [processAll_standard hr] at hwalk ⊢
  obtain ⟨s, hs⟩ := Option.isSome_iff_exists.1 (hobeys.1 hwalk)
  have hback := walked?_wayBack hstands hs
  obtain ⟨hobeysBack, hendsBack⟩ := respondAll_inputs (hstands.walked? hs) (Pace.wayBack walk)
  simp only [hends s hs, processAll_standard (.inr (hstands.walked? hs)), hendsBack r hback]
  exact ⟨trivial, trivial, hobeysBack.2 (by rw [hback]; rfl)⟩

/-- A walk that ends in the last column that the machine word counts, on a table larger than
the word, and its way back. -/
theorem walks_can_be_retraced_at_word_end :
    let walk : List Pace := [.step, .right, .step, .left, .left]
    let i := standard 9223372036854775810 ⟨true, ⟨9223372036854775806, 3⟩, .east⟩
    let j := standard 9223372036854775810 ⟨true, ⟨9223372036854775807, 2⟩, .north⟩
    let back := (j.processAll .initial (Pace.inputs
      [.left, .left, .right, .right, .step, .left, .step, .right, .right])).value
    (1 : Int) ≤ 9223372036854775810 ∧ Reachable 9223372036854775810 .initial i ∧
      i.robot.placed = true ∧
      (∀ o ∈ (i.processAll .initial (Pace.inputs walk)).value.2.2, o.success = true) ∧
      (i.processAll .initial (Pace.inputs walk)).value.2.1 = j ∧
      back.2.1 = i ∧ ∀ o ∈ back.2.2, o.success = true := by
  intro walk i j back
  have hsize : (1 : Int) ≤ 9223372036854775810 := by decide
  have hreach : Reachable 9223372036854775810 .initial i :=
    reachable_standard hsize (.inr ⟨rfl, by decide⟩)
  have hstands : Stands 9223372036854775810 i.robot := ⟨rfl, by decide⟩
  have hend : walked? 9223372036854775810 i.robot walk = some j.robot := by decide
  obtain ⟨hobeys, hends⟩ := respondAll_inputs hstands walk
  have hthere := processAll_standard (.inr hstands) (Pace.inputs walk)
  rw [hends _ hend] at hthere
  change (i.processAll .initial (Pace.inputs walk)).value = (.initial, j, _) at hthere
  have hwalk : ∀ o ∈ (i.processAll .initial (Pace.inputs walk)).value.2.2, o.success = true := by
    rw [hthere]
    exact hobeys.2 (by rw [hend]; rfl)
  have hway : Pace.wayBack walk =
      [.left, .left, .right, .right, .step, .left, .step, .right, .right] := rfl
  have hback := (walks_can_be_retraced hsize hreach rfl walk hwalk).2
  simp only [hthere, hway] at hback
  exact ⟨hsize, hreach, rfl, hwalk, by rw [hthere], hback⟩

end Interpreter

end TableRobot
