import TableRobot.Proofs.Interpreter.Refinement
/-!
# Tables of different size

The size of the table enters an answer in two places only: where a placement is
held against the table and where a step is.  Texts on a table and on a larger
one therefore do the same, until one of them meets the bounds of the smaller
table.  Tables beyond the machine word make no exception, since a step is
admitted as far as the word reaches.
-/

namespace TableRobot

open Text (capitals isAllBlank trim)

def Outcome.IsOutOfBounds (o : Outcome) : Prop :=
  o = .refused .outsideTable ∨ o = .refused .wouldFall

namespace Reference

variable {size larger : Int}

/-! ## One text -/

theorem place_of_le (h : size ≤ larger) (r : Robot) (p : Placement) :
    (place size r p).2.IsOutOfBounds ∨ place size r p = place larger r p := by
  unfold place
  split
  · next x y _ _ =>
      by_cases htable : Cell.OnTable ⟨x, y⟩ size
      · have hlarger : Cell.OnTable ⟨x, y⟩ larger := htable.of_le h
        right
        rw [if_pos htable, if_pos hlarger]
      · left
        rw [if_neg htable]
        exact .inl rfl
  · exact .inr rfl

theorem move_of_le (h : size ≤ larger) (r : Robot) :
    (move size r).2.IsOutOfBounds ∨ move size r = move larger r := by
  unfold move
  by_cases htable : (r.cell.ahead r.facing).OnTable (reach size)
  · have hlarger : (r.cell.ahead r.facing).OnTable (reach larger) :=
      htable.of_le (reach_le_reach h)
    right
    rw [if_pos htable, if_pos hlarger]
  · left
    rw [if_neg htable]
    exact .inr rfl

theorem obey_of_le (h : size ≤ larger) (r : Robot) (keyword : Text) :
    (obey size r keyword).2.IsOutOfBounds ∨ obey size r keyword = obey larger r keyword := by
  unfold obey
  split
  · exact move_of_le h r
  · exact .inr rfl

theorem answer_of_le (h : size ≤ larger) (r : Robot) (cmd : Text) :
    (answer size r cmd).2.IsOutOfBounds ∨ answer size r cmd = answer larger r cmd := by
  unfold answer
  split
  · next p _ => exact place_of_le h r p
  · split
    · exact obey_of_le h r (capitals cmd)
    · exact .inr rfl

theorem respond_of_le (h : size ≤ larger) (r : Robot) (raw : Option Text) :
    (respond size r raw).2.IsOutOfBounds ∨ respond size r raw = respond larger r raw := by
  cases raw with
  | none => exact .inr rfl
  | some t =>
      cases hblank : isAllBlank t with
      | true =>
          right
          simp only [respond, hblank, if_true]
      | false =>
          simp only [respond, hblank, Bool.false_eq_true, if_false]
          exact answer_of_le h r (trim t)

/-! ## Many texts -/

theorem length_respondAll (size : Int) (r : Robot) (raws : List (Option Text)) :
    (respondAll size r raws).2.length = raws.length := by
  induction raws generalizing r with
  | nil => rfl
  | cons raw raws ih =>
      rw [respondAll, List.length_cons, List.length_cons, ih]

/-- Up to the first text that is refused for the bounds of the smaller table the outcomes are
the same, and so are the robots that the texts lead to. -/
theorem respondAll_of_le (h : size ≤ larger) (r : Robot) (raws : List (Option Text)) (n : Nat)
    (hbounds : ∀ o ∈ (respondAll size r raws).2.take n, ¬o.IsOutOfBounds) :
    (respondAll size r raws).2.take n = (respondAll larger r raws).2.take n ∧
      (respondAll size r (raws.take n)).1 = (respondAll larger r (raws.take n)).1 := by
  induction raws generalizing r n with
  | nil => exact ⟨rfl, by rw [List.take_nil]; rfl⟩
  | cons raw raws ih =>
      cases n with
      | zero => exact ⟨rfl, rfl⟩
      | succ n =>
          simp only [respondAll, List.take_succ_cons, List.mem_cons, forall_eq_or_imp]
            at hbounds ⊢
          obtain ⟨hfirst, hrest⟩ := hbounds
          have hsame : respond size r raw = respond larger r raw :=
            (respond_of_le h r raw).resolve_left hfirst
          rw [hsame] at hrest ⊢
          obtain ⟨houtcomes, hrobot⟩ := ih (respond larger r raw).1 n hrest
          exact ⟨by rw [houtcomes], hrobot⟩

end Reference

namespace Interpreter

section

variable {size larger : Int} [Routines]

/-- The same texts on a table and on a larger one, from the start: up to the first outcome on the
smaller table that refuses a command for the bounds, the outcomes are the same and so are the
robots after each text.  If there is no such outcome the runs are the same to their ends. -/
theorem larger_tables_agree_up_to_bounds (hsize : 1 ≤ size) (h : size ≤ larger)
    (raws : List (Option Text)) :
    ∃ i j, (new .initial size).value = (.initial, .ok i) ∧
      (new .initial larger).value = (.initial, .ok j) ∧
      (∀ n, (∀ o ∈ (i.processAll .initial raws).value.2.2.take n, ¬o.IsOutOfBounds) →
        (i.processAll .initial raws).value.2.2.take n =
            (j.processAll .initial raws).value.2.2.take n ∧
          (i.processAll .initial (raws.take n)).value.2.1.robot =
            (j.processAll .initial (raws.take n)).value.2.1.robot) ∧
      ((∀ o ∈ (i.processAll .initial raws).value.2.2, ¬o.IsOutOfBounds) →
        (i.processAll .initial raws).value.2.2 = (j.processAll .initial raws).value.2.2 ∧
          (i.processAll .initial raws).value.2.1.robot =
            (j.processAll .initial raws).value.2.1.robot) := by
  have hlawful : ∀ size, Reference.Lawful size .initial := fun size => .inl rfl
  have hagree := Reference.respondAll_of_le h .initial raws
  refine ⟨_, _, new_initial hsize, new_initial (by omega), fun n hbounds => ?_, fun hbounds => ?_⟩
  · simp only [processAll_standard (hlawful _)] at hbounds ⊢
    exact hagree n hbounds
  · simp only [processAll_standard (hlawful _)] at hbounds ⊢
    have hall := hagree raws.length fun o ho => hbounds o (List.mem_of_mem_take ho)
    have hlength := Reference.length_respondAll size .initial raws
    have hlength' := Reference.length_respondAll larger .initial raws
    rw [List.take_length, List.take_of_length_le (by omega),
      List.take_of_length_le (by omega)] at hall
    exact hall

end

/-- The second text meets the bounds of the smaller table.  Up to there a table larger than the
word gives the same outcome and the same robot. -/
theorem larger_tables_agree_up_to_bounds_at_edge :
    (1 : Int) ≤ 2 ∧ (2 : Int) ≤ 9223372036854775810 ∧ ∃ i j : Interpreter,
      (new .initial 2).value = (.initial, .ok i) ∧
      (new .initial 9223372036854775810).value = (.initial, .ok j) ∧
      (i.processAll .initial [some "PLACE 1,1,EAST".toList, some "MOVE".toList]).value.2.2 =
        [.placed ⟨1, 1⟩ .east, .refused .wouldFall] ∧
      (j.processAll .initial [some "PLACE 1,1,EAST".toList, some "MOVE".toList]).value.2.2.take 1 =
        [.placed ⟨1, 1⟩ .east] ∧
      (j.processAll .initial [some "PLACE 1,1,EAST".toList]).value.2.1.robot =
        ⟨true, ⟨1, 1⟩, .east⟩ := by
  obtain ⟨i, j, hi, hj, hupto, -⟩ := larger_tables_agree_up_to_bounds (show (1 : Int) ≤ 2 by decide)
    (show (2 : Int) ≤ 9223372036854775810 by decide)
    [some "PLACE 1,1,EAST".toList, some "MOVE".toList]
  have hstandard : i = standard 2 .initial := by
    have h := hi.symm.trans (new_initial (by decide))
    exact Except.ok.inj (Prod.mk.inj h).2
  have houtcomes :
      (i.processAll .initial [some "PLACE 1,1,EAST".toList, some "MOVE".toList]).value.2.2 =
        [.placed ⟨1, 1⟩ .east, .refused .wouldFall] := by
    rw [hstandard]
    decide +kernel
  have hrobot : (i.processAll .initial [some "PLACE 1,1,EAST".toList]).value.2.1.robot =
      ⟨true, ⟨1, 1⟩, .east⟩ := by
    rw [hstandard]
    decide +kernel
  have hfirst := hupto 1 (by
    rw [houtcomes]
    unfold Outcome.IsOutOfBounds
    decide +kernel)
  rw [houtcomes] at hfirst
  refine ⟨by decide, by decide, i, j, hi, hj, houtcomes, hfirst.1.symm, ?_⟩
  exact hfirst.2.symm.trans hrobot

end Interpreter

end TableRobot
