import TableRobot.Proofs.Interpreter.Reference
/-!
# Built-in commands agree with the reference

A built-in command that is made, matched against the words of its line, bound
to a table and executed does what the reference says of its keyword or its
placement.
-/

namespace TableRobot

open Numeral (coordinate? fitsWord fitsWord_of_coordinate? readCoordinate?)
open Text (capitals)
open Placement (capitals_keyword)
open Reference

namespace Command

def fresh (b : Builtin) : Command where
  kind := .builtin b
  name := b.keyword
  matching := (Parent.builtin b).matching
  action := .builtin b
  valid := true
  complaint := some []
  tableSize := unboundTableSize
  x? := none
  y? := none
  facing? := none
  memo := []

def placing (x y : Int) (facing : Option Text) : Command :=
  { fresh .place with x? := some x, y? := some y, facing? := facing }

theorem cellText_eq (c : Cell) : cellText c = c.text := by
  unfold cellText Cell.text
  rw [List.append_assoc]
  rfl

theorem reportText_eq (c : Cell) (f : Facing) :
    Report.text ⟨c, f⟩ = cellText c ++ ",".toList ++ f.name := by
  rw [cellText_eq, List.append_assoc]
  rfl

theorem put_eq (c : Cell) (f : Facing) : put c f = (⟨true, c, f⟩, .placed c f) := by
  rw [put, cellText_eq]
  rfl

theorem advance_eq (r : Robot) :
    advance r = (r.movedTo (r.cell.ahead r.facing), .moved (r.cell.ahead r.facing)) := by
  simp only [advance, cellText_eq]
  rfl

theorem tell_eq (r : Robot) : tell r = (r, .reported (Report.text ⟨r.cell, r.facing⟩)) := by
  rw [Reference.tell, ← reportText_eq]
  rfl

theorem read?_eq_facingSpelt? {word : Text} (h : Placement.isWord word = true) :
    Facing.read? word = facingSpelt? word := by
  have hletters : word.all Text.isLetter = true := by
    rw [Placement.isWord, Bool.and_eq_true] at h
    exact h.2
  rw [Facing.read?, (Placement.isToken_of_isWord h).trim_eq,
    Text.capitals_of_isAscii (Text.isAscii_of_all_isLetter hletters)]
  rfl

/-! ### Matching -/

theorem arity_of_parts (w x y : Text) (words : List Text) (h : words.length ≤ 1) :
    Arity.check (.between 3 4) Placement.keyword (w :: x :: y :: words) = .ok () := by
  have hadmits : (Arity.between 3 4).admits (w :: x :: y :: words).length = true := by
    simp only [Arity.admits, List.length_cons, Bool.and_eq_true, decide_eq_true_eq]
    omega
  rw [Arity.check, if_pos hadmits]

theorem examinePlacement_of_length_le (c : Command) {w : Text} (hw : capitals w = Placement.keyword)
    (x y : Text) {rest : List Text} (hrest : rest.length ≤ 1) :
    c.examinePlacement (w :: x :: y :: rest) =
      if (readCoordinate? x).isSome && (readCoordinate? y).isSome then
        ({ c with x? := readCoordinate? x, y? := readCoordinate? y, facing? := rest.head? },
          .ok .accepted)
      else ({ c with x? := readCoordinate? x, y? := readCoordinate? y },
        .error .badCoordinates) := by
  have harity := arity_of_parts w x y rest hrest
  unfold examinePlacement
  simp only [hw, ne_eq, not_true_eq_false, if_false, harity]

theorem examinePlacement_parts (c : Command) (p : Placement) :
    c.examinePlacement p.parts =
      if (readCoordinate? p.x).isSome && (readCoordinate? p.y).isSome then
        ({ c with x? := readCoordinate? p.x, y? := readCoordinate? p.y, facing? := p.facing },
          .ok .accepted)
      else ({ c with x? := readCoordinate? p.x, y? := readCoordinate? p.y },
        .error .badCoordinates) := by
  obtain ⟨x, y, facing⟩ := p
  cases facing with
  | none => exact c.examinePlacement_of_length_le capitals_keyword x y (Nat.zero_le 1)
  | some word => exact c.examinePlacement_of_length_le capitals_keyword x y (Nat.le_refl 1)

theorem performMove_of_stands {size : Int} {r : Robot} (hr : Stands size r) {c : Command}
    (hc : c.tableSize = size) :
    c.performMove r = .ok (if (r.cell.ahead r.facing).OnTable (reach size) then
      (r.movedTo (r.cell.ahead r.facing), .moved (r.cell.ahead r.facing))
      else (r, .refused .wouldFall)) := by
  obtain ⟨target, hstep, htable, hexact⟩ := Cell.step_of_onTable_reach hr.2 r.facing
  simp only [performMove, hstep, hc, htable, Bind.bind, Except.bind, decide_eq_true_eq]
  split
  · next ha => rw [hexact ha]
  · rfl

theorem landing_eq {c : Command} (hword : ∀ f ∈ c.facing?, Placement.isWord f = true)
    (r : Robot) : landing r c.facing? = (c.landingFacing r).mapError Refusal.message := by
  rw [landingFacing]
  cases hfacing : c.facing? with
  | none => cases hplaced : r.placed <;> simp only [landing, hplaced] <;> rfl
  | some word =>
      simp only [landing, read?_eq_facingSpelt? (hword word hfacing)]
      cases facingSpelt? word <;> rfl

theorem performPlace_of_some {c : Command} {x y : Int} (hx : c.x? = some x) (hy : c.y? = some y)
    (hfits : Cell.coordinates ⟨x, y⟩ |>.all fitsWord) (r : Robot) :
    (c.performPlace r).value = .ok (if Cell.OnTable ⟨x, y⟩ c.tableSize then
      match c.landingFacing r with
      | .ok f => (⟨true, ⟨x, y⟩, f⟩, .placed ⟨x, y⟩ f)
      | .error refusal => (r, .refused refusal)
      else (r, .refused .outsideTable)) := by
  rw [performPlace, hx, hy]
  by_cases htable : Cell.OnTable ⟨x, y⟩ c.tableSize
  · simp only [Cell.onTable_eq_ok hfits, decide_eq_true htable, if_pos htable]
    cases c.landingFacing r <;> rfl
  · simp only [Cell.onTable_eq_ok hfits, decide_eq_false htable, if_neg htable]
    rfl

variable [Routines]

theorem attempt_keyword {b : Builtin} (hb : b ≠ .place) :
    (fresh b).attempt [b.keyword] = (fresh b, .accepted) := by
  cases b with
  | place => exact absurd rfl hb
  | move => rfl
  | left => rfl
  | right => rfl
  | report => rfl

theorem attempt_parts_of_some {p : Placement} {x y : Int} (hx : readCoordinate? p.x = some x)
    (hy : readCoordinate? p.y = some y) :
    (fresh .place).attempt p.parts = (placing x y p.facing, .accepted) := by
  have hexamine : (fresh .place).examine p.parts = (fresh .place).examinePlacement p.parts := rfl
  rw [attempt, hexamine, examinePlacement_parts, hx, hy]
  rfl

theorem attempt_parts_of_none {p : Placement}
    (h : readCoordinate? p.x = none ∨ readCoordinate? p.y = none) :
    ∃ c, (fresh .place).attempt p.parts =
      (c, .declined (some "Invalid PLACE coordinates.".toList)) := by
  have hexamine : (fresh .place).examine p.parts = (fresh .place).examinePlacement p.parts := rfl
  have hnot : ((readCoordinate? p.x).isSome && (readCoordinate? p.y).isSome) = false := by
    rcases h with h | h <;> simp [h]
  rw [attempt, hexamine, examinePlacement_parts, hnot]
  exact ⟨_, rfl⟩

/-! ### Execution -/

theorem value_execute {c : Command} (h : c.valid = true) (r : Robot) :
    (c.execute r).value = match (c.perform r).value with
      | .error fault => .error fault
      | .ok (moved, outcome) => .ok (if outcome.success then moved else r, outcome) := by
  rw [execute, if_neg (by simp [h])]
  simp only [Logged.value_bind]
  cases (c.perform r).value with
  | error fault => rfl
  | ok result =>
      obtain ⟨moved, outcome⟩ := result
      cases hs : outcome.success <;> simp [hs]

theorem execute_keyword {size : Int} {r : Robot} (hr : Stands size r) {b : Builtin}
    (hb : b ≠ .place) :
    (((fresh b).bind size).execute r).value = .ok (obey size r b.keyword) := by
  rw [value_execute rfl]
  cases b with
  | place => exact absurd rfl hb
  | move =>
      have hperform : (((fresh .move).bind size).perform r).value =
          ((fresh .move).bind size).performMove r := rfl
      have hobey : obey size r (Builtin.keyword .move) = move size r := rfl
      rw [hperform, performMove_of_stands hr rfl, hobey, move]
      by_cases ha : (r.cell.ahead r.facing).OnTable (reach size)
      · rw [if_pos ha, if_pos ha, advance_eq]
        rfl
      · rw [if_neg ha, if_neg ha]
        rfl
  | left => rfl
  | right => rfl
  | report =>
      have hobey : obey size r (Builtin.keyword .report) = tell r := rfl
      rw [hobey, tell_eq]
      rfl

theorem execute_placing {size x y : Int} {r : Robot} {p : Placement}
    (hx : coordinate? p.x = some x) (hy : coordinate? p.y = some y)
    (hword : ∀ f ∈ p.facing, Placement.isWord f = true) :
    (((placing x y p.facing).bind size).execute r).value = .ok (place size r p) := by
  have hfits : Cell.coordinates ⟨x, y⟩ |>.all fitsWord := by
    simp [Cell.coordinates, fitsWord_of_coordinate? hx, fitsWord_of_coordinate? hy]
  have hperform : (((placing x y p.facing).bind size).perform r).value =
      (((placing x y p.facing).bind size).performPlace r).value := rfl
  rw [value_execute rfl, hperform, performPlace_of_some rfl rfl hfits, place, hx, hy]
  by_cases htable : Cell.OnTable ⟨x, y⟩ size
  · have hlanding := landing_eq (c := (placing x y p.facing).bind size) hword r
    change landing r p.facing = _ at hlanding
    simp only [bind_tableSize, htable, if_true, hlanding]
    cases ((placing x y p.facing).bind size).landingFacing r with
    | error refusal => rfl
    | ok f =>
        have hok : Except.mapError Refusal.message (.ok f) = .ok f := rfl
        simp only [hok, put_eq]
        rfl
  · simp only [bind_tableSize, htable, if_false]
    rfl

end Command

end TableRobot
