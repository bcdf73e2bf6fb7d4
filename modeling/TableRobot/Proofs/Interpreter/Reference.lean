import TableRobot.Proofs.Board.Reach
import TableRobot.Proofs.Numeral.Coordinates
/-!
# The reference interpreter

What the built-in commands do, as one list of cases over the trimmed text with
every message spelled out.  There is no lexicon here, no command between its
making and its execution, and no machine word: a step is the exact step.
-/

namespace TableRobot.Reference

open Numeral (bounds_of_coordinate? coordinate? written)
open Text (capitals isAllBlank trim)

def refuse (r : Robot) (message : Text) : Robot × Outcome := (r, ⟨false, message, none⟩)

def comply (r : Robot) (message : Text) : Robot × Outcome := (r, ⟨true, message, none⟩)

def cellText (c : Cell) : Text := written c.x ++ ",".toList ++ written c.y

def facingSpelt? (word : Text) : Option Facing :=
  Facing.all.find? fun f => f.name == word.map Char.toUpper

def put (c : Cell) (f : Facing) : Robot × Outcome :=
  comply ⟨true, c, f⟩
    ("Placed at ".toList ++ cellText c ++ " facing ".toList ++ f.name ++ ".".toList)

/-- The facing of a placement, or why there is none: a word has to spell it, and without a word
the robot keeps the one that it has. -/
def landing (r : Robot) : Option Text → Except Text Facing
  | some word =>
      match facingSpelt? word with
      | some f => .ok f
      | none => .error "Invalid PLACE direction.".toList
  | none =>
      if r.placed then .ok r.facing
      else .error
        "PLACE without direction ignored until robot has been placed with direction.".toList

/-- A placement: the coordinates are looked at first, then the table, then the facing. -/
def place (size : Int) (r : Robot) (p : Placement) : Robot × Outcome :=
  match coordinate? p.x, coordinate? p.y with
  | some x, some y =>
      if Cell.OnTable ⟨x, y⟩ size then
        match landing r p.facing with
        | .ok f => put ⟨x, y⟩ f
        | .error message => refuse r message
      else refuse r "PLACE would put robot outside the table; command discarded.".toList
  | _, _ => refuse r "Invalid PLACE coordinates.".toList

def advance (r : Robot) : Robot × Outcome :=
  let target := r.cell.ahead r.facing
  comply (r.movedTo target) ("Moved to ".toList ++ cellText target ++ ".".toList)

def move (size : Int) (r : Robot) : Robot × Outcome :=
  if (r.cell.ahead r.facing).OnTable (reach size) then advance r
  else refuse r "Move would fall off table; command ignored.".toList

def turnLeft (r : Robot) : Robot × Outcome :=
  let f := r.facing.turnedLeft
  comply (r.turnedTo f) ("Rotated left to ".toList ++ f.name ++ ".".toList)

def turnRight (r : Robot) : Robot × Outcome :=
  let f := r.facing.turnedRight
  comply (r.turnedTo f) ("Rotated right to ".toList ++ f.name ++ ".".toList)

def tell (r : Robot) : Robot × Outcome :=
  (r, ⟨true, "REPORT".toList, some (cellText r.cell ++ ",".toList ++ r.facing.name)⟩)

/-- What a keyword in capitals does with a robot that has been placed. -/
def obey (size : Int) (r : Robot) (keyword : Text) : Robot × Outcome :=
  if keyword = "MOVE".toList then move size r
  else if keyword = "LEFT".toList then turnLeft r
  else if keyword = "RIGHT".toList then turnRight r
  else if keyword = "REPORT".toList then tell r
  else refuse r "Invalid command.".toList

def answer (size : Int) (r : Robot) (cmd : Text) : Robot × Outcome :=
  match Placement.read? cmd with
  | some p => place size r p
  | none =>
      if r.placed then obey size r (capitals cmd)
      else refuse r "Robot not yet placed. Commands ignored until a valid PLACE.".toList

def respond (size : Int) (r : Robot) : Option Text → Robot × Outcome
  | none => refuse r "Empty command.".toList
  | some t => if isAllBlank t then refuse r "Empty command.".toList else answer size r (trim t)

def respondAll (size : Int) (r : Robot) : List (Option Text) → Robot × List Outcome
  | [] => (r, [])
  | raw :: raws =>
      let now := respond size r raw
      let later := respondAll size now.1 raws
      (later.1, now.2 :: later.2)

variable {size : Int} {r : Robot}

theorem place_of_none {p : Placement} (h : coordinate? p.x = none ∨ coordinate? p.y = none) :
    place size r p = refuse r "Invalid PLACE coordinates.".toList := by
  unfold place
  rcases h with h | h
  · rw [h]
  · rw [h]
    cases coordinate? p.x <;> rfl

theorem obey_of_unknown {w : Text} (h : ∀ b : Builtin, b ≠ .place → w ≠ b.keyword) :
    obey size r w = refuse r "Invalid command.".toList := by
  have hmove : w ≠ "MOVE".toList := h .move (by decide)
  have hleft : w ≠ "LEFT".toList := h .left (by decide)
  have hright : w ≠ "RIGHT".toList := h .right (by decide)
  have hreport : w ≠ "REPORT".toList := h .report (by decide)
  rw [obey, if_neg hmove, if_neg hleft, if_neg hright, if_neg hreport]

theorem respond_of_keywordOf {t : Text} {b : Builtin} (hb : b ≠ .place) (hr : r.placed = true)
    (ht : keywordOf t = b.keyword) : respond size r (some t) = obey size r b.keyword := by
  have hblank : isAllBlank t = false := by
    cases hblank : isAllBlank t with
    | false => rfl
    | true =>
        rw [keywordOf, Text.trim_of_isAllBlank hblank] at ht
        cases b <;> cases ht
  have hcapitals : capitals (trim t) = b.keyword := ht
  have hread : Placement.read? (trim t) = none := by
    rw [Placement.read?_trim]
    apply Placement.read?_eq_none_of_take
    rw [hcapitals]
    cases b with
    | place => exact absurd rfl hb
    | move => decide
    | left => decide
    | right => decide
    | report => decide
  simp only [respond, hblank, Bool.false_eq_true, if_false, answer, hread, hr, if_true,
    hcapitals]

theorem respond_of_read? {t : Text} {p : Placement} (h : Placement.read? t = some p) :
    respond size r (some t) = place size r p := by
  have hblank := Placement.isAllBlank_of_read? h
  rw [← Placement.read?_trim] at h
  simp only [respond, hblank, Bool.false_eq_true, if_false, answer, h]

/-! ## The cases of an answer -/

/-- What a text without white space at its ends can lead to, and when: a refusal, which
keeps the robot, or one of the five successes. -/
inductive Answers (size : Int) (r : Robot) (cmd : Text) : Robot × Outcome → Prop where
  | refused (message : Text) : Answers size r cmd (refuse r message)
  | put {p : Placement} {x y : Int} {f : Facing} (hp : Placement.read? cmd = some p)
      (hx : coordinate? p.x = some x) (hy : coordinate? p.y = some y)
      (htable : Cell.OnTable ⟨x, y⟩ size) (hf : landing r p.facing = .ok f) :
      Answers size r cmd (put ⟨x, y⟩ f)
  | advanced (hr : r.placed = true) (hcmd : capitals cmd = "MOVE".toList)
      (ha : (r.cell.ahead r.facing).OnTable (reach size)) : Answers size r cmd (advance r)
  | turnedLeft (hr : r.placed = true) (hcmd : capitals cmd = "LEFT".toList) :
      Answers size r cmd (turnLeft r)
  | turnedRight (hr : r.placed = true) (hcmd : capitals cmd = "RIGHT".toList) :
      Answers size r cmd (turnRight r)
  | told (hr : r.placed = true) (hcmd : capitals cmd = "REPORT".toList) :
      Answers size r cmd (tell r)

inductive AnswersPlacement (size : Int) (r : Robot) (p : Placement) : Robot × Outcome → Prop where
  | unread (hnone : coordinate? p.x = none ∨ coordinate? p.y = none) :
      AnswersPlacement size r p (refuse r "Invalid PLACE coordinates.".toList)
  | outside {x y : Int} (hx : coordinate? p.x = some x) (hy : coordinate? p.y = some y)
      (htable : ¬Cell.OnTable ⟨x, y⟩ size) :
      AnswersPlacement size r p
        (refuse r "PLACE would put robot outside the table; command discarded.".toList)
  | unspelt {x y : Int} (hx : coordinate? p.x = some x) (hy : coordinate? p.y = some y) :
      AnswersPlacement size r p (refuse r "Invalid PLACE direction.".toList)
  | unturned {x y : Int} (hx : coordinate? p.x = some x) (hy : coordinate? p.y = some y)
      (hr : r.placed = false) :
      AnswersPlacement size r p (refuse r
        "PLACE without direction ignored until robot has been placed with direction.".toList)
  | put {x y : Int} {f : Facing} (hx : coordinate? p.x = some x) (hy : coordinate? p.y = some y)
      (htable : Cell.OnTable ⟨x, y⟩ size) (hf : landing r p.facing = .ok f) :
      AnswersPlacement size r p (put ⟨x, y⟩ f)

theorem answersPlacement_place (size : Int) (r : Robot) (p : Placement) :
    AnswersPlacement size r p (place size r p) := by
  by_cases hnone : coordinate? p.x = none ∨ coordinate? p.y = none
  · rw [place_of_none hnone]
    exact .unread hnone
  · rw [not_or, ← ne_eq, ← ne_eq, Option.ne_none_iff_exists', Option.ne_none_iff_exists'] at hnone
    obtain ⟨⟨x, hx⟩, y, hy⟩ := hnone
    simp only [place, hx, hy]
    split
    · next htable =>
        cases hf : landing r p.facing with
        | ok f => exact .put hx hy htable hf
        | error message =>
            -- a facing is missing because its word spells none or because nothing was kept
            unfold landing at hf
            split at hf
            · split at hf
              · cases hf
              · obtain rfl := Except.error.inj hf
                exact .unspelt hx hy
            · split at hf
              · cases hf
              · next hr =>
                  obtain rfl := Except.error.inj hf
                  exact .unturned hx hy (Bool.eq_false_iff.2 hr)
    · next htable => exact .outside hx hy htable

theorem AnswersPlacement.answers {cmd : Text} {p : Placement} {a : Robot × Outcome}
    (h : AnswersPlacement size r p a) (hp : Placement.read? cmd = some p) :
    Answers size r cmd a := by
  cases h with
  | unread => exact .refused _
  | outside => exact .refused _
  | unspelt => exact .refused _
  | unturned => exact .refused _
  | put hx hy htable hf => exact .put hp hx hy htable hf

theorem answers_obey {cmd : Text} (hr : r.placed = true) :
    Answers size r cmd (obey size r (capitals cmd)) := by
  unfold obey
  split
  · next hmove =>
      unfold move
      split
      · next ha => exact .advanced hr hmove ha
      · exact .refused _
  · split
    · next hleft => exact .turnedLeft hr hleft
    · split
      · next hright => exact .turnedRight hr hright
      · split
        · next hreport => exact .told hr hreport
        · exact .refused _

theorem answers_answer (size : Int) (r : Robot) (cmd : Text) :
    Answers size r cmd (answer size r cmd) := by
  rw [answer]
  split
  · next p hp => exact (answersPlacement_place size r p).answers hp
  · split
    · next hr => exact answers_obey hr
    · exact .refused _

theorem answers_respond (size : Int) (r : Robot) (t : Text) :
    Answers size r (trim t) (respond size r (some t)) := by
  rw [respond]
  split
  · exact .refused _
  · exact answers_answer size r (trim t)

theorem Answers.keeps {cmd : Text} {a : Robot × Outcome} (h : Answers size r cmd a)
    (hfail : a.2.success = false) : a.1 = r := by
  cases h with
  | refused message => rfl
  | put => cases hfail
  | advanced => cases hfail
  | turnedLeft => cases hfail
  | turnedRight => cases hfail
  | told => cases hfail

/-! ## The robots of a run -/

def Stands (size : Int) (r : Robot) : Prop := r.placed = true ∧ r.cell.OnTable (reach size)

/-- The robot of a run: it has not been placed, or it stands within reach. -/
def Lawful (size : Int) (r : Robot) : Prop := r = .initial ∨ Stands size r

theorem Lawful.stands (h : Lawful size r) (hr : r.placed = true) : Stands size r := by
  rcases h with rfl | h
  · exact absurd hr (by decide)
  · exact h

theorem onTable_reach_of_coordinate? {s t : Text} {x y : Int} (hx : coordinate? s = some x)
    (hy : coordinate? t = some y) (h : Cell.OnTable ⟨x, y⟩ size) :
    Cell.OnTable ⟨x, y⟩ (reach size) := by
  have hboundx := bounds_of_coordinate? hx
  have hboundy := bounds_of_coordinate? hy
  rw [Cell.onTable_mk] at h ⊢
  rw [lt_reach_iff, lt_reach_iff]
  omega

theorem Answers.stays_or_stands {cmd : Text} {a : Robot × Outcome} (h : Answers size r cmd a)
    (hr : Lawful size r) : a.1 = r ∨ Stands size a.1 := by
  cases h with
  | refused message => exact .inl rfl
  | put hp hx hy htable hf => exact .inr ⟨rfl, onTable_reach_of_coordinate? hx hy htable⟩
  | advanced hplaced hcmd ha => exact .inr ⟨hplaced, ha⟩
  | turnedLeft hplaced hcmd => exact .inr (hr.stands hplaced)
  | turnedRight hplaced hcmd => exact .inr (hr.stands hplaced)
  | told hplaced hcmd => exact .inl rfl

theorem respond_stays_or_stands (h : Lawful size r) (raw : Option Text) :
    (respond size r raw).1 = r ∨ Stands size (respond size r raw).1 := by
  cases raw with
  | none => exact .inl rfl
  | some t =>
      rw [respond]
      split
      · exact .inl rfl
      · exact (answers_answer size r (trim t)).stays_or_stands h

theorem Lawful.respond (h : Lawful size r) (raw : Option Text) :
    Lawful size (respond size r raw).1 := by
  rcases respond_stays_or_stands h raw with hstays | hstands
  · rw [hstays]
    exact h
  · exact .inr hstands

theorem Lawful.respondAll (h : Lawful size r) (raws : List (Option Text)) :
    Lawful size (respondAll size r raws).1 := by
  induction raws generalizing r with
  | nil => exact h
  | cons raw raws ih => exact ih (h.respond raw)

end TableRobot.Reference
