import TableRobot.Proofs.Command.Builtin
/-!
# Verdicts of built-in commands

A match of a command of a built-in kind is answered by the words of the line
alone, whatever has been done with the command.  It gives a reason only with a
fault, and the fault spoils the command.  A placement takes both coordinates
of a line before it looks at either, but from a line that it accepts it has
two that it can use.
-/

namespace TableRobot

open Numeral (fits32 fits32_of_readCoordinate? readCoordinate? written)
open Text (capitals)

def keywordVerdict (name : Text) : List Text → Verdict
  | [] => .declined (some "list index out of range".toList)
  | w :: params =>
      if capitals w ≠ name then .declined none
      else if params = [] then .accepted
      else .declined (some
        (name ++ " requires 0 parameters, got ".toList ++ written params.length))

def placementVerdict : List Text → Verdict
  | [] => .declined (some "list index out of range".toList)
  | w :: params =>
      if capitals w ≠ Placement.keyword then .declined none
      else if params.length < 2 ∨ 3 < params.length then
        .declined (some
          ("PLACE requires 2 to 3 parameters, got ".toList ++ written params.length))
      else if (params.take 2).all fun t => (readCoordinate? t).isSome then .accepted
      else .declined (some "Invalid PLACE coordinates.".toList)

def Builtin.verdict (b : Builtin) (name : Text) (words : List Text) : Verdict :=
  if b = .place then placementVerdict words else keywordVerdict name words

namespace Command

def HasCoordinates (c : Command) : Prop :=
  ∃ x y, c.x? = some x ∧ c.y? = some y ∧ fits32 x = true ∧ fits32 y = true

def noting (c : Command) (x? y? : Option Int) (facing? : Option Text) : Command :=
  { c with x? := x?, y? := y?, facing? := facing? }

/-- What a verdict leaves of a command of a built-in kind.  A command that is told a reason is
spoilt, but it may have taken coordinates before; a placement that accepts a line has two that it
can use. -/
inductive Leaves (b : Builtin) (c : Command) : Verdict → Command → Prop where
  | declined : Leaves b c (.declined none) c
  | spoilt (x? y? : Option Int) (reason : Text) :
      Leaves b c (.declined (some reason)) ((c.noting x? y? c.facing?).spoil (some reason))
  | accepted (x? y? : Option Int) (facing? : Option Text)
      (h : b = .place → (c.noting x? y? facing?).HasCoordinates) :
      Leaves b c .accepted (c.noting x? y? facing?)

/-! ## Counting words -/

theorem check_of_not_admits {rule : Arity} {words : List Text} {n : Nat}
    (hwritable : rule.bounds.all Numeral.isWritable = true) (hlength : words.length = n + 1)
    (hadmits : rule.admits (n + 1) = false) (name : Text) :
    rule.check name words = .error (.arity name rule (n + 1)) := by
  have hcount : (words.length : Int) = n + 1 := by omega
  rw [Arity.check, hcount, hadmits, hwritable]
  rfl

theorem message_arity (name : Text) (rule : Arity) (n : Nat) :
    (Fault.arity name rule (n + 1)).message =
      name ++ (" requires ".toList ++ rule.text ++ " parameters, got ".toList) ++ written n := by
  have hcount : (n : Int) + 1 - 1 = n := by omega
  have hmessage : (Fault.arity name rule (n + 1)).message =
      name ++ " requires ".toList ++ rule.text ++ " parameters, got ".toList ++
        written (n + 1 - 1) := rfl
  rw [hmessage, hcount]
  simp only [List.append_assoc]

theorem message_exactly_one (name : Text) (n : Nat) :
    (Fault.arity name (.exactly 1) (n + 1)).message =
      name ++ " requires 0 parameters, got ".toList ++ written n := by
  have hrule : " requires ".toList ++ (Arity.exactly 1).text ++ " parameters, got ".toList =
      " requires 0 parameters, got ".toList := by
    decide +kernel
  rw [message_arity, hrule]

theorem message_three_or_four (n : Nat) :
    (Fault.arity Placement.keyword (.between 3 4) (n + 1)).message =
      "PLACE requires 2 to 3 parameters, got ".toList ++ written n := by
  have hrule : Placement.keyword ++
      (" requires ".toList ++ (Arity.between 3 4).text ++ " parameters, got ".toList) =
        "PLACE requires 2 to 3 parameters, got ".toList := by
    decide +kernel
  rw [message_arity, hrule]

/-! ## Attempts -/

variable {c : Command}

theorem examineKeyword_ne_declined_some {words : List Text} {v : Verdict}
    (h : c.examineKeyword words = .ok v) (m : Text) : v ≠ .declined (some m) := by
  cases words with
  | nil => cases h
  | cons w params =>
      rw [examineKeyword] at h
      split at h
      · cases h
        nofun
      · cases hcheck : Arity.check (.exactly 1) c.name (w :: params) with
        | error fault =>
            rw [hcheck] at h
            cases h
        | ok =>
            rw [hcheck] at h
            cases h
            nofun

theorem examinePlacement_ne_declined_some {words : List Text} {v : Verdict}
    (h : (c.examinePlacement words).2 = .ok v) (m : Text) : v ≠ .declined (some m) := by
  unfold examinePlacement at h
  split at h
  · cases h
  · split at h
    · cases h
      nofun
    · split at h
      · simp only at h
        split at h
        · cases h
          nofun
        · cases h
      · cases h
      · cases h

theorem examinePlacement_of_ne {w : Text} (hw : capitals w ≠ Placement.keyword)
    (params : List Text) : c.examinePlacement (w :: params) = (c, .ok (.declined none)) := by
  unfold examinePlacement
  exact if_pos hw

theorem examinePlacement_of_error {w : Text} {params : List Text} {fault : Fault}
    (hw : capitals w = Placement.keyword)
    (h : Arity.check (.between 3 4) Placement.keyword (w :: params) = .error fault) :
    c.examinePlacement (w :: params) = (c, .error fault) := by
  unfold examinePlacement
  simp only [if_neg (not_not_intro hw), h]

section

variable [Routines]

theorem attempt_of_examine_error {d : Command} {words : List Text} {fault : Fault}
    (h : c.examine words = (d, .error fault)) :
    c.attempt words = (d.spoil (some fault.message), .declined (some fault.message)) := by
  rw [attempt, h]

theorem attempt_of_examine_ok {d : Command} {words : List Text} {v : Verdict}
    (h : c.examine words = (d, .ok v)) : c.attempt words = (d, v) := by
  rw [attempt, h]

theorem exists_attempt_of_keyword (b : Builtin) (hb : b ≠ .place) (h : c.matching = .keyword)
    (words : List Text) :
    ∃ d, c.attempt words = (d, keywordVerdict c.name words) ∧
      Leaves b c (keywordVerdict c.name words) d := by
  have hexamine : c.examine words = (c, c.examineKeyword words) := by
    rw [examine, h]
  cases words with
  | nil => exact ⟨_, attempt_of_examine_error hexamine, .spoilt c.x? c.y? _⟩
  | cons w params =>
      rw [examineKeyword] at hexamine
      rw [keywordVerdict]
      by_cases hword : capitals w = c.name
      · rw [if_neg (not_not_intro hword)] at hexamine ⊢
        cases params with
        | nil =>
            exact ⟨_, attempt_of_examine_ok hexamine,
              .accepted c.x? c.y? c.facing? fun hplace => absurd hplace hb⟩
        | cons p params =>
            have hadmits : (Arity.exactly 1).admits ((p :: params).length + 1) = false := by
              simp only [Arity.admits, List.length_cons, beq_eq_false_iff_ne]
              omega
            rw [check_of_not_admits (by decide +kernel) rfl hadmits] at hexamine
            rw [if_neg (List.cons_ne_nil p params), ← message_exactly_one]
            exact ⟨_, attempt_of_examine_error hexamine, .spoilt c.x? c.y? _⟩
      · rw [if_pos hword] at hexamine ⊢
        exact ⟨_, attempt_of_examine_ok hexamine, .declined⟩

/-- With as many words as there may be, a placement takes both coordinates and then looks whether
it can use them. -/
theorem exists_attempt_of_length_le (h : c.matching = .placement) {w : Text}
    (hw : capitals w = Placement.keyword) (x y : Text) {rest : List Text}
    (hrest : rest.length ≤ 1) :
    ∃ d, c.attempt (w :: x :: y :: rest) = (d, placementVerdict (w :: x :: y :: rest)) ∧
      Leaves .place c (placementVerdict (w :: x :: y :: rest)) d := by
  have hexamine : c.examine (w :: x :: y :: rest) = c.examinePlacement (w :: x :: y :: rest) := by
    rw [examine, h]
  rw [c.examinePlacement_of_length_le hw x y hrest] at hexamine
  have hcount : ¬((x :: y :: rest).length < 2 ∨ 3 < (x :: y :: rest).length) := by
    simp only [List.length_cons]
    omega
  have hboth : ((x :: y :: rest).take 2).all (fun t => (readCoordinate? t).isSome) =
      ((readCoordinate? x).isSome && (readCoordinate? y).isSome) := by
    simp
  have hverdict : placementVerdict (w :: x :: y :: rest) =
      if (readCoordinate? x).isSome && (readCoordinate? y).isSome then .accepted
      else .declined (some "Invalid PLACE coordinates.".toList) := by
    rw [placementVerdict, if_neg (not_not_intro hw), if_neg hcount, hboth]
  rw [hverdict]
  cases hread : (readCoordinate? x).isSome && (readCoordinate? y).isSome with
  | true =>
      rw [hread, if_pos rfl] at hexamine
      rw [Bool.and_eq_true, Option.isSome_iff_exists, Option.isSome_iff_exists] at hread
      obtain ⟨⟨m, hm⟩, n, hn⟩ := hread
      have hcoordinates :
          (c.noting (readCoordinate? x) (readCoordinate? y) rest.head?).HasCoordinates :=
        ⟨m, n, hm, hn, fits32_of_readCoordinate? hm, fits32_of_readCoordinate? hn⟩
      exact ⟨_, attempt_of_examine_ok hexamine, .accepted _ _ _ fun _ => hcoordinates⟩
  | false =>
      rw [hread, if_neg Bool.false_ne_true] at hexamine
      exact ⟨_, attempt_of_examine_error hexamine, .spoilt _ _ _⟩

theorem exists_attempt_of_placement (h : c.matching = .placement) (words : List Text) :
    ∃ d, c.attempt words = (d, placementVerdict words) ∧
      Leaves .place c (placementVerdict words) d := by
  have hexamine : c.examine words = c.examinePlacement words := by
    rw [examine, h]
  cases words with
  | nil => exact ⟨_, attempt_of_examine_error hexamine, .spoilt c.x? c.y? _⟩
  | cons w params =>
      by_cases hword : capitals w = Placement.keyword
      · by_cases hcount : params.length < 2 ∨ 3 < params.length
        · have hadmits : (Arity.between 3 4).admits (params.length + 1) = false := by
            simp only [Arity.admits, Bool.and_eq_false_iff, decide_eq_false_iff_not]
            omega
          have harity : Arity.check (.between 3 4) Placement.keyword (w :: params) =
              .error (.arity Placement.keyword (.between 3 4) (params.length + 1)) :=
            check_of_not_admits (by decide +kernel) rfl hadmits _
          rw [examinePlacement_of_error hword harity] at hexamine
          rw [placementVerdict, if_neg (not_not_intro hword), if_pos hcount,
            ← message_three_or_four]
          exact ⟨_, attempt_of_examine_error hexamine, .spoilt c.x? c.y? _⟩
        · cases params with
          | nil => simp at hcount
          | cons x params =>
              cases params with
              | nil => simp at hcount
              | cons y rest =>
                  have hrest : rest.length ≤ 1 := by
                    simp only [List.length_cons] at hcount
                    omega
                  exact exists_attempt_of_length_le h hword x y hrest
      · rw [examinePlacement_of_ne hword] at hexamine
        rw [placementVerdict, if_pos hword]
        exact ⟨_, attempt_of_examine_ok hexamine, .declined⟩

end

/-- Holds of the commands of a built-in kind under a name, whatever has been done with them. -/
structure IsOf (c : Command) (b : Builtin) (name : Text) : Prop where
  name_eq : c.name = name
  matching_eq : c.matching = (Parent.builtin b).matching
  action_eq : c.action = .builtin b

namespace IsOf

variable {b : Builtin} {name : Text}

theorem noting (h : c.IsOf b name) (x? y? : Option Int) (facing? : Option Text) :
    (c.noting x? y? facing?).IsOf b name :=
  ⟨h.name_eq, h.matching_eq, h.action_eq⟩

theorem spoil (h : c.IsOf b name) (complaint : Option Text) : (c.spoil complaint).IsOf b name :=
  ⟨h.name_eq, h.matching_eq, h.action_eq⟩

theorem bind (h : c.IsOf b name) (size : Int) : (c.bind size).IsOf b name :=
  ⟨h.name_eq, h.matching_eq, h.action_eq⟩

theorem matching_of_ne (h : c.IsOf b name) (hb : b ≠ .place) : c.matching = .keyword := by
  rw [h.matching_eq]
  cases b with
  | place => exact absurd rfl hb
  | move => rfl
  | left => rfl
  | right => rfl
  | report => rfl

theorem exists_attempt [Routines] (h : c.IsOf b name) (words : List Text) :
    ∃ d, c.attempt words = (d, b.verdict name words) ∧ Leaves b c (b.verdict name words) d := by
  by_cases hb : b = .place
  · subst hb
    exact exists_attempt_of_placement h.matching_eq words
  · rw [Builtin.verdict, if_neg hb, ← h.name_eq]
    exact exists_attempt_of_keyword b hb (h.matching_of_ne hb) words

theorem verdict_attempt [Routines] (h : c.IsOf b name) (words : List Text) :
    (c.attempt words).2 = b.verdict name words := by
  obtain ⟨d, hattempt, -⟩ := h.exists_attempt words
  rw [hattempt]

theorem verdict_ne_of_examine_ok [Routines] (h : c.IsOf b name) {words : List Text} {v : Verdict}
    (hexamine : (c.examine words).2 = .ok v) (m : Text) : v ≠ .declined (some m) := by
  by_cases hb : b = .place
  · have hmatching : c.matching = .placement := by
      rw [h.matching_eq, hb]
      rfl
    rw [examine, hmatching] at hexamine
    exact examinePlacement_ne_declined_some hexamine m
  · rw [examine, h.matching_of_ne hb] at hexamine
    exact examineKeyword_ne_declined_some hexamine m

theorem verdict_eq_declined_iff [Routines] (h : c.IsOf b name) {words : List Text} {m : Text} :
    b.verdict name words = .declined (some m) ↔
      ∃ fault, (c.examine words).2 = .error fault ∧ fault.message = m := by
  rw [← h.verdict_attempt]
  cases hexamine : c.examine words with
  | mk d result =>
      cases result with
      | error fault =>
          rw [attempt_of_examine_error hexamine]
          simp
      | ok v =>
          have hne := h.verdict_ne_of_examine_ok (congrArg Prod.snd hexamine) m
          rw [attempt_of_examine_ok hexamine]
          simpa using hne

end IsOf

end Command

end TableRobot
