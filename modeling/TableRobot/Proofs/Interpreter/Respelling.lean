import TableRobot.Proofs.Interpreter.Refinement
import TableRobot.Proofs.Text.Recasing
/-!
# Spelling does not matter

A text may be spelt in another case, with other white space at its ends and, if
it is a placement, with other white space around its parts.  None of this
changes what counts of the text: that it is blank, the parts of the placement
with its word in capitals, or the keyword.  An answer looks at nothing else.

Only letters of ASCII change their case.  Upper-casing maps the other letters
as well, but it maps them alike in both spellings.
-/

namespace TableRobot

open Text

/-! ## White space at the ends -/

namespace Text

theorem trim_pad {w v : Text} (hw : isAllBlank w = true) (hv : isAllBlank v = true) (t : Text) :
    trim (w ++ t ++ v) = trim t := by
  rw [trim, trimBy, List.append_assoc, dropWhile_append_of_all hw, ← dropWhile_trimEndBy,
    trimEndBy_append_of_all hv, dropWhile_trimEndBy]
  rfl

theorem isAllBlank_pad {w v : Text} (hw : isAllBlank w = true) (hv : isAllBlank v = true)
    (t : Text) : isAllBlank (w ++ t ++ v) = isAllBlank t := by
  rw [isAllBlank] at hw hv
  rw [isAllBlank, List.all_append, List.all_append, hw, hv, Bool.true_and, Bool.and_true]
  rfl

end Text

/-! ## Placements in another case -/

namespace Placement

def inCapitals (p : Placement) : Placement :=
  { p with facing := p.facing.map (·.map Char.toUpper) }

theorem isCoordinate_map_toUpper (t : Text) :
    isCoordinate (t.map Char.toUpper) = isCoordinate t := by
  have hdigit : isDigit ∘ Char.toUpper = isDigit := funext isDigit_toUpper
  cases t with
  | nil => rfl
  | cons c t =>
      by_cases hc : c = '-'
      · subst hc
        have hminus : Char.toUpper '-' = '-' := rfl
        simp only [isCoordinate, List.map_cons, hminus, List.isEmpty_map, List.all_map, hdigit]
      · have hupper : c.toUpper ≠ '-' := fun h => hc (toUpper_eq_minus_iff.1 h)
        simp [isCoordinate, hc, hupper, isDigit_toUpper, List.all_map, hdigit]

theorem map_toUpper_of_isCoordinate {t : Text} (h : isCoordinate t = true) :
    t.map Char.toUpper = t := by
  unfold isCoordinate at h
  split at h
  · rw [Bool.and_eq_true] at h
    rw [List.map_cons, map_toUpper_of_all_isDigit h.2]
    rfl
  · rw [Bool.and_eq_true] at h
    exact map_toUpper_of_all_isDigit h.2

theorem isWord_map_toUpper (t : Text) : isWord (t.map Char.toUpper) = isWord t := by
  have hletter : isLetter ∘ Char.toUpper = isLetter := funext isLetter_toUpper
  rw [isWord, isWord, List.isEmpty_map, List.all_map, hletter]

theorem ofParts?_map_toUpper (ts : List Text) :
    ofParts? (ts.map (·.map Char.toUpper)) = (ofParts? ts).map inCapitals := by
  match ts with
  | [] => rfl
  | [_] => rfl
  | [x, y] =>
      simp only [List.map_cons, List.map_nil, ofParts?, isCoordinate_map_toUpper]
      split
      · next h =>
          rw [Bool.and_eq_true] at h
          rw [map_toUpper_of_isCoordinate h.1, map_toUpper_of_isCoordinate h.2]
          rfl
      · rfl
  | [x, y, f] =>
      simp only [List.map_cons, List.map_nil, ofParts?, isCoordinate_map_toUpper,
        isWord_map_toUpper]
      split
      · next h =>
          rw [Bool.and_eq_true, Bool.and_eq_true] at h
          rw [map_toUpper_of_isCoordinate h.1.1, map_toUpper_of_isCoordinate h.1.2]
          rfl
      · rfl
  | _ :: _ :: _ :: _ :: _ => rfl

/-- A text in capitals is the placement that it is otherwise, with its word in capitals. -/
theorem read?_map_toUpper (t : Text) :
    read? (t.map Char.toUpper) = (read? t).map inCapitals := by
  rw [read?, read?]
  simp only [trim_map_toUpper, ← List.map_take, ← List.map_drop, capitals_map_toUpper]
  split
  · cases (trim t).drop keyword.length with
    | nil => rfl
    | cons c rest =>
        have hfields : (fields ',' ((c :: rest).map Char.toUpper)).map trim =
            ((fields ',' (c :: rest)).map trim).map (·.map Char.toUpper) := by
          rw [fields_map_toUpper, List.map_map, List.map_map]
          exact List.map_congr_left fun f _ => trim_map_toUpper f
        rw [List.map_cons] at hfields
        simp only [List.map_cons, isBlank_toUpper, hfields, ofParts?_map_toUpper]
        split <;> rfl
  · rfl

end Placement

/-! ## Respellings -/

inductive Respelt : Text → Text → Prop where
  /-- Any letters of ASCII in another case. -/
  | recased {s t : Text} (h : s.map Char.toUpper = t.map Char.toUpper) : Respelt s t
  /-- Other white space at the ends. -/
  | padded {w v w' v' : Text} (hw : isAllBlank w = true) (hv : isAllBlank v = true)
      (hw' : isAllBlank w' = true) (hv' : isAllBlank v' = true) (t : Text) :
      Respelt (w ++ t ++ v) (w' ++ t ++ v')
  /-- Other white space behind the keyword of a placement and around its parts. -/
  | spaced {l m : Placement.Layout} (hkey : l.key = m.key) (h : l.placement = m.placement) :
      Respelt l.text m.text
  | trans {s t u : Text} (h : Respelt s t) (h' : Respelt t u) : Respelt s u

/-- What counts of a text. -/
inductive Essence where
  | nothing
  | placement (p : Placement)
  | keyword (w : Text)

def essenceOf (t : Text) : Essence :=
  if isAllBlank t then .nothing
  else
    match Placement.read? t with
    | some p => .placement p.inCapitals
    | none => .keyword (keywordOf t)

theorem essenceOf_map_toUpper (t : Text) : essenceOf (t.map Char.toUpper) = essenceOf t := by
  have hkeyword : keywordOf (t.map Char.toUpper) = keywordOf t := by
    rw [keywordOf, trim_map_toUpper, capitals_map_toUpper]
    rfl
  rw [essenceOf, essenceOf, isAllBlank_map_toUpper, Placement.read?_map_toUpper, hkeyword]
  cases Placement.read? t with
  | none => rfl
  | some p =>
      have htwice : p.inCapitals.inCapitals = p.inCapitals := by
        simp only [Placement.inCapitals, Option.map_map, Function.comp_def, List.map_map,
          toUpper_toUpper]
      simp only [Option.map_some, htwice]

theorem essenceOf_pad {w v : Text} (hw : isAllBlank w = true) (hv : isAllBlank v = true)
    (t : Text) : essenceOf (w ++ t ++ v) = essenceOf t := by
  have hread : Placement.read? (w ++ t ++ v) = Placement.read? t := by
    rw [← Placement.read?_trim, trim_pad hw hv, Placement.read?_trim]
  have hkeyword : keywordOf (w ++ t ++ v) = keywordOf t := by
    rw [keywordOf, trim_pad hw hv]
    rfl
  rw [essenceOf, isAllBlank_pad hw hv, hread, hkeyword]
  rfl

theorem essenceOf_layout (l : Placement.Layout) :
    essenceOf l.text = .placement l.placement.inCapitals := by
  have hblank : isAllBlank l.text = false := Placement.isAllBlank_of_read? (Placement.read?_text l)
  simp only [essenceOf, hblank, Bool.false_eq_true, if_false, Placement.read?_text]

theorem Respelt.essenceOf_eq {s t : Text} (h : Respelt s t) : essenceOf s = essenceOf t := by
  induction h with
  | recased h => rw [← essenceOf_map_toUpper, h, essenceOf_map_toUpper]
  | padded hw hv hw' hv' t => rw [essenceOf_pad hw hv, essenceOf_pad hw' hv']
  | spaced hkey h => rw [essenceOf_layout, essenceOf_layout, h]
  | trans _ _ ih ih' => exact ih.trans ih'

/-! ## Answers -/

namespace Reference

variable {size : Int} {r : Robot}

theorem place_inCapitals (p : Placement) : place size r p.inCapitals = place size r p := by
  have hlanding : landing r p.inCapitals.facing = landing r p.facing := by
    cases hfacing : p.facing with
    | none => simp only [Placement.inCapitals, hfacing, Option.map_none]
    | some word =>
        have hspelt : facingSpelt? (word.map Char.toUpper) = facingSpelt? word := by
          simp only [facingSpelt?, List.map_map, Function.comp_def, toUpper_toUpper]
        simp only [Placement.inCapitals, hfacing, Option.map_some, landing, hspelt]
  rw [place, place, hlanding]
  rfl

def heed (size : Int) (r : Robot) : Essence → Robot × Outcome
  | .nothing => refuse r "Empty command.".toList
  | .placement p => place size r p
  | .keyword w =>
      if r.placed then obey size r w
      else refuse r "Robot not yet placed. Commands ignored until a valid PLACE.".toList

theorem respond_eq_heed (t : Text) : respond size r (some t) = heed size r (essenceOf t) := by
  cases hblank : isAllBlank t with
  | true => simp only [respond, essenceOf, hblank, if_true, heed]
  | false =>
      simp only [respond, essenceOf, hblank, Bool.false_eq_true, if_false, answer,
        Placement.read?_trim]
      cases Placement.read? t with
      | none => rfl
      | some p => exact (place_inCapitals p).symm

end Reference

namespace Interpreter

variable {size : Int} {lex : Lexicon} {i : Interpreter}

/-- At each point of a run texts that differ in their spelling only have the same outcome and
leave the same interpreter and lexicon. -/
theorem respelt_texts_are_answered_alike [Routines] (hsize : 1 ≤ size)
    (hreach : Reachable size lex i) {s t : Text} (h : Respelt s t) :
    (i.process lex (some s)).value = (i.process lex (some t)).value := by
  obtain ⟨rfl, r, rfl, hr⟩ := hreach.exists_lawful hsize
  have hrespond : Reference.respond size r (some s) = Reference.respond size r (some t) := by
    rw [Reference.respond_eq_heed, h.essenceOf_eq, ← Reference.respond_eq_heed]
  rw [process_standard hr, process_standard hr, hrespond]

/-- A placement in other letters and with other white space. -/
theorem respelt_texts_are_answered_alike_spaces :
    (1 : Int) ≤ 6 ∧ Reachable 6 .initial (standard 6 .initial) ∧
      Respelt "PLACE 1,2,EAST".toList "\tplace\u00a01 ,\u20032,eaST\n".toList ∧
      ((standard 6 .initial).process .initial
        (some "\tplace\u00a01 ,\u20032,eaST\n".toList)).value =
        (.initial, standard 6 ⟨true, ⟨1, 2⟩, .east⟩, .placed ⟨1, 2⟩ .east) := by
  have hreach : Reachable 6 .initial (standard 6 .initial) := .fresh (new_initial (by decide))
  let dense : Placement.Layout :=
    { lead := [], key := "place".toList
      x := ⟨" ".toList, "1".toList, [], by decide, by decide⟩
      y := ⟨[], "2".toList, [], by decide, by decide⟩
      facing := some ⟨[], "eaST".toList, [], by decide, by decide⟩
      lead_blank := by decide, isKeyword_key := ⟨by decide, by decide⟩, gap_ne_nil := by decide
      isCoordinate_x := by decide +kernel, isCoordinate_y := by decide +kernel
      isWord_facing := by decide +kernel }
  let spacious : Placement.Layout :=
    { dense with
      lead := "\t".toList
      x := ⟨"\u00a0".toList, "1".toList, " ".toList, by decide, by decide⟩
      y := ⟨"\u2003".toList, "2".toList, [], by decide, by decide⟩
      facing := some ⟨[], "eaST".toList, "\n".toList, by decide, by decide⟩
      lead_blank := by decide, gap_ne_nil := by decide
      isWord_facing := by decide +kernel }
  have hspaced : Respelt dense.text spacious.text := .spaced rfl rfl
  have hrespelt : Respelt "PLACE 1,2,EAST".toList
      "\tplace\u00a01 ,\u20032,eaST\n".toList :=
    .trans (.recased (by decide +kernel)) hspaced
  refine ⟨by decide, hreach, hrespelt, ?_⟩
  rw [← respelt_texts_are_answered_alike (by decide) hreach hrespelt]
  decide +kernel

end Interpreter

end TableRobot
