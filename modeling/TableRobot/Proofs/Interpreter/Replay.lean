import TableRobot.Proofs.Command.Payload
import TableRobot.Proofs.Interpreter.Reachable
/-!
# Reports replay

A report tells where the robot stands and where it looks, and its payload reads
back as just that.  Behind the keyword of a placement the payload puts a robot
of the same table into the same place, as far as coordinates go: beyond 32 bits
a robot gets by steps only, and the payload is refused.
-/

namespace TableRobot

open Numeral (coordinate?_written fitsWord isWritable isWritable_of_fitsWord written)
open Text (isAllBlank trim)

namespace Reference

variable {size : Int} {r s : Robot}

theorem facingSpelt?_name (f : Facing) : facingSpelt? f.name = some f := by
  cases f <;> decide

theorem isWritable_of_stands (h : Stands size r) :
    isWritable r.cell.x = true ∧ isWritable r.cell.y = true := by
  have hfits := Cell.fitsWord_of_onTable_reach h.2
  simp only [Cell.coordinates, List.all_cons, List.all_nil, Bool.and_true, Bool.and_eq_true] at hfits
  exact ⟨isWritable_of_fitsWord hfits.1, isWritable_of_fitsWord hfits.2⟩

theorem read?_replay (c : Cell) (f : Facing) :
    Placement.read? ("PLACE ".toList ++ Report.text ⟨c, f⟩) =
      some ⟨written c.x, written c.y, some f.name⟩ := by
  have htext : "PLACE ".toList ++ Report.text ⟨c, f⟩ =
      Placement.keyword ++ ' ' :: written c.x ++ ',' :: written c.y ++ ',' :: f.name := by
    simp [Report.text, Cell.text, Placement.keyword]
  rw [htext, Placement.read?_numbers_append c.x c.y (Report.isToken_name f).trim_eq,
    if_pos (Spelling.isWord_name f)]

theorem respond_replay (c : Cell) (f : Facing) :
    respond size r (some ("PLACE ".toList ++ Report.text ⟨c, f⟩)) =
      place size r ⟨written c.x, written c.y, some f.name⟩ :=
  respond_of_read? (read?_replay c f)

/-- A robot that stands within reach is put back where it was unless a coordinate is beyond
32 bits. -/
theorem place_replay (hs : Stands size s) (r : Robot) :
    place size r ⟨written s.cell.x, written s.cell.y, some s.facing.name⟩ =
      if s.cell.x ≤ 2147483647 ∧ s.cell.y ≤ 2147483647 then put s.cell s.facing
      else refuse r "Invalid PLACE coordinates.".toList := by
  obtain ⟨hx, -, hy, -⟩ := hs.2
  have hlanding : landing r (some s.facing.name) = .ok s.facing := by
    rw [landing, facingSpelt?_name]
  by_cases hfits : s.cell.x ≤ 2147483647 ∧ s.cell.y ≤ 2147483647
  · have htable : Cell.OnTable ⟨s.cell.x, s.cell.y⟩ size := hs.2.of_reach
    simp only [place, coordinate?_written, hlanding, if_pos hfits,
      if_pos (show -2147483648 ≤ s.cell.x ∧ s.cell.x ≤ 2147483647 by omega),
      if_pos (show -2147483648 ≤ s.cell.y ∧ s.cell.y ≤ 2147483647 by omega), if_pos htable]
  · rw [if_neg hfits]
    apply place_of_none
    rw [coordinate?_written, coordinate?_written]
    by_cases hxfits : s.cell.x ≤ 2147483647
    · exact .inr (if_neg (by omega))
    · exact .inl (if_neg (by omega))

end Reference

/-! ## Runs -/

open Reference

namespace Interpreter

section

variable [Routines] {size : Int} {r s : Robot}

theorem process_report (hr : Stands size r) {t : Text} (ht : keywordOf t = "REPORT".toList) :
    ((standard size r).process .initial (some t)).value =
      (.initial, standard size r, .reported (Report.text ⟨r.cell, r.facing⟩)) := by
  have hobey : obey size r Builtin.report.keyword = tell r := rfl
  have hrespond : respond size r (some t) = obey size r Builtin.report.keyword :=
    respond_of_keywordOf (by decide) hr.1 ht
  rw [process_standard (.inr hr), hrespond, hobey, Command.tell_eq]

theorem process_replay (hs : Stands size s) (hr : Lawful size r) :
    ((standard size r).process .initial
        (some ("PLACE ".toList ++ Report.text ⟨s.cell, s.facing⟩))).value =
      if s.cell.x ≤ 2147483647 ∧ s.cell.y ≤ 2147483647 then
        (.initial, standard size s, .placed s.cell s.facing)
      else (.initial, standard size r, .failed "Invalid PLACE coordinates.".toList) := by
  have hput : put s.cell s.facing = (s, .placed s.cell s.facing) := by
    rw [Command.put_eq, ← hs.1]
  rw [process_standard hr, respond_replay, place_replay hs, hput]
  split <;> rfl

/-- A payload reads back as the cell and the facing that it was written for.  At each point of a
run with a placed robot every text that means a report is answered by the payload of the robot;
and the payload behind the keyword of a placement, at any point of any run on a table of the
same size, puts the robot exactly there, or is refused for a coordinate beyond 32 bits. -/
theorem reports_replay :
    (∀ x y f, isWritable x = true → isWritable y = true →
        (Report.read? (Report.text ⟨⟨x, y⟩, f⟩)).value = some ⟨⟨x, y⟩, f⟩) ∧
      ∀ size, 1 ≤ size → ∀ lex i, Reachable size lex i → i.robot.placed = true →
        ∀ t, keywordOf t = "REPORT".toList →
        ∃ payload, (i.process lex (some t)).value = (lex, i, .reported payload) ∧
          (Report.read? payload).value = some ⟨i.robot.cell, i.robot.facing⟩ ∧
          ∀ lex' j, Reachable size lex' j →
            (j.process lex' (some ("PLACE ".toList ++ payload))).value =
              if i.robot.cell.x ≤ 2147483647 ∧ i.robot.cell.y ≤ 2147483647 then
                (lex', { j with robot := i.robot }, .placed i.robot.cell i.robot.facing)
              else (lex', j, .failed "Invalid PLACE coordinates.".toList) := by
  refine ⟨fun x y f => Report.value_read?_text f, ?_⟩
  intro size hsize lex i hi hplaced t ht
  obtain ⟨rfl, s, rfl, hs⟩ := hi.exists_lawful hsize
  have hstands : Stands size s := hs.stands hplaced
  obtain ⟨hx, hy⟩ := isWritable_of_stands hstands
  refine ⟨_, process_report hstands ht, Report.value_read?_text _ hx hy, ?_⟩
  intro lex' j hj
  obtain ⟨rfl, r, rfl, hr⟩ := hj.exists_lawful hsize
  exact process_replay hstands hr

end

/-- A robot that has stepped past 32 bits reports its place.  The payload reads back, but as a
placement it is refused, also by a robot at the start. -/
theorem reports_replay_past_32_bits :
    isWritable (-12) = true ∧ isWritable 10000000000 = true ∧
      (Report.read? (Report.text ⟨⟨-12, 10000000000⟩, .south⟩)).value =
        some ⟨⟨-12, 10000000000⟩, .south⟩ ∧
      (1 : Int) ≤ 4294967296 ∧
      Reachable 4294967296 .initial (standard 4294967296 ⟨true, ⟨2147483648, 7⟩, .west⟩) ∧
      Reachable 4294967296 .initial (standard 4294967296 .initial) ∧
      keywordOf " rePort\n".toList = "REPORT".toList ∧
      ∃ payload, ((standard 4294967296 ⟨true, ⟨2147483648, 7⟩, .west⟩).process .initial
          (some " rePort\n".toList)).value =
            (.initial, standard 4294967296 ⟨true, ⟨2147483648, 7⟩, .west⟩, .reported payload) ∧
        (Report.read? payload).value = some ⟨⟨2147483648, 7⟩, .west⟩ ∧
        ((standard 4294967296 .initial).process .initial
          (some ("PLACE ".toList ++ payload))).value =
            (.initial, standard 4294967296 .initial,
              .failed "Invalid PLACE coordinates.".toList) := by
  have hsmall : isWritable (-12) = true := by decide +kernel
  have hlarge : isWritable 10000000000 = true := by decide +kernel
  have hsize : (1 : Int) ≤ 4294967296 := by decide
  have hpast : Reachable 4294967296 .initial
      (standard 4294967296 ⟨true, ⟨2147483648, 7⟩, .west⟩) :=
    reachable_standard hsize (.inr ⟨rfl, by decide⟩)
  have hfresh : Reachable 4294967296 .initial (standard 4294967296 .initial) :=
    .fresh (new_initial hsize)
  have hword : keywordOf " rePort\n".toList = "REPORT".toList := by decide +kernel
  obtain ⟨payload, hreport, hread, hreplay⟩ :=
    reports_replay.2 4294967296 hsize _ _ hpast rfl _ hword
  exact ⟨hsmall, hlarge, reports_replay.1 _ _ _ hsmall hlarge, hsize, hpast, hfresh, hword,
    payload, hreport, hread, hreplay _ _ hfresh⟩

end Interpreter

end TableRobot
