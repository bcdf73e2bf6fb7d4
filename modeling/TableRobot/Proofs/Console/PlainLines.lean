import TableRobot.Proofs.Console.Loop
import TableRobot.Proofs.Interpreter.Legibility
/-!
# Plain lines

Plain lines have no escapes, and a command may have colons and arrows in it.
Yet a line with a legible outcome can be read: the last colon ends the command,
and an arrow behind it begins the payload.
-/

namespace TableRobot

open Text (fields trim)

/-! ## The last separator -/

def Text.splitLast (sep : Char) (t : Text) : Text × Text :=
  (((t.reverse.dropWhile (· != sep)).drop 1).reverse, (t.reverse.takeWhile (· != sep)).reverse)

theorem Text.splitLast_append {sep : Char} {behind : Text} (h : sep ∉ behind) (before : Text) :
    splitLast sep (before ++ sep :: behind) = (before, behind) := by
  have hbehind : ∀ c ∈ behind.reverse, (c != sep) = true := by
    intro c hc
    rw [bne_iff_ne]
    rintro rfl
    exact h (List.mem_reverse.1 hc)
  have hreverse : (before ++ sep :: behind).reverse = behind.reverse ++ sep :: before.reverse := by
    simp
  rw [splitLast, hreverse, List.dropWhile_append_of_pos hbehind,
    List.takeWhile_append_of_pos hbehind]
  simp

/-! ## Reading a line -/

namespace Console

open Interpreter (Reachable standard)

/-- The command and the outcome on a plain line: the last colon ends the command, and the last
arrow begins the payload. -/
def readPlain (line : Text) : Text × Outcome :=
  let (front, behind) := Text.splitLast ':' line
  let success := front.head? == some 'O'
  let command := front.drop (if success then 3 else 5)
  if '>' ∈ behind then
    let (message, payload) := Text.splitLast '>' (behind.drop 1)
    (command, ⟨success, message.dropLast.dropLast, some (payload.drop 1)⟩)
  else (command, ⟨success, behind.drop 1, none⟩)

theorem readPlain_plainLine {o : Outcome} (h : o.IsLegible) (command : Text) :
    readPlain (plainLine command o) = (command, o) := by
  obtain ⟨success, message, report⟩ := o
  have hmessage : message.IsProse := h.message
  have hnocolon : ':' ∉ message := hmessage.not_mem rfl
  let front := (if success then "OK ".toList else "FAIL ".toList) ++ command
  have hsuccess : (front.head? == some 'O') = success := by cases success <;> rfl
  have hcommand : front.drop (if success then 3 else 5) = command := by cases success <;> rfl
  cases report with
  | none =>
      have hline : plainLine command ⟨success, message, none⟩ = front ++ ':' :: ' ' :: message := by
        change front ++ ": ".toList ++ message ++ [] = _
        rw [List.append_nil, List.append_assoc]
        rfl
      have hcolon : ':' ∉ ' ' :: message := by simp [hnocolon]
      have harrow : '>' ∉ ' ' :: message := by
        have hnoarrow : '>' ∉ message := hmessage.not_mem rfl
        simp [hnoarrow]
      rw [hline, readPlain, Text.splitLast_append hcolon]
      simp only [hsuccess, hcommand, if_neg harrow, List.drop_one, List.tail_cons]
  | some payload =>
      have hpayload : payload.IsProse := h.report payload rfl
      let behind := (message ++ [' ', '-']) ++ '>' :: ' ' :: payload
      have hline : plainLine command ⟨success, message, some payload⟩ =
          front ++ ':' :: ' ' :: behind := by
        have hbehind : message ++ (" -> ".toList ++ payload) = behind :=
          (List.append_assoc message [' ', '-'] _).symm
        change front ++ ": ".toList ++ message ++ (" -> ".toList ++ payload) = _
        rw [List.append_assoc (front ++ _), hbehind, List.append_assoc]
        rfl
      have hcolon : ':' ∉ ' ' :: behind := by
        have hpayloadcolon : ':' ∉ payload := hpayload.not_mem rfl
        simp [behind, hnocolon, hpayloadcolon]
      have harrow : '>' ∈ ' ' :: behind := by simp [behind]
      have hsplit : Text.splitLast '>' behind = (message ++ [' ', '-'], ' ' :: payload) := by
        apply Text.splitLast_append
        have hnoarrow : '>' ∉ payload := hpayload.not_mem rfl
        simp [hnoarrow]
      rw [hline, readPlain, Text.splitLast_append hcolon]
      simp only [hsuccess, hcommand, if_pos harrow, List.drop_one, List.tail_cons, hsplit]
      simp

/-! ## Runs -/

theorem not_mem_plainLine {command : Text} {o : Outcome} (hcommand : '\n' ∉ command)
    (h : o.IsLegible) : '\n' ∉ plainLine command o := by
  have hmessage : '\n' ∉ o.message := h.message.not_mem rfl
  simp only [plainLine, List.mem_append, not_or]
  refine ⟨⟨⟨⟨?_, hcommand⟩, by decide⟩, hmessage⟩, ?_⟩
  · split <;> decide
  · split
    · exact List.not_mem_nil
    · next payload hpayload =>
        rw [List.mem_append, not_or]
        exact ⟨by decide, (h.report payload hpayload).not_mem rfl⟩

theorem not_mem_trim {line : Text} (h : '\n' ∉ line.dropLast) : '\n' ∉ trim line := by
  rcases List.eq_nil_or_concat line with rfl | ⟨front, c, rfl⟩
  · exact List.not_mem_nil
  · rw [List.concat_eq_append, List.dropLast_concat] at h
    rw [List.concat_eq_append]
    intro hmem
    by_cases hc : c = '\n'
    · rw [trim, hc, Text.trimBy_append_of_all (by decide)] at hmem
      exact h (Text.mem_of_mem_trimBy hmem)
    · rcases List.mem_append.1 (Text.mem_of_mem_trimBy hmem) with hmem | hmem
      · exact h hmem
      · exact hc (List.mem_singleton.1 hmem).symm

theorem not_mem_of_mem_commandsOf {lines : List Text} (h : ∀ line ∈ lines, '\n' ∉ line.dropLast)
    {command : Text} (hcommand : command ∈ commandsOf lines) : '\n' ∉ command := by
  rw [commandsOf_eq, List.mem_map] at hcommand
  obtain ⟨line, hline, rfl⟩ := hcommand
  exact not_mem_trim (h line (List.mem_filter.1 hline).1)

section

variable [Routines]

/-- Interpreters with the built-in commands, at any point of a run.  What a run of the console
over lines writes has one line for each command among them, if a line feed stands at most at the
end of each line.  A plain line tells the command from the outcome, whatever the command is. -/
theorem plain_lines_are_unambiguous :
    (∀ size, 1 ≤ size → ∀ lex i, Reachable size lex i → ∀ lines : List Text,
      (∀ line ∈ lines, '\n' ∉ line.dropLast) →
      let commands := commandsOf lines
      let outcomes := (i.processAll lex (commands.map some)).value.2.2
      let printed := ((Session.start lex i).run lines).value.transcript.text .plain
      ∃ rows, fields '\n' printed = rows ++ [[]] ∧ rows.length = commands.length ∧
        outcomes.length = commands.length ∧ rows = List.zipWith plainLine commands outcomes) ∧
      ∀ size size', 1 ≤ size → 1 ≤ size' → ∀ lex i lex' i', Reachable size lex i →
        Reachable size' lex' i' → ∀ command command' : Text,
        let o := (i.process lex (some command)).value.2.2
        let o' := (i'.process lex' (some command')).value.2.2
        plainLine command o = plainLine command' o' → command = command' ∧ o = o' := by
  constructor
  · intro size hsize lex i h lines hlines commands outcomes printed
    have hprinted : printed = Transcript.text .plain (commands.zip outcomes) := rfl
    have hlength : outcomes.length = commands.length := by
      rw [Interpreter.length_processAll, List.length_map]
    refine ⟨List.zipWith plainLine commands outcomes, ?_, ?_, hlength, rfl⟩
    · rw [hprinted]
      apply Transcript.fields_text_zip
      intro e he
      obtain ⟨hcommand, ho⟩ := List.of_mem_zip he
      exact not_mem_plainLine (not_mem_of_mem_commandsOf hlines hcommand)
        (h.isLegible_processAll hsize _ e.2 ho)
    · rw [List.length_zipWith, hlength, Nat.min_self]
  · intro size size' hsize hsize' lex i lex' i' h h' command command' o o' heq
    have hread : readPlain (plainLine command o) = (command, o) :=
      readPlain_plainLine (h.isLegible_process hsize (some command)) command
    have hread' : readPlain (plainLine command' o') = (command', o') :=
      readPlain_plainLine (h'.isLegible_process hsize' (some command')) command'
    rw [heq, hread'] at hread
    exact ⟨(Prod.mk.inj hread).1.symm, (Prod.mk.inj hread).2.symm⟩

end

/-- A command that looks like the line of a report, before that report. -/
theorem plain_lines_are_unambiguous_arrow :
    let placed := standard 6 ⟨true, ⟨1, 1⟩, .east⟩
    let forged := "report: REPORT -> 1,1,EAST".toList
    let lines := [forged ++ ['\n'], " report".toList]
    (1 : Int) ≤ 6 ∧ Reachable 6 .initial placed ∧ (∀ line ∈ lines, '\n' ∉ line.dropLast) ∧
      fields '\n' (((Session.start .initial placed).run lines).value.transcript.text .plain) =
        ["FAIL report: REPORT -> 1,1,EAST: Invalid command.".toList,
          "OK report: REPORT -> 1,1,EAST".toList, []] ∧
      plainLine forged (placed.process .initial (some forged)).value.2.2 ≠
        plainLine "report".toList (placed.process .initial (some "report".toList)).value.2.2 := by
  intro placed forged lines
  have hone : (1 : Int) ≤ 6 := by decide
  have hplaced : Reachable 6 .initial placed := by
    have h := (Reachable.fresh (Interpreter.new_initial hone)).call
      (.process (some "PLACE 1,1,EAST".toList))
    have hafter : (standard 6 .initial).after .initial
        (.process (some "PLACE 1,1,EAST".toList)) = (.initial, placed) := by decide +kernel
    rwa [hafter] at h
  have hlines : ∀ line ∈ lines, '\n' ∉ line.dropLast := by decide
  obtain ⟨hruns, hpairs⟩ := plain_lines_are_unambiguous
  obtain ⟨rows, hfields, -, -, hrows⟩ := hruns 6 hone .initial placed hplaced lines hlines
  refine ⟨hone, hplaced, hlines, ?_, ?_⟩
  · rw [hfields, hrows]
    decide +kernel
  · intro heq
    have hcommands := (hpairs 6 6 hone hone _ _ _ _ hplaced hplaced _ _ heq).1
    exact absurd hcommands (by decide)

end Console

end TableRobot
