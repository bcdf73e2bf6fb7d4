import TableRobot.Proofs.Console.Loop
import TableRobot.Proofs.Json.Written
/-!
# Outcomes on lines

With outcomes as JSON, what a run writes is a log that loses nothing: it falls
into one line for each command, and each line reads as the object with this
command and the fields of its outcome.  No command and no message can break a
line, since a line feed is written as an escape.
-/

namespace TableRobot.Console

open Text (fields)

theorem not_mem_json_line (command : Text) (o : Outcome) :
    '\n' ∉ Style.json.line command o := by
  intro hfeed
  exact absurd (List.all_eq_true.1 (Json.all_isPlain_outcome command o) '\n' hfeed) (by decide)

variable [Routines]

/-- Any interpreter, with any commands, and any lines.  What a run writes as JSON are plain
characters and the line feeds that end the lines.  It has a line for each command among the lines,
and these lines read as the objects with the commands and with their outcomes, in order. -/
theorem json_lines_read_back (lex : Lexicon) (i : Interpreter) (lines : List Text) :
    let commands := commandsOf lines
    let outcomes := (i.processAll lex (commands.map some)).value.2.2
    let printed := ((Session.start lex i).run lines).value.transcript.text .json
    (∀ c ∈ printed, c = '\n' ∨ 0x20 ≤ c.toNat ∧ c.toNat ≤ 0x7E) ∧
      ∃ rows, fields '\n' printed = rows ++ [[]] ∧ rows.length = commands.length ∧
        outcomes.length = commands.length ∧
        rows.map Json.read? = List.zipWith (fun command o => some
          (.object [("command".toList, .string command), ("success".toList, .boolean o.success),
            ("message".toList, .string o.message), ("report".toList, o.report.elim .null .string)]))
          commands outcomes := by
  intro commands outcomes printed
  have hprinted : printed = Transcript.text .json (commands.zip outcomes) := rfl
  have hlength : outcomes.length = commands.length := by
    rw [Interpreter.length_processAll, List.length_map]
  constructor
  · intro c hc
    obtain ⟨e, -, hc⟩ := List.mem_flatMap.1 hc
    rw [List.mem_append, List.mem_singleton] at hc
    exact hc.symm.imp_right fun hc =>
      Json.isPlain_iff.1 (List.all_eq_true.1 (Json.all_isPlain_outcome e.1 e.2) c hc)
  · refine ⟨List.zipWith Json.outcome commands outcomes, ?_, ?_, hlength, ?_⟩
    · rw [hprinted]
      exact Transcript.fields_text_zip fun e _ => not_mem_json_line e.1 e.2
    · rw [List.length_zipWith, hlength, Nat.min_self]
    · simp only [List.map_zipWith, Json.read?_outcome, Json.ofOutcome]

end TableRobot.Console
