import TableRobot.Console.Run
import TableRobot.Proofs.Interpreter.Runs
/-!
# A run as a loop

A run of the console is a loop over the commands among its lines: each command
is processed on its own, and its outcome is written before the next one is
looked at.  So runs over parts of the lines are one run over all of them, with
the same journal.
-/

namespace TableRobot

/-! ## Commands among lines -/

namespace Console

def holdsCommand (line : Text) : Bool := Text.trim line != [] && (Text.trim line).head? != some '#'

theorem commandsOf_eq (lines : List Text) :
    commandsOf lines = (lines.filter holdsCommand).map Text.trim := by
  rw [commandsOf, List.filter_map]
  rfl

theorem commandsOf_append (lines more : List Text) :
    commandsOf (lines ++ more) = commandsOf lines ++ commandsOf more := by
  rw [commandsOf, List.map_append, List.filter_append]
  rfl

end Console

/-! ## Commands with their outcomes -/

namespace Console.Transcript

theorem failures_zip {commands : List Text} {outcomes : List Outcome}
    (h : outcomes.length = commands.length) :
    failures (commands.zip outcomes) = outcomes.countP fun o => !o.success := by
  have houtcomes : (commands.zip outcomes).map Prod.snd = outcomes :=
    List.map_snd_zip (Nat.le_of_eq h)
  rw [← houtcomes, List.countP_map, houtcomes]
  rfl

theorem text_zip (style : Style) (commands : List Text) (outcomes : List Outcome) :
    text style (commands.zip outcomes) =
      (List.zipWith (fun command o => style.line command o ++ ['\n'])
        commands outcomes).flatten := by
  rw [text, List.flatMap_def, List.zip, List.map_zipWith]

theorem fields_text {style : Style} {t : Transcript} (h : ∀ e ∈ t, '\n' ∉ style.line e.1 e.2) :
    Text.fields '\n' (text style t) = t.map (fun e => style.line e.1 e.2) ++ [[]] := by
  induction t with
  | nil => rfl
  | cons e t ih =>
      have htail := ih fun f hf => h f (List.mem_cons_of_mem e hf)
      rw [text, List.flatMap_cons, List.append_assoc, List.singleton_append,
        Text.fields_append_cons (h e List.mem_cons_self), ← text, htail]
      rfl

theorem fields_text_zip {style : Style} {commands : List Text} {outcomes : List Outcome}
    (h : ∀ e ∈ commands.zip outcomes, '\n' ∉ style.line e.1 e.2) :
    Text.fields '\n' (text style (commands.zip outcomes)) =
      List.zipWith style.line commands outcomes ++ [[]] := by
  rw [fields_text h, List.zip, List.map_zipWith]

end Console.Transcript

/-! ## The loop -/

namespace Console.Session

variable [Routines]

def step (s : Session) (command : Text) : Logged Session := do
  let (lexicon, interpreter, outcome) ← s.interpreter.process s.lexicon (some command)
  pure ⟨lexicon, interpreter, s.transcript ++ [(command, outcome)]⟩

/-- Processing all commands at once is processing them one by one. -/
theorem foldlM_step (s : Session) (commands : List Text) :
    commands.foldlM step s = (do
      let (lexicon, interpreter, outcomes) ←
        s.interpreter.processAll s.lexicon (commands.map some)
      pure ⟨lexicon, interpreter, s.transcript ++ commands.zip outcomes⟩) := by
  induction commands generalizing s with
  | nil => simp only [List.foldlM_nil, List.map_nil, Interpreter.processAll, pure_bind,
      List.zip_nil_left, List.append_nil]
  | cons command commands ih =>
      simp only [List.foldlM_cons, step, List.map_cons, Interpreter.processAll, bind_assoc,
        pure_bind, ih, bind_map_left, List.zip_cons_cons, List.append_assoc,
        List.singleton_append]

theorem run_eq_foldlM (s : Session) (lines : List Text) :
    s.run lines = (commandsOf lines).foldlM step s := (s.foldlM_step _).symm

theorem run_nil (s : Session) : s.run [] = pure s := s.run_eq_foldlM []

theorem run_append (s : Session) (lines more : List Text) :
    s.run (lines ++ more) = (do
      let s ← s.run lines
      s.run more) := by
  simp only [run_eq_foldlM, commandsOf_append, List.foldlM_append]

end Console.Session

end TableRobot
