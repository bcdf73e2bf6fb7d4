import TableRobot.Proofs.Console.Loop
import TableRobot.Proofs.Interpreter.Refinement
/-!
# Skipped lines

The console passes over blank lines and comments.  An interpreter with the
built-in commands would refuse each of them and stay as it is: a comment is no
placement, and in capitals it is no keyword.  So a run of the console does to
the robot what all its lines do, and it writes the outcomes that they have among
all lines.
-/

namespace TableRobot

open Text (capital_of_ascii capitals capitals_cons isAllBlank trim)

/-! ## Comments -/

theorem Text.head?_capitals_of_hash {t : Text} (h : t.head? = some '#') :
    (capitals t).head? = some '#' := by
  obtain ⟨u, rfl⟩ := List.head?_eq_some_iff.1 h
  rw [capitals_cons, capital_of_ascii (by decide)]
  rfl

theorem Placement.read?_of_hash {t : Text} (h : (trim t).head? = some '#') : read? t = none := by
  apply read?_eq_none_of_take
  intro hkey
  obtain ⟨u, hu⟩ := List.head?_eq_some_iff.1 (Text.head?_capitals_of_hash h)
  rw [hu] at hkey
  cases hkey

theorem Transitions.entry_standard_of_hash {w : Text} (h : w.head? = some '#') (placed : Bool) :
    standard.entry placed w = .refuse (fallback placed) := by
  cases placed with
  | false => exact entry_standard_false w
  | true =>
      apply entry_standard_unknown
      rintro b - rfl
      revert h
      cases b <;> decide

/-! ## Lines of the console -/

namespace Interpreter

variable [Routines]

theorem process_trim (i : Interpreter) (lex : Lexicon) {t : Text} (h : trim t ≠ []) :
    i.process lex (some (trim t)) = i.process lex (some t) := by
  have hblank : ∀ {u : Text}, trim u ≠ [] → ¬isAllBlank u = true :=
    fun hu hall => hu (Text.trim_of_isAllBlank hall)
  have htwice : trim (trim t) = trim t := Text.trim_trim t
  rw [process, process, if_neg (hblank h), if_neg (hblank (by rwa [htwice])), htwice]

theorem value_process_of_hash (size : Int) (r : Robot) (lex : Lexicon) {line : Text}
    (h : (trim line).head? = some '#') :
    ((standard size r).process lex (some line)).value =
      (lex, standard size r, .refused (Transitions.fallback r.placed)) := by
  have hblank : isAllBlank line = false := by
    cases hblank : isAllBlank line with
    | false => rfl
    | true =>
        rw [Text.trim_of_isAllBlank hblank] at h
        cases h
  have hread : Placement.read? (trim line) = none := by
    rw [Placement.read?_trim]
    exact Placement.read?_of_hash h
  have hkeyword : (keywordOf (trim line)).head? = some '#' := by
    rw [keywordOf, Text.trim_trim]
    exact Text.head?_capitals_of_hash h
  have hentry : (standard size r).transitions.entry (standard size r).robot.placed
      (keywordOf (trim line)) = .refuse (Transitions.fallback r.placed) :=
    Transitions.entry_standard_of_hash hkeyword r.placed
  have hdispatch : ((standard size r).dispatch lex (trim line)).value =
      (lex, .ok (r, .refused (Transitions.fallback r.placed))) := by
    rw [dispatch, hread]
    simp only [dispatchKeyword, hentry]
    rfl
  rw [value_process _ _ hblank, hdispatch]
  rfl

theorem exists_value_process_of_not_holdsCommand (size : Int) (r : Robot) (lex : Lexicon)
    {line : Text} (h : Console.holdsCommand line = false) :
    ∃ reason, ((standard size r).process lex (some line)).value =
      (lex, standard size r, .refused reason) := by
  by_cases hnil : trim line = []
  · exact ⟨.empty, value_process_of_blank _ lex (Text.isAllBlank_of_trim hnil)⟩
  · have hhash : (trim line).head? = some '#' := by
      simpa [Console.holdsCommand, hnil] using h
    exact ⟨_, value_process_of_hash size r lex hhash⟩

end Interpreter

/-! ## Runs -/

namespace Console

open Interpreter (standard)

/-- Lines with the outcomes of those that hold a command. -/
def Transcript.ofLines (lines : List Text) (outcomes : List Outcome) : Transcript :=
  ((lines.zip outcomes).filter fun e => holdsCommand e.1).map fun e => (trim e.1, e.2)

theorem commandsOf_cons (line : Text) (lines : List Text) :
    commandsOf (line :: lines) =
      if holdsCommand line then trim line :: commandsOf lines else commandsOf lines := by
  rw [commandsOf_eq, commandsOf_eq, List.filter_cons]
  split <;> rfl

theorem Transcript.ofLines_cons (line : Text) (lines : List Text) (o : Outcome)
    (outcomes : List Outcome) :
    ofLines (line :: lines) (o :: outcomes) =
      if holdsCommand line then (trim line, o) :: ofLines lines outcomes
      else ofLines lines outcomes := by
  rw [ofLines, List.zip_cons_cons, List.filter_cons]
  split <;> rfl

section

variable [Routines]

/-- The commands alone lead to where all lines lead, with the outcomes that they have among all
lines. -/
theorem processAll_commandsOf (size : Int) (r : Robot) (lex : Lexicon) (lines : List Text) :
    let kept := ((standard size r).processAll lex ((commandsOf lines).map some)).value
    let whole := ((standard size r).processAll lex (lines.map some)).value
    kept.1 = whole.1 ∧ kept.2.1 = whole.2.1 ∧
      (commandsOf lines).zip kept.2.2 = Transcript.ofLines lines whole.2.2 := by
  induction lines generalizing r lex with
  | nil => exact ⟨rfl, rfl, rfl⟩
  | cons line lines ih =>
      cases hline : holdsCommand line with
      | false =>
          obtain ⟨reason, hskip⟩ :=
            Interpreter.exists_value_process_of_not_holdsCommand size r lex hline
          simp only [commandsOf_cons, hline, List.map_cons, Interpreter.processAll,
            Logged.value_bind, Logged.value_map, hskip, Transcript.ofLines_cons,
            Bool.false_eq_true, if_false]
          exact ih r lex
      | true =>
          have hne : trim line ≠ [] := by
            rintro hnil
            simp [holdsCommand, hnil] at hline
          obtain ⟨next, hnext⟩ := (standard size r).exists_robot_process lex (some line)
          change _ = standard size next at hnext
          simp only [commandsOf_cons, hline, if_true, List.map_cons, Interpreter.processAll,
            Interpreter.process_trim _ lex hne, Logged.value_bind, Logged.value_map,
            Transcript.ofLines_cons, hnext]
          obtain ⟨hlex, hinterpreter, hzip⟩ :=
            ih next ((standard size r).process lex (some line)).value.1
          exact ⟨hlex, hinterpreter, congrArg (_ :: ·) hzip⟩

/-- An interpreter with the built-in commands, whatever has become of its robot and of the lexicon.
A run of the console over lines counts the failures among the outcomes of the commands and
writes one of these outcomes for each command, in order.  It leaves what processing all lines as
they are leaves, blank lines and comments included, and the outcomes that it writes are those that
the commands have among all lines. -/
theorem skipped_lines_leave_no_trace {size : Int} (hsize : 1 ≤ size) (r : Robot) (lex : Lexicon)
    (style : Style) (lines : List Text) :
    ∃ i, (Interpreter.new .initial size).value = (.initial, .ok i) ∧
      let j := { i with robot := r }
      let printed := ((Session.start lex j).run lines).value
      let kept := (j.processAll lex ((commandsOf lines).map some)).value
      let whole := (j.processAll lex (lines.map some)).value
      printed.transcript.failures = kept.2.2.countP (fun o => !o.success) ∧
        kept.2.2.length = (commandsOf lines).length ∧
        printed.transcript.text style = (List.zipWith (fun command o =>
          style.line command o ++ ['\n']) (commandsOf lines) kept.2.2).flatten ∧
        printed.interpreter = whole.2.1 ∧ printed.lexicon = whole.1 ∧
        whole.2.2.length = lines.length ∧
        printed.transcript = ((lines.zip whole.2.2).filter fun e => holdsCommand e.1).map
          fun e => (trim e.1, e.2) := by
  refine ⟨_, Interpreter.new_initial hsize, ?_⟩
  intro j printed kept whole
  obtain ⟨hlex, hinterpreter, hzip⟩ := processAll_commandsOf size r lex lines
  have hlength : kept.2.2.length = (commandsOf lines).length := by
    rw [Interpreter.length_processAll, List.length_map]
  have hwhole : whole.2.2.length = lines.length := by
    rw [Interpreter.length_processAll, List.length_map]
  exact ⟨Transcript.failures_zip hlength, hlength, Transcript.text_zip style _ _, hinterpreter,
    hlex, hwhole, hzip⟩

end

/-- A comment and an empty line stand between the commands, and the last command is refused. -/
theorem skipped_lines_leave_no_trace_comment :
    let lines := ["  # move\n".toList, "\n".toList, " move\r\n".toList, "jump".toList]
    (1 : Int) ≤ 6 ∧ ∃ i, (Interpreter.new .initial 6).value = (.initial, .ok i) ∧
      let j := { i with robot := ⟨true, ⟨1, 1⟩, .east⟩ }
      let printed := ((Session.start .initial j).run lines).value
      let whole := (j.processAll .initial (lines.map some)).value
      commandsOf lines = ["move".toList, "jump".toList] ∧
        printed.transcript.failures = 1 ∧
        printed.transcript.text .plain =
          "OK move: Moved to 2,1.\nFAIL jump: Invalid command.\n".toList ∧
        whole.2.2 = [.refused .unknown, .refused .empty, .moved ⟨2, 1⟩, .refused .unknown] ∧
        printed.interpreter = whole.2.1 ∧ printed.interpreter.robot = ⟨true, ⟨2, 1⟩, .east⟩ := by
  intro lines
  have hone : (1 : Int) ≤ 6 := by decide
  obtain ⟨i, hi, hfailures, -, htext, hinterpreter, -⟩ :=
    skipped_lines_leave_no_trace hone ⟨true, ⟨1, 1⟩, .east⟩ .initial .plain lines
  have hstandard : i = standard 6 .initial := by
    have h := hi.symm.trans (Interpreter.new_initial hone)
    exact Except.ok.inj (Prod.mk.inj h).2
  refine ⟨hone, i, hi, by decide +kernel, ?_, ?_, ?_, hinterpreter, ?_⟩
  · rw [hfailures, hstandard]
    decide +kernel
  · rw [htext, hstandard]
    decide +kernel
  · rw [hstandard]
    decide +kernel
  · rw [hinterpreter, hstandard]
    decide +kernel

end Console

end TableRobot
