import TableRobot.Proofs.Console.Decoding
import TableRobot.Proofs.Console.Loop
import TableRobot.Proofs.Interpreter.Refinement
/-!
# Many files, one run

The console makes one interpreter and feeds it the lines of the files one file
after the other.  What it does is what one run over all these lines does: the
robot goes on from file to file, and no line is joined with the first one of the
next file.  The first file that cannot be opened ends the program, and what was
written before it stays.
-/

namespace TableRobot.Console

open Text (encoded)

/-! ## Lines that are cut short -/

def isLineEnd (c : Char) : Bool := c == '\n' || c == '\r'

def StopsAtLineEnd (t : Text) : Prop := t.getLast?.all isLineEnd = true

theorem StopsAtLineEnd.tail {c : Char} {t : Text} (h : StopsAtLineEnd (c :: t)) :
    StopsAtLineEnd t := by
  cases t with
  | nil => rfl
  | cons d t => rwa [StopsAtLineEnd, List.getLast?_cons_cons] at h

theorem linesFrom_cons {c : Char} (hc : isLineEnd c = false) (last t : Text) :
    linesFrom last (c :: t) = linesFrom (c :: last) t := by
  simp only [isLineEnd, Bool.or_eq_false_iff, beq_eq_false_iff_ne] at hc
  rw [linesFrom]
  · rintro u rfl
    exact absurd rfl hc.2
  · rintro rfl
    exact absurd rfl hc.2
  · rintro rfl
    exact absurd rfl hc.1

theorem linesFrom_of_none {last t : Text} (h : t.any isLineEnd = false)
    (hne : last.reverse ++ t ≠ []) : linesFrom last t = [last.reverse ++ t] := by
  induction t generalizing last with
  | nil =>
      have hlast : last ≠ [] := by simpa using hne
      rw [linesFrom, if_neg hlast, List.append_nil]
  | cons c t ih =>
      have hreverse : (c :: last).reverse ++ t = last.reverse ++ c :: t := by simp
      rw [List.any_cons, Bool.or_eq_false_iff] at h
      rw [linesFrom_cons h.1, ih h.2 (by rwa [hreverse]), hreverse]

theorem linesFrom_append {last front rest : Text} (hstops : StopsAtLineEnd front)
    (hfront : front = [] → last = []) (hrest : rest.head? ≠ some '\n') :
    linesFrom last (front ++ rest) = linesFrom last front ++ linesFrom [] rest := by
  fun_induction linesFrom last front with
  | case1 => rfl
  | case2 last hlast => exact absurd (hfront rfl) hlast
  | case3 last t ih =>
      rw [List.cons_append, List.cons_append, linesFrom, ih hstops.tail.tail (fun _ => rfl)]
      rfl
  | case4 last t hnot ih =>
      have hcut : ∀ u, t ++ rest = '\n' :: u → False := by
        intro u hu
        cases t with
        | nil => exact hrest (congrArg List.head? hu)
        | cons c t => exact hnot t (congrArg (· :: t) (List.cons.inj hu).1)
      rw [List.cons_append, linesFrom, ih hstops.tail (fun _ => rfl)]
      · rfl
      · exact hcut
  | case5 last t ih =>
      rw [List.cons_append, linesFrom, ih hstops.tail (fun _ => rfl)]
      rfl
  | case6 last c t _ hreturn hfeed ih =>
      have hc : isLineEnd c = false := by
        simpa [isLineEnd] using ⟨hfeed, hreturn⟩
      have ht : t ≠ [] := by
        rintro rfl
        exact Bool.false_ne_true (hc.symm.trans hstops)
      rw [List.cons_append, linesFrom_cons hc, ih hstops.tail fun h => absurd h ht]

/-- A last line without an end is a line of its own, whatever the next file begins with. -/
theorem lines_append_last {front last : Text} (hstops : StopsAtLineEnd front) (hne : last ≠ [])
    (hlast : last.any isLineEnd = false) : lines (front ++ last) = lines front ++ [last] := by
  have hhead : last.head? ≠ some '\n' := by
    intro hhead
    exact List.any_eq_false.1 hlast '\n' (List.mem_of_head? hhead) rfl
  have hwhole : linesFrom [] last = [last] := linesFrom_of_none hlast hne
  rw [lines, linesFrom_append hstops (fun _ => rfl) hhead, hwhole]
  rfl

/-! ## Files in order -/

variable {files : Text → Except OpenReason (List UInt8)}

/-- Holds of the path of a file in UTF-8, with the text of the file. -/
def Opens (files : Text → Except OpenReason (List UInt8)) (path text : Text) : Prop :=
  '\x00' ∉ path ∧ files path = .ok (encoded text)

def Lacks (files : Text → Except OpenReason (List UInt8)) (path : Text) (reason : OpenReason) :
    Prop :=
  '\x00' ∉ path ∧ files path = .error reason

theorem exists_opened (paths : List Text)
    (h : ∀ path ∈ paths, (∃ text, Opens files path text) ∨ ∃ reason, Lacks files path reason) :
    ∃ opened : List (Text × Text), (∀ e ∈ opened, Opens files e.1 e.2) ∧
      (paths = opened.map Prod.fst ∨
        ∃ path reason rest, paths = opened.map Prod.fst ++ path :: rest ∧
          Lacks files path reason) := by
  induction paths with
  | nil => exact ⟨[], by simp, .inl rfl⟩
  | cons path paths ih =>
      rcases h path List.mem_cons_self with ⟨text, htext⟩ | ⟨reason, hreason⟩
      · obtain ⟨opened, hopened, hpaths⟩ := ih fun p hp => h p (List.mem_cons_of_mem path hp)
        refine ⟨(path, text) :: opened, List.forall_mem_cons.2 ⟨htext, hopened⟩, ?_⟩
        rcases hpaths with rfl | ⟨missing, reason, rest, rfl, hmissing⟩
        · exact .inl rfl
        · exact .inr ⟨missing, reason, rest, rfl, hmissing⟩
      · exact ⟨[], by simp, .inr ⟨path, reason, paths, rfl, hreason⟩⟩

theorem takeWhile_isOk {opened : List (Text × Text)} {path : Text} {reason : OpenReason}
    (hopened : ∀ e ∈ opened, Opens files e.1 e.2) (hpath : Lacks files path reason)
    (rest : List Text) :
    (opened.map Prod.fst ++ path :: rest).takeWhile (fun p => (files p).isOk) =
      opened.map Prod.fst := by
  have hok : ∀ p ∈ opened.map Prod.fst, (files p).isOk = true := by
    intro p hp
    obtain ⟨e, he, rfl⟩ := List.mem_map.1 hp
    rw [(hopened e he).2]
    rfl
  have hstop : (path :: rest).takeWhile (fun p => (files p).isOk) = [] := by
    rw [List.takeWhile_cons, hpath.2]
    rfl
  rw [List.takeWhile_append_of_pos hok, hstop, List.append_nil]

section

variable [Routines]

theorem feed_ofBytes_encoded (s : Session) (text : Text) :
    feed s (.ofBytes (encoded text)) = (do
      let s ← s.run (lines text)
      pure (s, none)) := by
  rw [Source.ofBytes_encoded]
  rfl

theorem feedFiles_cons_of_lacks (s : Session) {path : Text} {reason : OpenReason}
    (h : Lacks files path reason) (paths : List Text) :
    feedFiles s files (path :: paths) = (do
      Logged.tell (.unreadable path (reason.message path))
      pure (s, some .unreadable)) := by
  rw [feedFiles, if_neg (by simpa using h.1), h.2]

/-- Files that can be opened are fed like one text with all their lines. -/
theorem feedFiles_append {opened : List (Text × Text)}
    (h : ∀ e ∈ opened, Opens files e.1 e.2) (s : Session) (paths : List Text) :
    feedFiles s files (opened.map Prod.fst ++ paths) = (do
      let s ← s.run (opened.flatMap fun e => lines e.2)
      feedFiles s files paths) := by
  induction opened generalizing s with
  | nil => rw [List.flatMap_nil, Session.run_nil, pure_bind, List.map_nil, List.nil_append]
  | cons e opened ih =>
      obtain ⟨⟨hpath, hfile⟩, hopened⟩ := List.forall_mem_cons.1 h
      rw [List.map_cons, List.cons_append, feedFiles, if_neg (by simpa using hpath), hfile]
      simp only [feed_ofBytes_encoded, bind_assoc, pure_bind, ih hopened, List.flatMap_cons,
        Session.run_append]

/-! ## The program -/

/-- What is done after the files: the text is handed out, and without an early end the number of
failures is told. -/
def conclude (style : Style) : Session × Option Ending → Logged Result
  | (s, some ending) => pure ⟨s.transcript.text style, ending⟩
  | (s, none) => do
      Logged.tell (.finished s.transcript.failures)
      pure ⟨s.transcript.text style, .done⟩

variable {settings : Settings} {input : Source} {o : Options} {size : Int}

theorem program_eq (hsize : o.tableSize.resolve settings.tableSize = .ok size) (hone : 1 ≤ size)
    (hfiles : o.files ≠ []) :
    program settings files input o = (do
      let _ ← Interpreter.new .initial size
      Logged.tell (.opened size)
      let fed ← feedFiles (.start .initial (.standard size .initial)) files o.files
      conclude o.style fed) := by
  rw [program, hsize]
  simp only [if_neg hfiles]
  rw [Logged.bind_of_value (Interpreter.new_initial hone)]
  apply bind_congr
  intro _
  apply bind_congr
  intro _
  apply bind_congr
  rintro ⟨s, ending?⟩
  cases ending? <;> rfl

/-- Files in UTF-8, and files that cannot be opened, in any order.  What the program writes and
tells of is what one new interpreter gives in one run over the lines of the files that stand before
the first one that cannot be opened, and the exit code tells if there is such a file.  The journal
ends with the number of failures in all files, or with the file that cannot be opened.  A last line
without an end stays a line of its own. -/
theorem files_are_one_run
    (hsize : o.tableSize.resolve settings.tableSize = .ok size) (hone : 1 ≤ size)
    (hfiles : o.files ≠ [])
    (husable : ∀ path ∈ o.files,
      (∃ text, Opens files path text) ∨ ∃ reason, Lacks files path reason) :
    (∃ (i : Interpreter) (opened : List (Text × Text)),
      (Interpreter.new .initial size).value = (.initial, .ok i) ∧
      (∀ e ∈ opened, Opens files e.1 e.2) ∧
      let whole := (Session.start .initial i).run (opened.flatMap fun e => lines e.2)
      let result := program settings files input o
      let journal := (Interpreter.new .initial size).events ++ .opened size :: whole.events
      result.value.output = whole.value.transcript.text o.style ∧
        ((o.files = opened.map Prod.fst ∧ result.value.ending.code = 0 ∧
            result.events = journal ++
              [.finished (whole.value.transcript.countP fun e => !e.2.success)]) ∨
          ∃ path reason rest, o.files = opened.map Prod.fst ++ path :: rest ∧
            Lacks files path reason ∧ result.value.ending.code = 1 ∧
            result.events = journal ++ [.unreadable path (reason.message path)])) ∧
      ∀ front last next : Text, StopsAtLineEnd front → last ≠ [] → last.any isLineEnd = false →
        lines (front ++ last) ++ lines next = lines front ++ last :: lines next := by
  constructor
  · obtain ⟨opened, hopened, hpaths⟩ := exists_opened o.files husable
    refine ⟨_, opened, Interpreter.new_initial hone, hopened, ?_⟩
    have hfeed := feedFiles_append hopened (.start .initial (.standard size .initial))
    rw [program_eq hsize hone hfiles]
    rcases hpaths with hall | ⟨path, reason, rest, hrest, hlacks⟩
    · have hend := hfeed []
      rw [List.append_nil, ← hall] at hend
      rw [hend]
      refine ⟨rfl, .inl ⟨hall, rfl, ?_⟩⟩
      simp only [bind_assoc, Logged.events_bind, Logged.events_tell, feedFiles, conclude,
        pure_bind, Logged.events_pure, List.append_assoc, List.cons_append, List.append_nil]
      rfl
    · have hend := hfeed (path :: rest)
      simp only [← hrest, feedFiles_cons_of_lacks _ hlacks] at hend
      rw [hend]
      refine ⟨rfl, .inr ⟨path, reason, rest, hrest, hlacks, rfl, ?_⟩⟩
      simp only [bind_assoc, pure_bind, conclude, Logged.events_bind, Logged.events_tell,
        Logged.events_pure, List.append_assoc, List.cons_append, List.nil_append, List.append_nil]
  · intro front last next hstops hne hlast
    rw [lines_append_last hstops hne hlast, List.append_assoc, List.singleton_append]

end

/-- The second file goes on behind the last line of the first one, which has no end.  The third
one is missing, and the fourth one is not read any more. -/
theorem files_are_one_run_until_missing :
    let first := "place 0,0,north\n".toList ++ "move".toList
    let files : Text → Except OpenReason (List UInt8) := fun path =>
      if path = "a".toList then .ok (encoded first)
      else if path = "b".toList then .ok (encoded "report".toList)
      else .error .missing
    let o : Options :=
      { Options.initial with files := ["a".toList, "b".toList, "c".toList, "a".toList] }
    let result := program ⟨6, false⟩ files ⟨[], none⟩ o
    o.tableSize.resolve 6 = .ok 6 ∧ (1 : Int) ≤ 6 ∧ o.files ≠ [] ∧
      (∀ path ∈ o.files, (∃ text, Opens files path text) ∨ ∃ reason, Lacks files path reason) ∧
      (∃ opened : List (Text × Text), (∀ e ∈ opened, Opens files e.1 e.2) ∧
        opened.map Prod.fst = ["a".toList, "b".toList] ∧
        result.value.output = ((Session.start .initial (.standard 6 .initial)).run
          (opened.flatMap fun e => lines e.2)).value.transcript.text .plain) ∧
      result.value = ⟨("OK place 0,0,north: Placed at 0,0 facing NORTH.\n" ++
        "OK move: Moved to 0,1.\nOK report: REPORT -> 0,1,NORTH\n").toList, .unreadable⟩ ∧
      lines first ++ lines "report".toList =
        ["place 0,0,north".toList, "move".toList, "report".toList] := by
  intro first files o result
  have hsize : o.tableSize.resolve 6 = .ok 6 := rfl
  have hone : (1 : Int) ≤ 6 := by decide
  have hfiles : o.files ≠ [] := List.cons_ne_nil _ _
  have ha : Opens files "a".toList first := ⟨by decide, rfl⟩
  have hb : Opens files "b".toList "report".toList := ⟨by decide, rfl⟩
  have hc : Lacks files "c".toList .missing := ⟨by decide, rfl⟩
  have husable : ∀ path ∈ o.files,
      (∃ text, Opens files path text) ∨ ∃ reason, Lacks files path reason := by
    intro path hpath
    simp only [o, List.mem_cons, List.not_mem_nil, or_false] at hpath
    rcases hpath with rfl | rfl | rfl | rfl
    · exact .inl ⟨_, ha⟩
    · exact .inl ⟨_, hb⟩
    · exact .inr ⟨_, hc⟩
    · exact .inl ⟨_, ha⟩
  obtain ⟨⟨i, opened, hi, hopened, houtput, hends⟩, hlast⟩ :=
    @files_are_one_run files _ ⟨6, false⟩ ⟨[], none⟩ o 6 hsize hone hfiles husable
  have hresult : result.value = ⟨("OK place 0,0,north: Placed at 0,0 facing NORTH.\n" ++
      "OK move: Moved to 0,1.\nOK report: REPORT -> 0,1,NORTH\n").toList, .unreadable⟩ := by
    decide +kernel
  have hstandard : i = .standard 6 .initial := by
    have h := hi.symm.trans (Interpreter.new_initial hone)
    exact Except.ok.inj (Prod.mk.inj h).2
  have hbefore : opened.map Prod.fst = ["a".toList, "b".toList] := by
    rcases hends with ⟨-, hcode, -⟩ | ⟨path, reason, rest, hpaths, hlacks, -⟩
    · rw [show (program _ _ _ _).value = _ from hresult] at hcode
      cases hcode
    · rw [← takeWhile_isOk hopened hlacks rest, ← hpaths]
      rfl
  subst hstandard
  refine ⟨hsize, hone, hfiles, husable, ⟨opened, hopened, hbefore, houtput⟩, hresult, ?_⟩
  have hfront : lines "place 0,0,north\n".toList = ["place 0,0,north".toList] := by decide +kernel
  have hnext : lines "report".toList = ["report".toList] := by decide +kernel
  have hcut := hlast "place 0,0,north\n".toList "move".toList "report".toList rfl (by decide) rfl
  rw [hfront, hnext] at hcut
  exact hcut

end TableRobot.Console
