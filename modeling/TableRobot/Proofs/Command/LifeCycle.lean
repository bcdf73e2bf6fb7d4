import TableRobot.Proofs.Command.Verdicts
import TableRobot.Proofs.Numeral.Coordinates
/-!
# The life cycle of a command

A command of a built-in kind may be matched, bound, spoilt and executed in any
order and any number of times.  A record of its uses tells all that matters
about it: whether it has been spoilt and with which complaint last, and for a
placement whether it has accepted a line.  What one use keeps of that is proved
for each use, and a run of uses keeps it by induction.
-/

namespace TableRobot

open Numeral (fits32_iff fitsWord fitsWord_iff fitsWord_wrapWord maxWord minWord wrapWord)

namespace Command

/-! ## Uses -/

inductive Use where
  | attempt (words : List Text)
  | bind (size : Int)
  | spoil (message : Text)
  | execute (r : Robot)

inductive Entry where
  | matched (words : List Text) (verdict : Verdict)
  | bound (size : Int)
  | spoilt (message : Text)
  | executed (r : Robot) (result : Except Fault (Robot × Outcome))

/-- The error message that stays behind: that of a match which gives a reason, or the message
with which a command is spoilt. -/
def Entry.complaint? : Entry → Option Text
  | matched _ (.declined reason) => reason
  | spoilt message => some message
  | _ => none

def Entry.isAcceptance : Entry → Bool
  | matched _ .accepted => true
  | _ => false

def complaints (record : List Entry) : List Text := record.filterMap Entry.complaint?

section

variable [Routines]

def use (c : Command) : Use → Command × Entry
  | .attempt words => ((c.attempt words).1, .matched words (c.attempt words).2)
  | .bind size => (c.bind size, .bound size)
  | .spoil message => (c.spoil (some message), .spoilt message)
  | .execute r => (c, .executed r (c.execute r).value)

def handle (c : Command) : List Use → Command × List Entry
  | [] => (c, [])
  | u :: uses =>
      let (d, entry) := c.use u
      let (last, record) := d.handle uses
      (last, entry :: record)

end

/-! ## What the record tells -/

variable {c : Command}

theorem complaints_append_of_none {e : Entry} (he : e.complaint? = none) (record : List Entry) :
    complaints (record ++ [e]) = complaints record := by
  simp [complaints, he]

theorem complaints_append_of_some {e : Entry} {m : Text} (he : e.complaint? = some m)
    (record : List Entry) : complaints (record ++ [e]) = complaints record ++ [m] := by
  simp [complaints, he]

/-- What the record of a command of a built-in kind tells about it.  It tells of coordinates only
while the command is valid: a line that cannot be used may take the place of one of them. -/
structure Kept (b : Builtin) (name : Text) (record : List Entry) (c : Command) : Prop where
  isOf : c.IsOf b name
  valid_iff : c.valid = true ↔ complaints record = []
  complaint_eq : ∀ m, (complaints record).getLast? = some m → c.complaint = some m
  coordinates : b = .place → c.valid = true → record.any Entry.isAcceptance = true →
    c.HasCoordinates
  unmatched : b = .place → c.valid = true → record.any Entry.isAcceptance = false → c.x? = none

namespace Kept

variable {b : Builtin} {name : Text} {record : List Entry} {d : Command} {e : Entry} {m : Text}

theorem bind (h : Kept b name record c) (size : Int) : Kept b name record (c.bind size) :=
  ⟨h.isOf.bind size, h.valid_iff, h.complaint_eq, h.coordinates, h.unmatched⟩

theorem append_quiet (h : Kept b name record c) (he : e.complaint? = none)
    (haccepted : e.isAcceptance = false) : Kept b name (record ++ [e]) c := by
  have hcomplaints := complaints_append_of_none he record
  have hany : (record ++ [e]).any Entry.isAcceptance = record.any Entry.isAcceptance := by
    simp [haccepted]
  refine ⟨h.isOf, ?_, ?_, ?_, ?_⟩
  · rw [hcomplaints]
    exact h.valid_iff
  · rw [hcomplaints]
    exact h.complaint_eq
  · rw [hany]
    exact h.coordinates
  · rw [hany]
    exact h.unmatched

theorem append_complaint (hd : d.IsOf b name) (he : e.complaint? = some m) (record : List Entry) :
    Kept b name (record ++ [e]) (d.spoil (some m)) := by
  have hcomplaints := complaints_append_of_some he record
  refine ⟨hd.spoil _, ?_, fun n hn => ?_, nofun, nofun⟩
  · rw [hcomplaints]
    exact ⟨nofun, fun hnil => absurd hnil (by simp)⟩
  · rw [hcomplaints, List.getLast?_concat] at hn
    exact hn

theorem append_acceptance (h : Kept b name record c) (x? y? : Option Int) (facing? : Option Text)
    (hcoordinates : b = .place → (c.noting x? y? facing?).HasCoordinates) (words : List Text) :
    Kept b name (record ++ [.matched words .accepted]) (c.noting x? y? facing?) := by
  have hcomplaints : complaints (record ++ [.matched words .accepted]) = complaints record :=
    complaints_append_of_none rfl record
  refine ⟨h.isOf.noting _ _ _, ?_, ?_, fun hb _ _ => hcoordinates hb, fun _ _ hany => ?_⟩
  · rw [hcomplaints]
    exact h.valid_iff
  · rw [hcomplaints]
    exact h.complaint_eq
  · simp [Entry.isAcceptance] at hany

variable [Routines]

theorem use (h : Kept b name record c) (u : Use) :
    Kept b name (record ++ [(c.use u).2]) (c.use u).1 := by
  cases u with
  | attempt words =>
      obtain ⟨d, hattempt, hleaves⟩ := h.isOf.exists_attempt words
      simp only [Command.use, hattempt]
      clear hattempt
      -- what is left depends on the verdict alone, not on the words that led to it
      generalize b.verdict name words = v at hleaves ⊢
      cases hleaves with
      | declined => exact h.append_quiet rfl rfl
      | spoilt x? y? reason => exact append_complaint (h.isOf.noting x? y? c.facing?) rfl record
      | accepted x? y? facing? hcoordinates =>
          exact h.append_acceptance x? y? facing? hcoordinates words
  | bind size => exact (h.bind size).append_quiet rfl rfl
  | spoil message => exact append_complaint h.isOf rfl record
  | execute r => exact h.append_quiet rfl rfl

theorem handle (h : Kept b name record c) (uses : List Use) :
    Kept b name (record ++ (c.handle uses).2) (c.handle uses).1 := by
  induction uses generalizing c record with
  | nil =>
      rw [Command.handle, List.append_nil]
      exact h
  | cons u uses ih =>
      -- what has been recorded before stays in front of what comes
      have hrest := ih (h.use u)
      rw [List.append_assoc] at hrest
      exact hrest

end Kept

/-! ## Executions -/

theorem spoilt_of_complaint {m : Text} (h : c.complaint = some m) :
    c.spoilt = .failed (if m = [] then "Invalid command.".toList else m) := by
  cases m with
  | nil =>
      rw [spoilt, h]
      rfl
  | cons letter rest =>
      rw [spoilt, h]
      rfl

/-- A step between machine words may wrap around, but it ends. -/
theorem exists_performMove {r : Robot} (hr : r.cell.coordinates.all fitsWord = true) :
    ∃ result, c.performMove r = .ok result := by
  have htarget : Cell.coordinates ⟨wrapWord (r.cell.ahead r.facing).x,
      wrapWord (r.cell.ahead r.facing).y⟩ |>.all fitsWord := by
    simp [Cell.coordinates, fitsWord_wrapWord]
  simp only [performMove, Cell.step_eq_ok hr, Cell.onTable_eq_ok htarget, Bind.bind, Except.bind]
  split
  · exact ⟨_, rfl⟩
  · exact ⟨_, rfl⟩

theorem exists_new_builtin (b : Builtin) (name : Text) :
    ∃ c, new (.builtin b) name = .ok c ∧ Kept b name [] c := by
  exact ⟨_, rfl, ⟨rfl, rfl, rfl⟩, ⟨fun _ => rfl, fun _ => rfl⟩, nofun, nofun, fun _ _ _ => rfl⟩

section

variable [Routines]

theorem execute_of_spoilt (h : c.valid = false) (r : Robot) :
    (c.execute r).value = .ok (r, c.spoilt) := by
  rw [execute, h]
  rfl

theorem robot_of_execute_failed {r moved : Robot} {o : Outcome}
    (h : (c.execute r).value = .ok (moved, o)) (hfailed : o.success = false) : moved = r := by
  cases hvalid : c.valid with
  | false =>
      rw [execute_of_spoilt hvalid] at h
      cases h
      rfl
  | true =>
      rw [value_execute hvalid] at h
      cases hperform : (c.perform r).value with
      | error fault =>
          rw [hperform] at h
          cases h
      | ok result =>
          rw [hperform] at h
          cases h
          rw [hfailed]
          rfl

theorem exists_execute_iff (h : c.valid = true) (r : Robot) :
    (∃ result, (c.execute r).value = .ok result) ↔ ∃ result, (c.perform r).value = .ok result := by
  rw [value_execute h]
  cases (c.perform r).value with
  | error fault => exact Iff.rfl
  | ok result => exact ⟨fun _ => ⟨result, rfl⟩, fun _ => ⟨_, rfl⟩⟩

theorem exists_perform_of_ne {b : Builtin} (haction : c.action = .builtin b) (hb : b ≠ .place)
    {r : Robot} (hr : r.cell.coordinates.all fitsWord = true) :
    ∃ result, (c.perform r).value = .ok result := by
  rw [perform, haction]
  cases b with
  | place => exact absurd rfl hb
  | move => exact exists_performMove hr
  | left => exact ⟨_, rfl⟩
  | right => exact ⟨_, rfl⟩
  | report => exact ⟨_, rfl⟩

theorem exists_perform_of_hasCoordinates (haction : c.action = .builtin .place)
    (h : c.HasCoordinates) (r : Robot) : ∃ result, (c.perform r).value = .ok result := by
  obtain ⟨x, y, hx, hy, hx32, hy32⟩ := h
  have hfits : Cell.coordinates ⟨x, y⟩ |>.all fitsWord := by
    rw [fits32_iff] at hx32 hy32
    simp only [Cell.coordinates, List.all_cons, List.all_nil, Bool.and_true, Bool.and_eq_true,
      fitsWord_iff, minWord, maxWord]
    omega
  rw [perform, haction]
  exact ⟨_, performPlace_of_some hx hy hfits r⟩

theorem perform_of_unmatched (haction : c.action = .builtin .place) (h : c.x? = none)
    (r : Robot) : (c.perform r).value = .error .notMatched := by
  rw [perform, haction]
  simp only [performPlace, h]
  rfl

namespace Kept

variable {b : Builtin} {name : Text} {record : List Entry}

/-- Nothing that is done with a spoilt command mends it. -/
theorem valid_handle (h : Kept b name record c) (hspoilt : c.valid = false) (more : List Use) :
    (c.handle more).1.valid = false := by
  rw [← Bool.not_eq_true, (h.handle more).valid_iff, complaints, List.filterMap_append,
    List.append_eq_nil_iff]
  rintro ⟨hnone, -⟩
  rw [h.valid_iff.2 hnone] at hspoilt
  cases hspoilt

theorem exists_complaint (h : Kept b name record c) (hspoilt : c.valid = false) :
    ∃ m, (complaints record).getLast? = some m ∧ ∀ r, (c.execute r).value =
      .ok (r, .failed (if m = [] then "Invalid command.".toList else m)) := by
  have hne : complaints record ≠ [] := by
    intro hnone
    rw [h.valid_iff.2 hnone] at hspoilt
    cases hspoilt
  obtain ⟨m, hm⟩ := Option.ne_none_iff_exists'.1 (mt List.getLast?_eq_none_iff.1 hne)
  refine ⟨m, hm, fun r => ?_⟩
  rw [execute_of_spoilt hspoilt, spoilt_of_complaint (h.complaint_eq m hm)]

/-- An execution ends unless it is that of a placement that is not spoilt and has accepted no
line. -/
theorem exists_execute_iff (h : Kept b name record c) {r : Robot}
    (hr : r.cell.coordinates.all fitsWord = true) :
    (∃ result, (c.execute r).value = .ok result) ↔
      b ≠ .place ∨ c.valid = false ∨ record.any Entry.isAcceptance = true := by
  have haction := h.isOf.action_eq
  cases hvalid : c.valid with
  | false => exact ⟨fun _ => .inr (.inl rfl), fun _ => ⟨_, execute_of_spoilt hvalid r⟩⟩
  | true =>
      rw [Command.exists_execute_iff hvalid]
      by_cases hb : b = .place
      · subst hb
        cases haccepted : record.any Entry.isAcceptance with
        | true =>
            have hcoordinates := h.coordinates rfl hvalid haccepted
            exact ⟨fun _ => .inr (.inr rfl),
              fun _ => exists_perform_of_hasCoordinates haction hcoordinates r⟩
        | false =>
            rw [perform_of_unmatched haction (h.unmatched rfl hvalid haccepted)]
            simp
      · exact ⟨fun _ => .inl hb, fun _ => exists_perform_of_ne haction hb hr⟩

end Kept

/-- A command of a built-in kind can be made under every name, and then it may be used in any way
and order.  A match is always answered, by the words alone, and it gives a reason exactly if the
examination of the words throws a fault, which is told.  The command is valid as long as there has
been no complaint.  Once it is spoilt it stays so, and each execution leaves the robot as it is and
fails with the latest complaint, or as an invalid command if that is empty.  An execution that
fails gives back the robot that it was given, and between machine words each execution ends but
that of a placement that is not spoilt and has accepted no line.  After an acceptance a placement
is spoilt or has two coordinates of 32 bits. -/
theorem uses_keep_life_cycle (b : Builtin) (name : Text) :
    ∃ c, new (.builtin b) name = .ok c ∧
      ∀ uses d record, c.handle uses = (d, record) →
        (∀ words, (d.attempt words).2 = b.verdict name words ∧
          ∀ m, b.verdict name words = .declined (some m) ↔
            ∃ fault, (d.examine words).2 = .error fault ∧ fault.message = m) ∧
        (d.valid = true ↔ complaints record = []) ∧
        (d.valid = false → (∀ more, (d.handle more).1.valid = false) ∧
          ∃ m, (complaints record).getLast? = some m ∧ ∀ r, (d.execute r).value =
            .ok (r, .failed (if m = [] then "Invalid command.".toList else m))) ∧
        (∀ r moved o, (d.execute r).value = .ok (moved, o) → o.success = false → moved = r) ∧
        (∀ r, r.cell.coordinates.all fitsWord = true →
          ((∃ result, (d.execute r).value = .ok result) ↔
            b ≠ .place ∨ d.valid = false ∨ record.any Entry.isAcceptance = true)) ∧
        (b = .place → record.any Entry.isAcceptance = true →
          d.valid = false ∨ d.HasCoordinates) := by
  obtain ⟨c, hnew, hc⟩ := exists_new_builtin b name
  refine ⟨c, hnew, fun uses d record huses => ?_⟩
  have h : Kept b name record d := by
    have hkept := hc.handle uses
    rw [huses, List.nil_append] at hkept
    exact hkept
  refine ⟨fun words => ⟨h.isOf.verdict_attempt words, fun m => h.isOf.verdict_eq_declined_iff⟩,
    h.valid_iff, fun hspoilt => ⟨h.valid_handle hspoilt, h.exists_complaint hspoilt⟩,
    fun r moved o => robot_of_execute_failed, fun r => h.exists_execute_iff,
    fun hb haccepted => ?_⟩
  cases hvalid : d.valid with
  | false => exact .inl rfl
  | true => exact .inr (h.coordinates hb hvalid haccepted)

end

def wholeLine : Use := .attempt ["place".toList, "7".toList, "-8".toList]

/-- A line of which a placement can use the first coordinate only. -/
def halfLine : Use := .attempt ["PLACE".toList, "9".toList, "2147483648".toList]

/-- A placement that has accepted a line can be carried out by a robot in the corner of the machine
word.  When it takes the first coordinate from the next line and finds no use for the second, it is
spoilt for good, and it tells so of every robot. -/
theorem uses_keep_life_cycle_half_line :
    ∃ c d e record later, new (.builtin .place) Placement.keyword = .ok c ∧
      c.handle [wholeLine] = (d, record) ∧ c.handle [wholeLine, .bind 0, halfLine] = (e, later) ∧
      d.valid = true ∧ record.any Entry.isAcceptance = true ∧ d.HasCoordinates ∧
      (Cell.coordinates ⟨maxWord, minWord⟩).all fitsWord = true ∧
      (∃ result, (d.execute ⟨true, ⟨maxWord, minWord⟩, .east⟩).value = .ok result) ∧
      e.x? = some 9 ∧ e.y? = none ∧ e.valid = false ∧
      (complaints later).getLast? = some "Invalid PLACE coordinates.".toList ∧
      (∀ more, (e.handle more).1.valid = false) ∧
      ∀ r, (e.execute r).value = .ok (r, .failed "Invalid PLACE coordinates.".toList) := by
  obtain ⟨c, hnew, huses⟩ := uses_keep_life_cycle .place Placement.keyword
  obtain rfl : fresh .place = c := Except.ok.inj hnew
  have hvalid : ((fresh .place).handle [wholeLine]).1.valid = true := by decide +kernel
  have haccepted : ((fresh .place).handle [wholeLine]).2.any Entry.isAcceptance = true := by
    decide +kernel
  have hword : (Cell.coordinates ⟨maxWord, minWord⟩).all fitsWord = true := by decide
  have hinvalid : ((fresh .place).handle [wholeLine, .bind 0, halfLine]).1.valid = false := by
    decide +kernel
  have hlatest : (complaints ((fresh .place).handle [wholeLine, .bind 0, halfLine]).2).getLast? =
      some "Invalid PLACE coordinates.".toList := by
    decide +kernel
  obtain ⟨-, -, -, -, hends, hcoordinates⟩ := huses [wholeLine] _ _ rfl
  obtain ⟨-, -, hspoilt, -⟩ := huses [wholeLine, .bind 0, halfLine] _ _ rfl
  obtain ⟨hstays, m, hm, htells⟩ := hspoilt hinvalid
  obtain rfl : "Invalid PLACE coordinates.".toList = m := Option.some.inj (hlatest.symm.trans hm)
  have hcell : ((fresh .place).handle [wholeLine]).1.HasCoordinates := by
    cases hcoordinates rfl haccepted with
    | inl hfalse => cases hvalid.symm.trans hfalse
    | inr hcell => exact hcell
  exact ⟨fresh .place, _, _, _, _, hnew, rfl, rfl, hvalid, haccepted, hcell, hword,
    (hends _ hword).2 (.inr (.inr haccepted)), by decide +kernel, by decide +kernel, hinvalid,
    hlatest, hstays, htells⟩

end Command

end TableRobot
