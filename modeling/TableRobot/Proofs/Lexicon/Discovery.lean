import TableRobot.Lexicon.Basic
/-!
# What discovery leaves behind

Discovery binds free keywords and loads groups: labels stay, and so do the names
of commands.  A lexicon that it completes settles, and after that every look-up
answers from the settled lexicon.
-/

namespace TableRobot.Lexicon

open Text (capitals)

variable {lex settled : Lexicon}

/-! ## Steps of a discovery -/

theorem capitals_keyword (b : Builtin) : capitals b.keyword = b.keyword := by
  cases b <;> decide +kernel

/-- What discovery can make of a lexicon: it binds free keywords to built-in kinds, loads
groups, and is done. -/
inductive Progress (lex : Lexicon) : Lexicon → Prop where
  | start : Progress lex lex
  | bound {next : Lexicon} (h : Progress lex next) {name : Text}
      (hfree : next.kind? (capitals name) = none) (b : Builtin) :
      Progress lex (next.bound (capitals name) (.builtin b))
  | loaded {next : Lexicon} (h : Progress lex next) (g : Group) :
      Progress lex { next with loaded := next.loaded ++ [g] }
  | discovered {next : Lexicon} (h : Progress lex next) :
      Progress lex { next with discovered := true }

theorem Progress.trans {mid next : Lexicon} (h : Progress lex mid) (hnext : Progress mid next) :
    Progress lex next := by
  induction hnext with
  | start => exact h
  | bound _ hfree b ih => exact ih.bound hfree b
  | loaded _ g ih => exact ih.loaded g
  | discovered _ ih => exact ih.discovered

theorem progress_of_bind {name : Text} {b : Builtin} {next : Lexicon}
    (h : (lex.bind name (.builtin b)).value = .ok next) : Progress lex next := by
  rw [bind] at h
  split at h
  · split at h
    · exact Except.ok.inj h ▸ .start
    · cases h
  · next hfree => exact Except.ok.inj h ▸ Progress.start.bound hfree b

theorem progress_makeAll (lex : Lexicon) (bs : List Builtin) :
    Progress lex (lex.makeAll bs).value.1 := by
  induction bs generalizing lex with
  | nil => exact .start
  | cons b bs ih =>
      rw [makeAll]
      cases hfree : lex.kind? b.keyword with
      | some holder => exact .start
      | none =>
          rw [← capitals_keyword b] at hfree ⊢
          exact (Progress.start.bound hfree b).trans (ih _)

theorem progress_load (lex : Lexicon) (g : Group) : Progress lex (lex.load g).value.1 := by
  rw [load]
  split
  · exact .start
  · have hmake := lex.progress_makeAll g.kinds
    simp only [Logged.value_bind]
    cases hresult : (lex.makeAll g.kinds).value with
    | mk next result =>
        rw [hresult] at hmake
        cases result with
        | ok => exact hmake.loaded g
        | error fault => exact hmake

theorem progress_bindAll (lex : Lexicon) (bs : List Builtin) :
    Progress lex (lex.bindAll bs).value.1 := by
  induction bs generalizing lex with
  | nil => exact .start
  | cons b bs ih =>
      rw [bindAll]
      split
      · exact ih lex
      · simp only [Logged.value_bind]
        cases hbind : (lex.bind (lex.label (.builtin b)) (.builtin b)).value with
        | ok next => exact (progress_of_bind hbind).trans (ih next)
        | error fault => exact .start

theorem progress_visit (lex : Lexicon) (g : Group) : Progress lex (lex.visit g).value.1 := by
  have hload := lex.progress_load g
  simp only [visit, Logged.value_bind]
  cases hresult : (lex.load g).value with
  | mk next result =>
      rw [hresult] at hload
      cases result with
      | ok => exact hload.trans (next.progress_bindAll g.kinds)
      | error fault => exact hload

theorem progress_visitAll (lex : Lexicon) (gs : List Group) :
    Progress lex (lex.visitAll gs).value.1 := by
  induction gs generalizing lex with
  | nil => exact .start
  | cons g gs ih =>
      have hvisit := lex.progress_visit g
      simp only [visitAll, Logged.value_bind]
      cases hresult : (lex.visit g).value with
      | mk next result =>
          rw [hresult] at hvisit
          cases result with
          | ok => exact hvisit.trans (ih next)
          | error fault => exact hvisit

theorem progress_discover (lex : Lexicon) : Progress lex lex.discover.value.1 := by
  rw [discover]
  split
  · exact .start
  · have hvisit := lex.progress_visitAll Group.all
    simp only [Logged.value_bind]
    cases hresult : (lex.visitAll Group.all).value with
    | mk next result =>
        rw [hresult] at hvisit
        cases result with
        | ok => exact hvisit.discovered
        | error fault => exact hvisit

/-! ## Labels and groups stay -/

theorem labels_of_bind {name : Text} {k : Kind} (h : (lex.bind name k).value = .ok settled) :
    settled.labels = lex.labels := by
  rw [bind] at h
  split at h
  · split at h
    · exact (Except.ok.inj h) ▸ rfl
    · cases h
  · exact (Except.ok.inj h) ▸ rfl

theorem Progress.labels {next : Lexicon} (h : Progress lex next) : next.labels = lex.labels := by
  induction h with
  | start => rfl
  | bound _ _ _ ih => exact ih
  | loaded _ _ ih => exact ih
  | discovered _ ih => exact ih

theorem labels_discover (lex : Lexicon) : lex.discover.value.1.labels = lex.labels :=
  lex.progress_discover.labels

theorem Progress.mem_loaded {next : Lexicon} {g : Group} (h : Progress lex next)
    (hg : g ∈ lex.loaded) : g ∈ next.loaded := by
  induction h with
  | start => exact hg
  | bound _ _ _ ih => exact ih
  | loaded _ _ ih => exact List.mem_append_left _ ih
  | discovered _ ih => exact ih

/-! ## Look-ups -/

theorem value_afterDiscovery_fst {α : Type} (lex : Lexicon)
    (answer : Lexicon → Logged (Except Fault α)) :
    (lex.afterDiscovery answer).value.1 = lex.discover.value.1 := by
  simp only [afterDiscovery, Logged.value_bind]
  cases lex.discover.value with
  | mk next result => cases result <;> rfl

theorem value_afterDiscovery_of_fault {α : Type} {fault : Fault}
    (h : lex.discover.value.2 = .error fault) (answer : Lexicon → Logged (Except Fault α)) :
    (lex.afterDiscovery answer).value.2 = .error fault := by
  simp only [afterDiscovery, Logged.value_bind]
  cases hdiscover : lex.discover.value with
  | mk next result =>
      rw [hdiscover] at h
      obtain rfl : result = .error fault := h
      rfl

/-! ## Settled lexicons -/

/-- Holds of a lexicon and what discovery makes of it, if no keyword is in the way. -/
def Settles (lex settled : Lexicon) : Prop := lex.discover.value = (settled, .ok ())

theorem Settles.value_discover (h : Settles lex settled) :
    lex.discover.value = (settled, .ok ()) := h

theorem Settles.discovered (h : Settles lex settled) : settled.discovered = true := by
  rw [Settles, discover] at h
  split at h
  · next hlex =>
      obtain rfl := (Prod.mk.inj h).1
      exact hlex
  · simp only [Logged.value_bind] at h
    split at h
    · exact (Prod.mk.inj h).1 ▸ rfl
    · cases (Prod.mk.inj h).2

theorem settles_of_discovered (h : lex.discovered = true) : Settles lex lex := by
  rw [Settles, discover, if_pos h]
  rfl

theorem Settles.refl (h : Settles lex settled) : Settles settled settled :=
  settles_of_discovered h.discovered

/-- Commands have the names before discovery that they have after it. -/
theorem Settles.newCommand (h : Settles lex settled) (k : Kind) :
    lex.newCommand k = settled.newCommand k := by
  have hlabels := labels_discover lex
  rw [h.value_discover] at hlabels
  have hlabel : lex.label k = settled.label k := by rw [label, label, hlabels]
  rw [Lexicon.newCommand, Lexicon.newCommand, nameOf, nameOf, hlabel]

theorem Settles.value_afterDiscovery {α : Type} (h : Settles lex settled)
    (answer : Lexicon → Logged (Except Fault α)) :
    (lex.afterDiscovery answer).value = (settled, (answer settled).value) := by
  simp only [afterDiscovery, Logged.value_bind, h.value_discover]
  rfl

end TableRobot.Lexicon
