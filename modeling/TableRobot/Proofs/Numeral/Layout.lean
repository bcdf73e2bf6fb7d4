import TableRobot.Numeral.Reader
import TableRobot.Proofs.Text.Tokens
/-!
# The grammar of numerals

In the wide form a numeral is a sign or none and rows of digits with single
underscores between them, and white space may stand around it.  A text is read
as an integer exactly if it has a layout of this kind with at most 4300 digits.
-/

namespace TableRobot.Numeral

open Text

def IsRow (ds : Text) : Prop := ds ≠ [] ∧ ds.all isDigit = true

inductive Sign where
  | absent
  | plus
  | minus
  deriving DecidableEq, Repr

namespace Sign

def text : Sign → Text
  | absent => []
  | plus => ['+']
  | minus => ['-']

def isMinus : Sign → Bool
  | minus => true
  | _ => false

end Sign

/-- A text cut into the parts of a numeral. The groups are the rows of digits between the
underscores. -/
structure Layout where
  before : Text
  sign : Sign
  groups : List Text
  after : Text
  before_blank : before.all isNumeralBlank = true
  groups_ne_nil : groups ≠ []
  isRow_groups : ∀ g ∈ groups, IsRow g
  after_blank : after.all isNumeralBlank = true

namespace Layout

def body (l : Layout) : Text := joined ['_'] l.groups

def text (l : Layout) : Text := l.before ++ (l.sign.text ++ l.body) ++ l.after

def digits (l : Layout) : Text := l.groups.flatten

def value (l : Layout) : Int := signed l.sign.isMinus (numberOf l.digits)

def plain (s : Sign) {ds : Text} (h : IsRow ds) : Layout where
  before := []
  sign := s
  groups := [ds]
  after := []
  before_blank := rfl
  groups_ne_nil := List.cons_ne_nil ds []
  isRow_groups := fun g hg => by rwa [List.mem_singleton.1 hg]
  after_blank := rfl

@[simp] theorem text_plain (s : Sign) {ds : Text} (h : IsRow ds) :
    (plain s h).text = s.text ++ ds :=
  List.append_nil _

@[simp] theorem digits_plain (s : Sign) {ds : Text} (h : IsRow ds) : (plain s h).digits = ds :=
  List.append_nil ds

@[simp] theorem value_plain (s : Sign) {ds : Text} (h : IsRow ds) :
    (plain s h).value = signed s.isMinus (numberOf ds) := by
  rw [value, digits_plain]
  rfl

end Layout

/-! ## Characters of numerals -/

theorem not_mem_of_all_isDigit {ds : Text} {c : Char} (hc : isDigit c = false)
    (h : ds.all isDigit = true) : c ∉ ds := fun hm => by
  rw [List.all_eq_true.1 h c hm] at hc
  exact absurd hc (by decide)

theorem ne_of_isDigit {c d : Char} (hc : isDigit c = false) (hd : isDigit d = true) : d ≠ c := by
  rintro rfl
  exact Bool.false_ne_true (hc.symm.trans hd)

theorem not_isNumeralBlank_of_isDigit {c : Char} (h : isDigit c = true) :
    isNumeralBlank c = false := by
  have htoken := isTokenChar_of_isDigit h
  simp only [isTokenChar, Bool.and_eq_true, Bool.not_eq_true'] at htoken
  rw [isNumeralBlank, htoken.1, Bool.false_and]

theorem isBodyChar_iff {c : Char} : isBodyChar c = true ↔ c = '_' ∨ isDigit c = true := by
  simp [isBodyChar]

theorem splitSign_cons {c : Char} (hplus : c ≠ '+') (hminus : c ≠ '-') (ds : Text) :
    splitSign (c :: ds) = (false, c :: ds) := by
  simp [splitSign, hplus, hminus]

theorem exists_sign_of_splitSign (t : Text) :
    ∃ s : Sign, t = s.text ++ (splitSign t).2 ∧ s.isMinus = (splitSign t).1 := by
  unfold splitSign
  split
  · exact ⟨.plus, rfl, rfl⟩
  · exact ⟨.minus, rfl, rfl⟩
  · exact ⟨.absent, rfl, rfl⟩

namespace Layout

variable {l : Layout}

theorem underscore_not_mem_of_mem_groups : ∀ g ∈ l.groups, '_' ∉ g := fun g hg =>
  not_mem_of_all_isDigit (by decide +kernel) (l.isRow_groups g hg).2

theorem isBodyChar_of_mem_body {c : Char} (hc : c ∈ l.body) : isBodyChar c = true := by
  rw [isBodyChar_iff]
  rcases mem_joined hc with hc | ⟨g, hg, hc⟩
  · exact .inl (List.mem_singleton.1 hc)
  · exact .inr (List.all_eq_true.1 (l.isRow_groups g hg).2 c hc)

theorem head_body (l : Layout) : ∃ d ds, l.body = d :: ds ∧ isDigit d = true := by
  obtain ⟨g, gs, hgroups⟩ := List.exists_cons_of_ne_nil l.groups_ne_nil
  obtain ⟨hne, hdigits⟩ := l.isRow_groups g (hgroups ▸ List.mem_cons_self)
  obtain ⟨d, ds, rfl⟩ := List.exists_cons_of_ne_nil hne
  rw [List.all_cons, Bool.and_eq_true] at hdigits
  rw [body, hgroups]
  cases gs with
  | nil => exact ⟨d, ds, rfl, hdigits.1⟩
  | cons f fs => exact ⟨d, _, rfl, hdigits.1⟩

/-! ## Reading a layout -/

theorem splitSign_core (l : Layout) :
    splitSign (l.sign.text ++ l.body) = (l.sign.isMinus, l.body) := by
  cases l.sign with
  | absent =>
      obtain ⟨d, ds, hbody, hd⟩ := l.head_body
      have hplus : d ≠ '+' := ne_of_isDigit (by decide +kernel) hd
      have hminus : d ≠ '-' := ne_of_isDigit (by decide +kernel) hd
      rw [hbody]
      exact splitSign_cons hplus hminus ds
  | plus => rfl
  | minus => rfl

theorem trim_text (l : Layout) : trimBy isNumeralBlank l.text = l.sign.text ++ l.body := by
  have hsign : l.sign.text.any isNumeralBlank = false := by
    cases l.sign <;> rfl
  have hne : l.sign.text ++ l.body ≠ [] := by
    obtain ⟨d, ds, hbody, -⟩ := l.head_body
    simp [hbody]
  refine trimBy_pad_of_none l.before_blank l.after_blank hne fun c hc => ?_
  rcases List.mem_append.1 hc with hc | hc
  · exact Bool.eq_false_iff.2 (List.any_eq_false.1 hsign c hc)
  · rcases isBodyChar_iff.1 (isBodyChar_of_mem_body hc) with rfl | hd
    · rfl
    · exact not_isNumeralBlank_of_isDigit hd

/-- A text with a layout is refused for its number of digits only. -/
theorem read_text (l : Layout) :
    read l.text = if maxDigits < l.digits.length then .error (.tooLong l.digits.length)
      else .ok l.value := by
  have hbody : l.body.all isBodyChar = true := List.all_eq_true.2 fun c => isBodyChar_of_mem_body
  have htake : l.body.takeWhile isBodyChar = l.body := by
    simpa using takeWhile_append_of_all hbody []
  have hdrop : l.body.dropWhile isBodyChar = [] := by
    simpa using dropWhile_append_of_all hbody []
  have hfields : fields '_' l.body = l.groups :=
    fields_joined l.groups_ne_nil underscore_not_mem_of_mem_groups
  have hrows : l.groups.any List.isEmpty = false := by
    rw [List.any_eq_false]
    intro g hg
    simpa using (l.isRow_groups g hg).1
  simp only [read, l.trim_text, l.splitSign_core, htake, hdrop, hfields, hrows]
  rfl

end Layout

/-! ## A layout of what is read -/

namespace Layout

def within (t : Text) (s : Sign) (groups : List Text) (hne : groups ≠ [])
    (hrows : ∀ g ∈ groups, IsRow g) : Layout where
  before := t.takeWhile isNumeralBlank
  sign := s
  groups := groups
  after := ((t.dropWhile isNumeralBlank).reverse.takeWhile isNumeralBlank).reverse
  before_blank := List.all_takeWhile
  groups_ne_nil := hne
  isRow_groups := hrows
  after_blank := by rw [List.all_reverse]; exact List.all_takeWhile

theorem text_within {t : Text} {s : Sign} {groups : List Text} (hne : groups ≠ [])
    (hrows : ∀ g ∈ groups, IsRow g)
    (h : trimBy isNumeralBlank t = s.text ++ joined ['_'] groups) :
    (within t s groups hne hrows).text = t := by
  rw [text, body, within, ← h]
  exact takeWhile_append_trimBy isNumeralBlank t

end Layout

theorem isRow_of_mem_fields {t g : Text} (hall : t.all isBodyChar = true)
    (hrows : ¬(fields '_' t).any List.isEmpty = true) (hg : g ∈ fields '_' t) : IsRow g := by
  constructor
  · rintro rfl
    exact hrows (List.any_eq_true.2 ⟨[], hg, rfl⟩)
  · apply List.all_eq_true.2
    intro c hc
    obtain ⟨hmem, hne⟩ := of_mem_fields hg hc
    exact (isBodyChar_iff.1 (List.all_eq_true.1 hall c hmem)).resolve_left hne

theorem exists_layout_of_read {t : Text} {n : Int} (h : read t = .ok n) :
    ∃ l : Layout, l.text = t ∧ l.digits.length ≤ maxDigits ∧ l.value = n := by
  obtain ⟨s, hcore, hminus⟩ := exists_sign_of_splitSign (trimBy isNumeralBlank t)
  cases hsplit : splitSign (trimBy isNumeralBlank t) with
  | mk negative rest =>
      rw [hsplit] at hcore hminus
      simp only [read, hsplit] at h
      split at h
      · cases h
      next hrows =>
      split at h
      · cases h
      next hlen =>
      split at h
      · cases h
      next hdrop =>
      -- nothing is left behind the digits, so the groups make up all of the rest
      have hrest : rest.takeWhile isBodyChar = rest := by
        have hcut := List.takeWhile_append_dropWhile (p := isBodyChar) (l := rest)
        rwa [Decidable.not_not.1 hdrop, List.append_nil] at hcut
      have hall : rest.all isBodyChar = true := by
        rw [← hrest]
        exact List.all_takeWhile
      rw [hrest] at h hrows hlen
      refine ⟨.within t s (fields '_' rest) (fields_ne_nil '_' rest)
        (fun g hg => isRow_of_mem_fields hall hrows hg), ?_, Nat.not_lt.1 hlen, ?_⟩
      · apply Layout.text_within
        rw [joined_fields]
        exact hcore
      · rw [Layout.value, Layout.within, hminus]
        exact Except.ok.inj h

/-- Reading accepts the texts that have a layout with few enough digits, and gives the integer
that the layout stands for. -/
theorem read_eq_ok_iff {t : Text} {n : Int} :
    read t = .ok n ↔ ∃ l : Layout, l.text = t ∧ l.digits.length ≤ maxDigits ∧ l.value = n := by
  constructor
  · exact exists_layout_of_read
  · rintro ⟨l, rfl, hlen, rfl⟩
    rw [l.read_text, if_neg (Nat.not_lt.2 hlen)]

end TableRobot.Numeral
