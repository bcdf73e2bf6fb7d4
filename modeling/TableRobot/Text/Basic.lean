/-!
# Text as a list of characters

A text is the list of its characters, so a rule about texts is a rule about
lists. Besides trimming at both ends this module cuts a text into the fields
that a separator delimits and joins fields again. The main statements say that
trimming removes characters of the given class only and that cutting at a
separator loses nothing.
-/

namespace TableRobot

/-- A text is the list of its characters. -/
abbrev Text := List Char

namespace Text

def orNone (t : Option Text) : Text := t.getD "None".toList

def truth (b : Bool) : Text := if b then "True".toList else "False".toList

/-! ## Trimming -/

/-- The text without the characters of class `p` at its end. -/
def trimEndBy (p : Char → Bool) (t : Text) : Text :=
  (t.reverse.dropWhile p).reverse

/-- The text without the characters of class `p` at either end. -/
def trimBy (p : Char → Bool) (t : Text) : Text :=
  trimEndBy p (t.dropWhile p)

theorem trimEndBy_nil (p : Char → Bool) : trimEndBy p [] = [] := rfl

theorem trimEndBy_append_takeWhile (p : Char → Bool) (t : Text) :
    trimEndBy p t ++ (t.reverse.takeWhile p).reverse = t := by
  rw [trimEndBy, ← List.reverse_append, List.takeWhile_append_dropWhile, List.reverse_reverse]

theorem takeWhile_append_trimBy (p : Char → Bool) (t : Text) :
    t.takeWhile p ++ trimBy p t ++ ((t.dropWhile p).reverse.takeWhile p).reverse = t := by
  rw [trimBy, List.append_assoc, trimEndBy_append_takeWhile, List.takeWhile_append_dropWhile]

theorem dropWhile_append_of_all {p : Char → Bool} {w : Text} (hw : w.all p = true) (t : Text) :
    (w ++ t).dropWhile p = t.dropWhile p :=
  List.dropWhile_append_of_pos (List.all_eq_true.1 hw)

theorem takeWhile_append_of_all {p : Char → Bool} {w : Text} (hw : w.all p = true) (t : Text) :
    (w ++ t).takeWhile p = w ++ t.takeWhile p :=
  List.takeWhile_append_of_pos (List.all_eq_true.1 hw)

theorem dropWhile_append_of_none {p : Char → Bool} {u : Text} (hne : u ≠ [])
    (hu : ∀ c ∈ u, p c = false) (t : Text) : (u ++ t).dropWhile p = u ++ t := by
  cases u with
  | nil => exact absurd rfl hne
  | cons c u => rw [List.cons_append, List.dropWhile_cons_of_neg (by simp [hu c])]

theorem takeWhile_append_of_none {p : Char → Bool} {u : Text} (hne : u ≠ [])
    (hu : ∀ c ∈ u, p c = false) (t : Text) : (u ++ t).takeWhile p = [] := by
  cases u with
  | nil => exact absurd rfl hne
  | cons c u => rw [List.cons_append, List.takeWhile_cons_of_neg (by simp [hu c])]

theorem trimEndBy_append_of_all {p : Char → Bool} {w : Text} (hw : w.all p = true) (t : Text) :
    trimEndBy p (t ++ w) = trimEndBy p t := by
  rw [trimEndBy, trimEndBy, List.reverse_append, dropWhile_append_of_all (by simpa using hw)]

theorem trimEndBy_append_of_none {p : Char → Bool} {u : Text} (hne : u ≠ [])
    (hu : ∀ c ∈ u, p c = false) (t : Text) : trimEndBy p (t ++ u) = t ++ u := by
  have hr : ∀ c ∈ u.reverse, p c = false := fun c hc => hu c (List.mem_reverse.1 hc)
  rw [trimEndBy, List.reverse_append, dropWhile_append_of_none (by simpa using hne) hr,
    List.reverse_append, List.reverse_reverse, List.reverse_reverse]

/-- A text between two characters outside the class is what trimming leaves of it. -/
theorem trimBy_pad {p : Char → Bool} {w v a z : Text} (hw : w.all p = true)
    (hv : v.all p = true) (hane : a ≠ []) (ha : ∀ c ∈ a, p c = false) (hzne : z ≠ [])
    (hz : ∀ c ∈ z, p c = false) (t : Text) :
    trimBy p (w ++ (a ++ t ++ z) ++ v) = a ++ t ++ z := by
  rw [trimBy, List.append_assoc, dropWhile_append_of_all hw, List.append_assoc a,
    List.append_assoc a, dropWhile_append_of_none hane ha, ← List.append_assoc a,
    trimEndBy_append_of_all hv, ← List.append_assoc a, trimEndBy_append_of_none hzne hz]

theorem trimBy_pad_of_none {p : Char → Bool} {w u v : Text} (hw : w.all p = true)
    (hv : v.all p = true) (hne : u ≠ []) (hu : ∀ c ∈ u, p c = false) :
    trimBy p (w ++ u ++ v) = u := by
  rw [trimBy, List.append_assoc, dropWhile_append_of_all hw, dropWhile_append_of_none hne hu,
    trimEndBy_append_of_all hv, ← List.nil_append u, trimEndBy_append_of_none hne hu]

theorem dropWhile_dropWhile (p : Char → Bool) (t : Text) :
    (t.dropWhile p).dropWhile p = t.dropWhile p := by
  induction t with
  | nil => rfl
  | cons c t ih => cases hc : p c <;> simp [hc, ih]

theorem trimEndBy_trimEndBy (p : Char → Bool) (t : Text) :
    trimEndBy p (trimEndBy p t) = trimEndBy p t := by
  rw [trimEndBy, trimEndBy, List.reverse_reverse, dropWhile_dropWhile]

theorem trimEndBy_cons (p : Char → Bool) (c : Char) (t : Text) :
    trimEndBy p (c :: t) =
      if (trimEndBy p t).isEmpty && p c then [] else c :: trimEndBy p t := by
  rw [trimEndBy, trimEndBy, List.reverse_cons, List.dropWhile_append]
  cases hd : t.reverse.dropWhile p with
  | nil => cases hc : p c <;> simp [hc]
  | cons d ds => simp

/-- Trimming at the end stops at the latest at a character outside the class. -/
theorem trimEndBy_append_left {p : Char → Bool} {u : Text} (hne : u ≠ [])
    (hu : ∀ c ∈ u, p c = false) (t : Text) : trimEndBy p (u ++ t) = u ++ trimEndBy p t := by
  induction u with
  | nil => exact absurd rfl hne
  | cons c u ih =>
      have hc : p c = false := hu c List.mem_cons_self
      rw [List.cons_append, trimEndBy_cons, hc, Bool.and_false]
      cases u with
      | nil => rfl
      | cons d u => rw [ih (List.cons_ne_nil d u) fun e he => hu e (List.mem_cons_of_mem c he)]; rfl

/-- Trimming at the end does not pass a part that is trimmed already. -/
theorem trimEndBy_append {p : Char → Bool} {u : Text} (hne : u ≠ []) (hu : trimEndBy p u = u)
    (t : Text) : trimEndBy p (t ++ u) = t ++ u := by
  induction t with
  | nil => exact hu
  | cons c t ih =>
      rw [List.cons_append, trimEndBy_cons, ih]
      simp [hne]

theorem dropWhile_trimEndBy (p : Char → Bool) (t : Text) :
    (trimEndBy p t).dropWhile p = trimEndBy p (t.dropWhile p) := by
  induction t with
  | nil => rfl
  | cons c t ih =>
      rw [trimEndBy_cons]
      cases hc : p c with
      | true =>
          rw [List.dropWhile_cons_of_pos hc, ← ih, Bool.and_true]
          cases trimEndBy p t with
          | nil => rfl
          | cons d ds => simp [hc]
      | false => simp [hc, trimEndBy_cons]

theorem trimBy_append_of_all {p : Char → Bool} {w : Text} (hw : w.all p = true) (t : Text) :
    trimBy p (t ++ w) = trimBy p t := by
  rw [trimBy, ← dropWhile_trimEndBy, trimEndBy_append_of_all hw, dropWhile_trimEndBy, trimBy]

theorem mem_of_mem_trimBy {p : Char → Bool} {t : Text} {c : Char} (h : c ∈ trimBy p t) :
    c ∈ t := by
  rw [← takeWhile_append_trimBy p t]
  exact List.mem_append_left _ (List.mem_append_right _ h)

theorem trimBy_trimBy (p : Char → Bool) (t : Text) : trimBy p (trimBy p t) = trimBy p t := by
  rw [trimBy, trimBy, dropWhile_trimEndBy, dropWhile_dropWhile, trimEndBy_trimEndBy]

/-! ## Clipping -/

/-- The beginning of a text that fits into a number of bytes. A mark stands for a character
that fits only in part. -/
def clipped (room : Nat) : Text → Text
  | [] => []
  | c :: t =>
      if c.utf8Size ≤ room then c :: clipped (room - c.utf8Size) t
      else if room = 0 then []
      else ['\ufffd']

example : clipped 4 "aéé".toList = "aé\ufffd".toList := by decide +kernel

/-! ## Fields -/

/-- The fields between the occurrences of `sep`; there is always at least one. -/
def fields (sep : Char) : Text → List Text
  | [] => [[]]
  | c :: t =>
      if c = sep then [] :: fields sep t
      else
        match fields sep t with
        | [] => [[c]]
        | f :: fs => (c :: f) :: fs

/-- The texts one after another with `glue` between neighbours. -/
def joined (glue : Text) : List Text → Text
  | [] => []
  | [t] => t
  | t :: u :: ts => t ++ glue ++ joined glue (u :: ts)

theorem mem_joined {glue : Text} {ts : List Text} {c : Char} (h : c ∈ joined glue ts) :
    c ∈ glue ∨ ∃ t ∈ ts, c ∈ t := by
  fun_induction joined glue ts with
  | case1 => cases h
  | case2 t => exact .inr ⟨t, List.mem_cons_self, h⟩
  | case3 t u ts ih =>
      rw [List.mem_append, List.mem_append] at h
      rcases h with (h | h) | h
      · exact .inr ⟨t, List.mem_cons_self, h⟩
      · exact .inl h
      · exact (ih h).imp_right fun ⟨v, hv, hc⟩ => ⟨v, List.mem_cons_of_mem t hv, hc⟩

theorem fields_ne_nil (sep : Char) (t : Text) : fields sep t ≠ [] := by
  cases t with
  | nil => simp [fields]
  | cons c t =>
      simp only [fields]
      split
      · simp
      · split <;> simp

theorem fields_of_not_mem {sep : Char} {t : Text} (h : sep ∉ t) : fields sep t = [t] := by
  induction t with
  | nil => rfl
  | cons c t ih =>
      have hc : c ≠ sep := fun hc => h (by simp [hc])
      rw [fields, if_neg hc, ih fun ht => h (List.mem_cons_of_mem c ht)]

theorem fields_append_cons {sep : Char} {s : Text} (h : sep ∉ s) (t : Text) :
    fields sep (s ++ sep :: t) = s :: fields sep t := by
  induction s with
  | nil => simp [fields]
  | cons c s ih =>
      have hc : c ≠ sep := fun hc => h (by simp [hc])
      rw [List.cons_append, fields, if_neg hc, ih fun hs => h (List.mem_cons_of_mem c hs)]

theorem exists_fields_of_mem {sep : Char} {t : Text} (h : sep ∈ t) :
    ∃ f g fs, fields sep t = f :: g :: fs := by
  obtain ⟨f, u, rfl, hf⟩ := List.eq_append_cons_of_mem h
  obtain ⟨g, fs, hu⟩ := List.exists_cons_of_ne_nil (fields_ne_nil sep u)
  exact ⟨f, g, fs, by rw [fields_append_cons hf, hu]⟩

theorem fields_joined {sep : Char} {ts : List Text} (hne : ts ≠ []) (h : ∀ t ∈ ts, sep ∉ t) :
    fields sep (joined [sep] ts) = ts := by
  induction ts with
  | nil => exact absurd rfl hne
  | cons t ts ih =>
      have ht := h t List.mem_cons_self
      cases ts with
      | nil => exact fields_of_not_mem ht
      | cons u ts =>
          have htail := ih (List.cons_ne_nil u ts) fun v hv => h v (List.mem_cons_of_mem t hv)
          rw [joined, List.append_assoc, List.singleton_append, fields_append_cons ht, htail]

/-- A field takes its characters from the text and leaves the separators out. -/
theorem of_mem_fields {sep : Char} {t f : Text} (hf : f ∈ fields sep t) {c : Char} (hc : c ∈ f) :
    c ∈ t ∧ c ≠ sep := by
  induction t generalizing f with
  | nil =>
      rw [fields, List.mem_singleton] at hf
      rw [hf] at hc
      cases hc
  | cons d t ih =>
      simp only [fields] at hf
      split at hf
      · rcases List.mem_cons.1 hf with rfl | hf
        · cases hc
        · exact (ih hf hc).imp_left (List.mem_cons_of_mem d)
      · next hd =>
          obtain ⟨g, gs, hfields⟩ := List.exists_cons_of_ne_nil (fields_ne_nil sep t)
          rw [hfields] at hf ih
          rcases List.mem_cons.1 hf with rfl | hf
          · rcases List.mem_cons.1 hc with rfl | hc
            · exact ⟨List.mem_cons_self, hd⟩
            · exact (ih List.mem_cons_self hc).imp_left (List.mem_cons_of_mem d)
          · exact (ih (List.mem_cons_of_mem g hf) hc).imp_left (List.mem_cons_of_mem d)

/-- Joining the fields with the separator gives the text back. -/
theorem joined_fields (sep : Char) (t : Text) : joined [sep] (fields sep t) = t := by
  induction t with
  | nil => rfl
  | cons c t ih =>
      simp only [fields]
      split
      · next h =>
          subst h
          cases hf : fields c t with
          | nil => exact absurd hf (fields_ne_nil c t)
          | cons f fs => rw [joined, ← hf, ih]; rfl
      · cases hf : fields sep t with
        | nil => exact absurd hf (fields_ne_nil sep t)
        | cons f fs =>
            rw [hf] at ih
            cases fs with
            | nil => simpa [joined] using congrArg (c :: ·) ih
            | cons g gs => simpa [joined] using congrArg (c :: ·) ih

/-! ## Trimmed fields -/

theorem fields_cons_of_ne {sep c : Char} (h : c ≠ sep) (t : Text) :
    ∃ f fs, fields sep t = f :: fs ∧ fields sep (c :: t) = (c :: f) :: fs := by
  obtain ⟨f, fs, hfields⟩ := List.exists_cons_of_ne_nil (fields_ne_nil sep t)
  exact ⟨f, fs, hfields, by rw [fields, if_neg h, hfields]⟩

theorem map_dropWhile_fields {p : Char → Bool} {sep : Char} (hsep : p sep = false) (t : Text) :
    (fields sep (t.dropWhile p)).map (·.dropWhile p) =
      (fields sep t).map (·.dropWhile p) := by
  induction t with
  | nil => rfl
  | cons c t ih =>
      cases hc : p c with
      | false => rw [List.dropWhile_cons_of_neg (by simp [hc])]
      | true =>
          have hne : c ≠ sep := by
            rintro rfl
            exact Bool.false_ne_true (hsep.symm.trans hc)
          obtain ⟨f, fs, hfields, hcons⟩ := fields_cons_of_ne hne t
          rw [List.dropWhile_cons_of_pos hc, ih, hcons, hfields, List.map_cons, List.map_cons,
            List.dropWhile_cons_of_pos hc]

theorem map_trimEndBy_fields {p : Char → Bool} {sep : Char} (hsep : p sep = false) (t : Text) :
    (fields sep (trimEndBy p t)).map (trimEndBy p) = (fields sep t).map (trimEndBy p) := by
  induction t with
  | nil => rfl
  | cons c t ih =>
      rw [trimEndBy_cons]
      by_cases hc : c = sep
      · have hp : p c = false := by rw [hc, hsep]
        rw [hp, Bool.and_false, if_neg Bool.false_ne_true, hc, fields, if_pos rfl, List.map_cons,
          ih, fields, if_pos rfl, List.map_cons]
      · obtain ⟨f, fs, hfields, hcons⟩ := fields_cons_of_ne hc t
        obtain ⟨g, gs, hfields', hcons'⟩ := fields_cons_of_ne hc (trimEndBy p t)
        rw [hfields, hfields', List.map_cons, List.map_cons] at ih
        obtain ⟨hhead, htail⟩ := List.cons.inj ih
        rw [hcons, List.map_cons, trimEndBy_cons, ← hhead, ← htail]
        split
        · next hblank =>
            -- nothing is left of the rest, so it is one field of which nothing is left
            rw [Bool.and_eq_true, List.isEmpty_iff] at hblank
            rw [hblank.1] at hfields'
            obtain ⟨rfl, rfl⟩ := List.cons.inj hfields'
            rw [trimEndBy_nil, List.isEmpty_nil, Bool.true_and, if_pos hblank.2]
            rfl
        · rw [hcons', List.map_cons, trimEndBy_cons]

/-- Trimming a text before it is cut does not show once its fields are trimmed. -/
theorem map_trimBy_fields {p : Char → Bool} {sep : Char} (hsep : p sep = false) (t : Text) :
    (fields sep (trimBy p t)).map (trimBy p) = (fields sep t).map (trimBy p) := by
  have hend : ∀ u : Text, trimBy p u = (trimEndBy p u).dropWhile p := fun u =>
    (dropWhile_trimEndBy p u).symm
  calc (fields sep (trimBy p t)).map (trimBy p)
      = ((fields sep (trimEndBy p (t.dropWhile p))).map (trimEndBy p)).map (·.dropWhile p) := by
        rw [List.map_map]
        exact List.map_congr_left fun u _ => hend u
    _ = (fields sep (t.dropWhile p)).map (trimBy p) := by
        rw [map_trimEndBy_fields hsep, List.map_map]
        exact List.map_congr_left fun u _ => (hend u).symm
    _ = ((fields sep (t.dropWhile p)).map (·.dropWhile p)).map (trimEndBy p) := by
        rw [List.map_map]
        rfl
    _ = (fields sep t).map (trimBy p) := by
        rw [map_dropWhile_fields hsep, List.map_map]
        rfl

end Text

end TableRobot
