import TableRobot.Command.Placement
import TableRobot.Proofs.Text.Capitals
import TableRobot.Proofs.Text.Tokens
/-!
# The grammar of placements

A text is recognised as a placement exactly if it has a layout, and it has at
most one.  Recognition trims first and cuts at commas, while a layout lists the
parts from left to right; both meet in the stem of a layout, which is its body
without the white space behind the last part.
-/

namespace TableRobot.Placement

open Text

/-! ## The parts are tokens -/

theorem isToken_of_isCoordinate {t : Text} (h : isCoordinate t = true) : IsToken t := by
  have hdigits : ∀ ds : Text, ds.all isDigit = true → ds.all isTokenChar = true := fun ds hds =>
    List.all_eq_true.2 fun c hc => isTokenChar_of_isDigit (List.all_eq_true.1 hds c hc)
  unfold isCoordinate at h
  split at h
  · next r =>
      rw [Bool.and_eq_true] at h
      exact ⟨by simp, by rw [List.all_cons, hdigits r h.2]; rfl⟩
  · next r =>
      rw [Bool.and_eq_true] at h
      exact ⟨by simpa using h.1, hdigits t h.2⟩

theorem isToken_of_all_isLetter {t : Text} (hne : t ≠ []) (h : t.all isLetter = true) :
    IsToken t :=
  ⟨hne, List.all_eq_true.2 fun c hc => isTokenChar_of_isLetter (List.all_eq_true.1 h c hc)⟩

theorem isWord_iff {t : Text} : isWord t = true ↔ t ≠ [] ∧ t.all isLetter = true := by
  simp [isWord]

theorem isToken_of_isWord {t : Text} (h : isWord t = true) : IsToken t := by
  rw [isWord_iff] at h
  exact isToken_of_all_isLetter h.1 h.2

theorem capitals_keyword : capitals keyword = keyword := by decide +kernel

theorem capitals_eq_keyword_iff {k : Text} : capitals k = keyword ↔ IsKeyword k :=
  capitals_eq_iff (by decide) (by decide)

theorem length_of_isKeyword {k : Text} (h : IsKeyword k) : k.length = keyword.length := by
  rw [← h.2, List.length_map]

theorem isToken_of_isKeyword {k : Text} (h : IsKeyword k) : IsToken k := by
  refine isToken_of_all_isLetter (fun hk => ?_) h.1
  have := length_of_isKeyword h
  simp [hk, keyword] at this

theorem ofParts?_eq_some_iff {ts : List Text} {p : Placement} :
    ofParts? ts = some p ↔ ts = p.x :: p.y :: p.facing.toList ∧ isCoordinate p.x = true ∧
      isCoordinate p.y = true ∧ ∀ f ∈ p.facing, isWord f = true := by
  obtain ⟨x, y, facing⟩ := p
  constructor
  · intro h
    unfold ofParts? at h
    split at h
    · simp only [Option.ite_none_right_eq_some, Bool.and_eq_true, Option.some.injEq,
        Placement.mk.injEq] at h
      obtain ⟨⟨hx, hy⟩, rfl, rfl, rfl⟩ := h
      exact ⟨rfl, hx, hy, by simp⟩
    · simp only [Option.ite_none_right_eq_some, Bool.and_eq_true, Option.some.injEq,
        Placement.mk.injEq] at h
      obtain ⟨⟨⟨hx, hy⟩, hf⟩, rfl, rfl, rfl⟩ := h
      exact ⟨rfl, hx, hy, by simpa using hf⟩
    · exact absurd h (by simp)
  · rintro ⟨rfl, hx, hy, hf⟩
    cases facing with
    | none => simp_all [ofParts?]
    | some f => simp_all [ofParts?]

/-! ## Padded parts -/

namespace Padded

def ofText (t : Text) : Padded where
  before := t.takeWhile isBlank
  core := trim t
  after := ((t.dropWhile isBlank).reverse.takeWhile isBlank).reverse
  before_blank := List.all_takeWhile
  after_blank := by rw [isAllBlank, List.all_reverse]; exact List.all_takeWhile

def extended (f : Padded) (w : Text) (hw : isAllBlank w = true) : Padded :=
  { f with
    after := f.after ++ w
    after_blank := by
      rw [isAllBlank, List.all_append, Bool.and_eq_true]
      exact ⟨f.after_blank, hw⟩ }

@[simp] theorem text_ofText (t : Text) : (ofText t).text = t := takeWhile_append_trimBy isBlank t

@[simp] theorem core_ofText (t : Text) : (ofText t).core = trim t := rfl

@[simp] theorem text_extended (f : Padded) {w : Text} (hw : isAllBlank w = true) :
    (f.extended w hw).text = f.text ++ w := by
  simp [text, extended]

@[simp] theorem core_extended (f : Padded) {w : Text} (hw : isAllBlank w = true) :
    (f.extended w hw).core = f.core := rfl

variable {f g : Padded}

theorem trim_text (h : IsToken f.core) : trim f.text = f.core :=
  h.trim_pad f.before_blank f.after_blank

theorem comma_not_mem_text (h : IsToken f.core) : ',' ∉ f.text := by
  simp only [text, List.mem_append, not_or]
  exact ⟨⟨comma_not_mem_of_isAllBlank f.before_blank, h.comma_not_mem⟩,
    comma_not_mem_of_isAllBlank f.after_blank⟩

theorem takeWhile_text (h : IsToken f.core) : f.text.takeWhile isBlank = f.before := by
  rw [text, List.append_assoc, takeWhile_append_of_all f.before_blank,
    takeWhile_append_of_none h.ne_nil h.not_isBlank, List.append_nil]

theorem eq_of_text_eq (hf : IsToken f.core) (hg : IsToken g.core) (h : f.text = g.text) :
    f = g := by
  have hbefore : f.before = g.before := by rw [← takeWhile_text hf, h, takeWhile_text hg]
  have hcore : f.core = g.core := by rw [← trim_text hf, h, trim_text hg]
  rw [text, text, hbefore, hcore] at h
  exact Padded.ext hbefore hcore (List.append_cancel_left h)

end Padded

/-! ## Layouts -/

namespace Layout

def parts (l : Layout) : List Padded := l.x :: l.y :: l.facing.toList

theorem isToken_of_mem_parts (l : Layout) : ∀ f ∈ l.parts, IsToken f.core := by
  intro f hf
  simp only [parts, List.mem_cons, Option.mem_toList] at hf
  rcases hf with rfl | rfl | hf
  · exact isToken_of_isCoordinate l.isCoordinate_x
  · exact isToken_of_isCoordinate l.isCoordinate_y
  · exact isToken_of_isWord (l.isWord_facing f hf)

theorem map_core_parts (l : Layout) :
    l.parts.map Padded.core = l.placement.x :: l.placement.y :: l.placement.facing.toList := by
  obtain ⟨_, _, _, _, facing⟩ := l
  cases facing <;> rfl

theorem body_eq_joined (l : Layout) : l.body = joined [','] (l.parts.map Padded.text) := by
  obtain ⟨_, _, _, _, facing⟩ := l
  cases facing <;> simp [body, parts, joined]

end Layout

theorem fields_joined_text {fs : List Padded} (hne : fs ≠ [])
    (h : ∀ f ∈ fs, IsToken f.core) :
    fields ',' (joined [','] (fs.map Padded.text)) = fs.map Padded.text := by
  apply fields_joined (by simpa using hne)
  intro t ht
  obtain ⟨f, hf, rfl⟩ := List.mem_map.1 ht
  exact Padded.comma_not_mem_text (h f hf)

/-- The body without the white space behind the last part; trimming the parts does not see
the difference. -/
theorem exists_stem (fs : List Padded) (hne : fs ≠ []) (h : ∀ f ∈ fs, IsToken f.core) :
    ∃ stem core after : Text, joined [','] (fs.map Padded.text) = stem ++ core ++ after ∧
      IsToken core ∧ isAllBlank after = true ∧
      (fields ',' (stem ++ core)).map trim = fs.map Padded.core := by
  induction fs with
  | nil => exact absurd rfl hne
  | cons f fs ih =>
      have hf := h f (by simp)
      cases fs with
      | nil =>
          refine ⟨f.before, f.core, f.after, rfl, hf, f.after_blank, ?_⟩
          have hcomma : ',' ∉ f.before ++ f.core := fun hc =>
            Padded.comma_not_mem_text hf (List.mem_append_left f.after hc)
          have htrim := hf.trim_pad f.before_blank (v := []) rfl
          rw [List.append_nil] at htrim
          rw [fields_of_not_mem hcomma, List.map_singleton, htrim]
          rfl
      | cons g gs =>
          obtain ⟨stem, core, after, hjoin, hcore, hafter, hfields⟩ :=
            ih (by simp) fun e he => h e (List.mem_cons_of_mem f he)
          refine ⟨f.text ++ ',' :: stem, core, after, ?_, hcore, hafter, ?_⟩
          · simp only [List.map_cons] at hjoin ⊢
            rw [joined, hjoin]
            simp
          · rw [List.append_assoc, List.cons_append,
              fields_append_cons (Padded.comma_not_mem_text hf), List.map_cons, hfields,
              Padded.trim_text hf]
            rfl

/-! ## Recognition -/

theorem read?_eq_some_iff {t : Text} {p : Placement} :
    read? t = some p ↔ capitals ((trim t).take keyword.length) = keyword ∧
      ∃ c rest, (trim t).drop keyword.length = c :: rest ∧ isBlank c = true ∧
        ofParts? ((fields ',' (c :: rest)).map trim) = some p := by
  unfold read?
  by_cases hkey : capitals ((trim t).take keyword.length) = keyword
  · cases hdrop : (trim t).drop keyword.length with
    | nil => simp [hkey, hdrop]
    | cons c rest =>
        cases hc : isBlank c with
        | false => simp [hkey, hdrop, hc]
        | true =>
            simp only [hkey, hdrop, hc, if_true, true_and, List.cons.injEq]
            constructor
            · intro h
              exact ⟨c, rest, ⟨rfl, rfl⟩, hc, h⟩
            · rintro ⟨_, _, ⟨rfl, rfl⟩, -, h⟩
              exact h
  · simp [hkey]

theorem shape_of_read? {t : Text} {p : Placement} (h : read? t = some p) :
    isCoordinate p.x = true ∧ isCoordinate p.y = true ∧ ∀ f ∈ p.facing, isWord f = true := by
  obtain ⟨-, c, rest, -, -, hparts⟩ := read?_eq_some_iff.1 h
  exact (ofParts?_eq_some_iff.1 hparts).2

theorem exists_parts (p : Placement) : ∃ ws, p.parts = keyword :: ws := by
  obtain ⟨x, y, facing⟩ := p
  cases facing <;> exact ⟨_, rfl⟩

theorem read?_trim (t : Text) : read? (trim t) = read? t := by
  rw [read?, read?, trim_trim]

theorem isAllBlank_of_read? {t : Text} {p : Placement} (h : read? t = some p) :
    isAllBlank t = false := by
  cases hblank : isAllBlank t with
  | false => rfl
  | true =>
      rw [← read?_trim, trim_of_isAllBlank hblank] at h
      cases h

theorem read?_eq_none_of_take {t : Text}
    (h : (capitals (trim t)).take keyword.length ≠ keyword) : read? t = none := by
  cases hread : read? t with
  | none => rfl
  | some p =>
      obtain ⟨hkey, -⟩ := read?_eq_some_iff.1 hread
      have hcut : capitals (trim t) = keyword ++ capitals ((trim t).drop keyword.length) := by
        have happend := capitals_append ((trim t).take keyword.length)
          ((trim t).drop keyword.length)
        rwa [List.take_append_drop, hkey] at happend
      rw [hcut, List.take_left] at h
      exact absurd rfl h

theorem Layout.head_body (l : Layout) : ∃ c t, l.body = c :: t ∧ isBlank c = true := by
  cases hb : l.x.before with
  | nil => exact absurd hb l.gap_ne_nil
  | cons c w =>
      have hc : isBlank c = true := by
        have := l.x.before_blank
        rw [hb, isAllBlank, List.all_cons, Bool.and_eq_true] at this
        exact this.1
      exact ⟨c, _, by rw [Layout.body, Padded.text, hb]; rfl, hc⟩

theorem read?_text (l : Layout) : read? l.text = some l.placement := by
  obtain ⟨stem, core, after, hbody, hcore, hafter, hfields⟩ :=
    exists_stem l.parts (by simp [Layout.parts]) l.isToken_of_mem_parts
  rw [← l.body_eq_joined] at hbody
  rw [l.map_core_parts] at hfields
  have hkey := isToken_of_isKeyword l.isKeyword_key
  have hlen := length_of_isKeyword l.isKeyword_key
  -- trimming takes the white space at both ends, so the keyword comes first
  have hcmd : trim l.text = l.key ++ (stem ++ core) := by
    have := trimBy_pad l.lead_blank hafter hkey.ne_nil hkey.not_isBlank hcore.ne_nil
      hcore.not_isBlank stem
    rw [Layout.text, hbody, trim, ← List.append_assoc l.key, ← this]
    simp only [List.append_assoc]
  obtain ⟨c, t, hhead, hc⟩ := l.head_body
  obtain ⟨rest, hrest⟩ : ∃ rest, stem ++ core = c :: rest := by
    cases hs : stem ++ core with
    | nil => exact absurd (List.append_eq_nil_iff.1 hs).2 hcore.ne_nil
    | cons d rest =>
        rw [hbody, hs] at hhead
        exact ⟨rest, by rw [(List.cons.inj hhead).1]⟩
  rw [hrest] at hfields hcmd
  rw [read?_eq_some_iff, hcmd, List.take_left' hlen, List.drop_left' hlen]
  refine ⟨capitals_eq_keyword_iff.2 l.isKeyword_key, c, rest, rfl, hc, ?_⟩
  rw [hfields]
  exact ofParts?_eq_some_iff.2 ⟨rfl, l.isCoordinate_x, l.isCoordinate_y, by
    simpa [Layout.placement] using l.isWord_facing⟩

theorem takeWhile_head_field {c : Char} {rest a : Text} {as : List Text} (hc : isBlank c = true)
    (h : fields ',' (c :: rest) = a :: as) : a.takeWhile isBlank ≠ [] := by
  have hcomma : c ≠ ',' := by rintro rfl; exact absurd hc (by decide)
  rw [fields, if_neg hcomma] at h
  split at h
  · rw [← (List.cons.inj h).1, List.takeWhile_cons_of_pos hc]
    exact List.cons_ne_nil _ _
  · rw [← (List.cons.inj h).1, List.takeWhile_cons_of_pos hc]
    exact List.cons_ne_nil _ _

/-- Fields are padded parts, and the last of them takes the white space behind the whole. -/
theorem exists_padded (a : Text) (as : List Text) {after : Text}
    (hafter : isAllBlank after = true) :
    ∃ f fs, joined [','] ((f :: fs).map Padded.text) = joined [','] (a :: as) ++ after ∧
      (f :: fs).map Padded.core = (a :: as).map trim ∧ f.before = a.takeWhile isBlank := by
  induction as generalizing a with
  | nil => exact ⟨(Padded.ofText a).extended after hafter, [], by simp [joined], by simp, rfl⟩
  | cons b bs ih =>
      obtain ⟨f, fs, htext, hcore, -⟩ := ih b
      refine ⟨.ofText a, f :: fs, ?_, ?_, rfl⟩
      · simp only [List.map_cons] at htext
        simp [joined, htext]
      · rw [List.map_cons, hcore]
        rfl

theorem exists_of_map_core {fs : List Padded} {p : Placement}
    (h : fs.map Padded.core = p.x :: p.y :: p.facing.toList) :
    ∃ f g d?, fs = f :: g :: Option.toList d? ∧ f.core = p.x ∧ g.core = p.y ∧
      d?.map Padded.core = p.facing := by
  obtain ⟨f, fs, rfl, hx, hrest⟩ := List.map_eq_cons_iff.1 h
  obtain ⟨g, gs, rfl, hy, hlast⟩ := List.map_eq_cons_iff.1 hrest
  cases hfacing : p.facing with
  | none =>
      rw [hfacing] at hlast
      exact ⟨f, g, none, by rw [List.map_eq_nil_iff.1 hlast]; rfl, hx, hy, rfl⟩
  | some word =>
      rw [hfacing] at hlast
      obtain ⟨d, ds, rfl, hd, hnil⟩ := List.map_eq_cons_iff.1 hlast
      exact ⟨f, g, some d, by rw [List.map_eq_nil_iff.1 hnil]; rfl, hx, hy, congrArg some hd⟩

theorem exists_layout_of_read? {t : Text} {p : Placement} (h : read? t = some p) :
    ∃ l : Layout, l.text = t ∧ l.placement = p := by
  obtain ⟨x, y, facing⟩ := p
  obtain ⟨hkey, c, rest, hdrop, hc, hparts⟩ := read?_eq_some_iff.1 h
  obtain ⟨hcores, hx, hy, hword⟩ := ofParts?_eq_some_iff.1 hparts
  -- the white space around the whole text is the first and the last of the layout
  let whole := Padded.ofText t
  have htext : whole.before ++ ((trim t).take keyword.length ++ c :: rest) ++ whole.after = t := by
    rw [← hdrop, List.take_append_drop]
    exact Padded.text_ofText t
  obtain ⟨a, as, hfields⟩ := List.exists_cons_of_ne_nil (fields_ne_nil ',' (c :: rest))
  have hbody := joined_fields ',' (c :: rest)
  rw [hfields] at hcores hbody
  obtain ⟨e, es, hjoined, hmap, hgap⟩ := exists_padded a as whole.after_blank
  obtain ⟨f, g, d?, hes, hfx, hgy, hfacing⟩ := exists_of_map_core (hmap.trans hcores)
  obtain ⟨rfl, rfl⟩ := List.cons.inj hes
  obtain rfl : e.core = x := hfx
  obtain rfl : g.core = y := hgy
  obtain rfl : d?.map Padded.core = facing := hfacing
  refine ⟨{ lead := whole.before, key := (trim t).take keyword.length, x := e, y := g
            facing := d?, lead_blank := whole.before_blank
            isKeyword_key := capitals_eq_keyword_iff.1 hkey
            gap_ne_nil := by rw [hgap]; exact takeWhile_head_field hc hfields
            isCoordinate_x := hx, isCoordinate_y := hy
            isWord_facing := fun d hd => hword d.core (Option.mem_map_of_mem Padded.core hd) },
    ?_, rfl⟩
  rw [Layout.text, Layout.body_eq_joined]
  change whole.before ++ _ ++ joined [','] ((e :: g :: d?.toList).map Padded.text) = t
  rw [hjoined, hbody, ← List.append_assoc, List.append_assoc whole.before]
  exact htext

/-! ## Uniqueness -/

theorem parts_eq_of_map_text_eq {fs gs : List Padded} (hfs : ∀ f ∈ fs, IsToken f.core)
    (hgs : ∀ g ∈ gs, IsToken g.core) (h : fs.map Padded.text = gs.map Padded.text) :
    fs = gs := by
  induction fs generalizing gs with
  | nil => exact (List.map_eq_nil_iff.1 h.symm).symm
  | cons f fs ih =>
      obtain ⟨g, gs, rfl, hg, htail⟩ := List.map_eq_cons_iff.1 h.symm
      rw [Padded.eq_of_text_eq (hfs f (by simp)) (hgs g (by simp)) hg.symm,
        ih (fun e he => hfs e (List.mem_cons_of_mem f he))
          (fun e he => hgs e (List.mem_cons_of_mem g he)) htail.symm]

theorem eq_of_text_eq {l m : Layout} (h : l.text = m.text) : l = m := by
  have hlkey := isToken_of_isKeyword l.isKeyword_key
  have hmkey := isToken_of_isKeyword m.isKeyword_key
  rw [Layout.text, Layout.text, List.append_assoc, List.append_assoc] at h
  have hlead : l.lead = m.lead := by
    have := congrArg (List.takeWhile isBlank) h
    rwa [takeWhile_append_of_all l.lead_blank, takeWhile_append_of_all m.lead_blank,
      takeWhile_append_of_none hlkey.ne_nil hlkey.not_isBlank,
      takeWhile_append_of_none hmkey.ne_nil hmkey.not_isBlank, List.append_nil,
      List.append_nil] at this
  rw [hlead] at h
  obtain ⟨hkey, hbody⟩ := List.append_inj (List.append_cancel_left h)
    ((length_of_isKeyword l.isKeyword_key).trans (length_of_isKeyword m.isKeyword_key).symm)
  have hparts : l.parts = m.parts := by
    refine parts_eq_of_map_text_eq l.isToken_of_mem_parts m.isToken_of_mem_parts ?_
    rw [← fields_joined_text (by simp [Layout.parts]) l.isToken_of_mem_parts,
      ← fields_joined_text (by simp [Layout.parts]) m.isToken_of_mem_parts,
      ← l.body_eq_joined, ← m.body_eq_joined, hbody]
  obtain ⟨hx, hy, hf⟩ : l.x = m.x ∧ l.y = m.y ∧ l.facing.toList = m.facing.toList := by
    simpa [Layout.parts] using hparts
  have hfacing : l.facing = m.facing := by
    rw [← Option.head?_toList (o := l.facing), hf, Option.head?_toList]
  exact Layout.ext hlead hkey hx hy hfacing

/-- Recognition accepts the texts that have a layout and gives the parts of the layout; no
text has two layouts, and nothing but ASCII letters spells the keyword. -/
theorem read?_eq_some_iff_layout :
    (∀ (t : Text) (p : Placement),
        read? t = some p ↔ ∃ l : Layout, l.text = t ∧ l.placement = p) ∧
      (∀ t : Text, read? t = none ↔ ∀ l : Layout, l.text ≠ t) ∧
      (∀ l m : Layout, l.text = m.text → l = m) ∧
      ∀ k : Text, capitals k = keyword ↔ IsKeyword k := by
  refine ⟨fun t p => ⟨exists_layout_of_read?, ?_⟩, fun t => ⟨?_, ?_⟩, fun l m => eq_of_text_eq,
    fun k => capitals_eq_keyword_iff⟩
  · rintro ⟨l, rfl, rfl⟩
    exact read?_text l
  · rintro hnone l rfl
    rw [read?_text] at hnone
    exact absurd hnone (by simp)
  · intro hno
    cases hread : read? t with
    | none => rfl
    | some p =>
        obtain ⟨l, hl, -⟩ := exists_layout_of_read? hread
        exact absurd hl (hno l)

end TableRobot.Placement
