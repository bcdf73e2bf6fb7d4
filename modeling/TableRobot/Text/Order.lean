import TableRobot.Text.Basic
/-!
# Texts in order

Texts are ordered like words in a dictionary, by the code points of their
characters. Sorting keeps every text and puts each behind those that come
before it.
-/

namespace TableRobot.Text

/-- Holds if `t` stands before `u` in the order or is the same text. -/
def notAfter : (t u : Text) → Bool
  | [], _ => true
  | _ :: _, [] => false
  | c :: t, d :: u => c.toNat < d.toNat || (c == d && notAfter t u)

/-- Puts a text into a list in front of the first that it does not follow. -/
def placedIn (t : Text) : List Text → List Text
  | [] => [t]
  | u :: us => if notAfter t u then t :: u :: us else u :: placedIn t us

def sorted (ts : List Text) : List Text := ts.foldr placedIn []

/-- Holds if `t` stands before `u` in the order of code points. -/
def Precedes (t u : Text) : Prop := List.Lex (fun c d => c.toNat < d.toNat) t u

/-! ## The order -/

theorem notAfter_cons {c d : Char} {t u : Text} :
    notAfter (c :: t) (d :: u) = true ↔
      c.toNat < d.toNat ∨ c = d ∧ notAfter t u = true := by
  simp [notAfter]

theorem notAfter_trans {t u v : Text} (htu : notAfter t u = true) (huv : notAfter u v = true) :
    notAfter t v = true := by
  induction t generalizing u v with
  | nil => rfl
  | cons c t ih =>
      cases u with
      | nil => simp [notAfter] at htu
      | cons d u =>
          cases v with
          | nil => simp [notAfter] at huv
          | cons e v =>
              rw [notAfter_cons] at htu huv ⊢
              rcases htu with hcd | ⟨rfl, htu⟩
              · rcases huv with hde | ⟨rfl, _⟩
                · exact Or.inl (Nat.lt_trans hcd hde)
                · exact Or.inl hcd
              · rcases huv with hce | ⟨rfl, huv⟩
                · exact Or.inl hce
                · exact Or.inr ⟨rfl, ih htu huv⟩

theorem notAfter_total (t u : Text) : notAfter t u = true ∨ notAfter u t = true := by
  induction t generalizing u with
  | nil => exact Or.inl rfl
  | cons c t ih =>
      cases u with
      | nil => exact Or.inr rfl
      | cons d u =>
          simp only [notAfter_cons]
          rcases Nat.lt_trichotomy c.toNat d.toNat with h | h | h
          · exact Or.inl (Or.inl h)
          · have hcd : c = d := Char.toNat_inj.1 h
            exact (ih u).imp (fun h => Or.inr ⟨hcd, h⟩) fun h => Or.inr ⟨hcd.symm, h⟩
          · exact Or.inr (Or.inl h)

theorem eq_or_precedes {t u : Text} (h : notAfter t u = true) : t = u ∨ Precedes t u := by
  induction t generalizing u with
  | nil =>
      cases u with
      | nil => exact .inl rfl
      | cons d u => exact .inr .nil
  | cons c t ih =>
      cases u with
      | nil => cases h
      | cons d u =>
          rcases notAfter_cons.1 h with hlt | ⟨rfl, hrest⟩
          · exact .inr (.rel hlt)
          · rcases ih hrest with rfl | hlex
            · exact .inl rfl
            · exact .inr (.cons hlex)

/-! ## Sorting -/

theorem placedIn_perm (t : Text) (us : List Text) :
    (placedIn t us).Perm (t :: us) := by
  induction us with
  | nil => exact .refl _
  | cons u us ih =>
      rw [placedIn]
      split
      · exact .refl _
      · exact (ih.cons u).trans (.swap t u us)

theorem sorted_perm (ts : List Text) : (sorted ts).Perm ts := by
  induction ts with
  | nil => exact .refl _
  | cons t ts ih => exact (placedIn_perm t _).trans (ih.cons t)

theorem mem_sorted {t : Text} {ts : List Text} : t ∈ sorted ts ↔ t ∈ ts :=
  (sorted_perm ts).mem_iff

private theorem pairwise_placedIn {t : Text} {us : List Text}
    (h : us.Pairwise (notAfter · ·)) : (placedIn t us).Pairwise (notAfter · ·) := by
  induction us with
  | nil => simp [placedIn]
  | cons u us ih =>
      obtain ⟨hu, hus⟩ := List.pairwise_cons.1 h
      rw [placedIn]
      split
      · next htu =>
          refine List.pairwise_cons.2 ⟨fun v hv => ?_, h⟩
          rcases List.mem_cons.1 hv with rfl | hv
          · exact htu
          · exact notAfter_trans htu (hu v hv)
      · next htu =>
          refine List.pairwise_cons.2 ⟨fun v hv => ?_, ih hus⟩
          rcases List.mem_cons.1 ((placedIn_perm t us).mem_iff.1 hv) with rfl | hv
          · exact (notAfter_total v u).resolve_left htu
          · exact hu v hv

theorem pairwise_sorted (ts : List Text) : (sorted ts).Pairwise (notAfter · ·) := by
  induction ts with
  | nil => exact .nil
  | cons t ts ih => exact pairwise_placedIn ih

/-- Different texts stand in strictly increasing order once they are sorted. -/
theorem pairwise_precedes_sorted {ts : List Text} (h : ts.Nodup) :
    (sorted ts).Pairwise Precedes := by
  have hne : (sorted ts).Pairwise (· ≠ ·) := (sorted_perm ts).nodup_iff.2 h
  exact (hne.and (pairwise_sorted ts)).imp fun hpair =>
    (eq_or_precedes hpair.2).resolve_left hpair.1

end TableRobot.Text
