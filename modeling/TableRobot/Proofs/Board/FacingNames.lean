import TableRobot.Board.Facing
import TableRobot.Proofs.Text.Folding
/-!
# Names of facings

A word names a facing if it folds to the name in some case.  Among the words in
ASCII these are the names in some case.
-/

namespace TableRobot.Facing

open Text

variable {t : Text} {f : Facing}

theorem isFoldable_name (f : Facing) : IsFoldable f.name := by
  cases f <;> decide +kernel

theorem named?_eq_some_iff : named? t = some f ↔ t = f.name := by
  constructor
  · exact eq_name_of_named?
  · rintro rfl
    exact named?_name f

theorem read?_eq_some_iff : read? t = some f ↔ IsCaseVariant (folded t) f.name := by
  rw [read?, named?_eq_some_iff, capitals_trim_eq_iff f.isFoldable_name]

theorem read?_iff_isCaseVariant :
    read? t = some f ∧ isAscii (trim t) = true ↔ IsCaseVariant (trim t) f.name := by
  have hascii : isAscii (trim t) = true →
      (read? t = some f ↔ IsCaseVariant (trim t) f.name) := by
    intro h
    rw [read?, named?_eq_some_iff, capitals_of_isAscii h, IsCaseVariant, f.isFoldable_name.2.1]
  constructor
  · rintro ⟨hread, h⟩
    exact (hascii h).1 hread
  · intro h
    have hname := f.isFoldable_name.isAscii_of_isCaseVariant h
    exact ⟨(hascii hname).2 h, hname⟩

end TableRobot.Facing
