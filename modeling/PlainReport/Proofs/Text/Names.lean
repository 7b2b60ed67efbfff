import PlainReport.Proofs.Text.Classes
import PlainReport.Proofs.Text.Trimming
import PlainReport.Text.Capital

/-!
# Names

A label is what a name in a definition can be: characters of names with no blank at
the ends.  The name of a column is a label in capitals.
-/

namespace PlainReport.Text

/-- A text that is read as a name. -/
structure IsLabel (t : Text) : Prop where
  /-- It is not empty. -/
  ne_nil : t ≠ []
  /-- It has no blanks at its ends. -/
  trim_eq : trim t = t
  /-- It is made of the characters of names. -/
  chars : ∀ c ∈ t, isNameChar c = true

/-- A text that stands for itself as the name of a column. -/
structure IsName (t : Text) : Prop extends IsLabel t where
  /-- It is in capitals. -/
  upper_eq : toUpper t = t

instance (t : Text) : Decidable t.IsLabel :=
  decidable_of_iff (t ≠ [] ∧ trim t = t ∧ t.all isNameChar = true)
    ⟨fun h => ⟨h.1, h.2.1, List.all_eq_true.1 h.2.2⟩,
      fun h => ⟨h.ne_nil, h.trim_eq, List.all_eq_true.2 h.chars⟩⟩

instance (t : Text) : Decidable t.IsName :=
  decidable_of_iff (t.IsLabel ∧ toUpper t = t)
    ⟨fun h => ⟨h.1, h.2⟩, fun h => ⟨h.toIsLabel, h.upper_eq⟩⟩

namespace IsLabel

variable {t : Text}

theorem begins (h : t.IsLabel) : BeginsSolid t := (solid_of_trim_eq h.trim_eq h.ne_nil).1

theorem ends (h : t.IsLabel) : EndsSolid t := (solid_of_trim_eq h.trim_eq h.ne_nil).2

theorem isEmpty_eq (h : t.IsLabel) : t.isEmpty = false := List.isEmpty_eq_false_iff.2 h.ne_nil

theorem not_mem (h : t.IsLabel) {x : Char} (hx : x ∈ dividers) : x ∉ t :=
  not_mem_of_class h.chars (isNameChar_of_mem_dividers hx)

end IsLabel

end PlainReport.Text
