import PlainReport.Proofs.Pattern.Checked
import PlainReport.Proofs.Pattern.Columns
import PlainReport.Proofs.Text.Capitals

/-!
# Well-formed patterns

Whatever the text is, a pattern that was read can be used without checking it again: its
columns have names, widths and units as a report needs them, and its grouping and its
conditions speak of these columns (`TablePattern.wellFormed_ofText`).

A column has this from its definition alone (`Column.wellFormed_of_read`).  The grouping
and the conditions are read after all columns, so they fit the last definition of each.
-/

namespace PlainReport

open Text

/-! ## Widths -/

namespace Layout

variable {c rest : Cursor} {width : Nat}

theorem width_pos_of_readWidth (h : readWidth c = .ok (some width, rest)) : 0 < width := by
  unfold readWidth at h
  dsimp only at h
  split at h
  · cases h
  · next n _ =>
    split at h
    · cases h
    · split at h
      · cases h
      · next hzero =>
        cases h
        exact Nat.pos_of_ne_zero hzero

/-- A width that a layout gives is positive. -/
theorem width_pos_of_read {form : UnitSyntax} {layout : Layout}
    (h : Layout.read form c = .ok (layout, rest)) (hwidth : layout.width = some width) :
    0 < width := by
  unfold Layout.read at h
  split at h
  · cases h
  · next given d hread =>
    cases h
    dsimp only at hwidth
    exact width_pos_of_readWidth (hwidth ▸ hread)

end Layout

/-! ## Columns -/

namespace Column

/-- A column that a report can show. -/
structure WellFormed (c : Column) : Prop where
  /-- It has a name. -/
  name_ne_nil : c.name ≠ []
  /-- It is at least one character wide. -/
  width_pos : 1 ≤ c.width
  /-- Its unit is a word or nothing. -/
  unit : ∀ x ∈ c.unit, isWordChar x = true

variable {definition : Text} {defaultWidth : Nat} {column : Column}

/-- Every definition that is read gives a column that a report can show. -/
theorem wellFormed_of_read (hdefault : 1 ≤ defaultWidth)
    (h : Column.read definition defaultWidth = .ok column) : column.WellFormed := by
  have hunit : ∀ x ∈ column.unit, isWordChar x = true := fun _ => isWordChar_of_read h
  obtain ⟨hname, c, -, hformat⟩ := read_eq_ok h
  obtain ⟨type, layout, rest, -, hlayout, -, rfl⟩ := readFormat_eq_ok_iff.1 hformat
  refine ⟨toUpper_ne_nil hname, ?_, hunit⟩
  cases hwidth : layout.width with
  | none => exact hdefault
  | some width => exact Layout.width_pos_of_read hlayout hwidth

end Column

/-! ## Groupings -/

namespace Grouping

variable {definition : Text} {g : Grouping}

theorem fields_of_readData {fields : List Text} {part : Text}
    (h : readData definition fields part = .ok g) : g.fields = fields := by
  unfold readData at h
  dsimp only at h
  split at h
  · cases h
  · split at h
    · cases h
    · split at h
      · cases h
      · cases h
        rfl

/-- A grouping that is read has a field to group by. -/
theorem fields_ne_nil_of_read (h : Grouping.read definition = .ok g) : g.fields ≠ [] := by
  unfold Grouping.read at h
  split at h
  · cases h
  · split at h
    · cases h
    · split at h
      · cases h
      · split at h
        · cases h
        · next hsome =>
          rw [fields_of_readData h]
          simpa using hsome

end Grouping

/-! ## Patterns -/

theorem DataType.isNumeric_iff {type : DataType} :
    type.isNumeric = true ↔ type = .int ∨ type = .float := by
  cases type <;> simp [isNumeric]

namespace TablePattern

/-- A pattern that fits together. -/
structure WellFormed (p : TablePattern) : Prop where
  /-- The columns have distinct names. -/
  distinct : p.schema.keys.Nodup
  /-- A column is found under its own name. -/
  key : ∀ name column, p.schema.find? name = some column → column.name = name
  /-- Every column can be shown. -/
  columns : ∀ column ∈ p.schema.entries, column.WellFormed
  /-- A grouping has fields. -/
  fields_ne_nil : ∀ g, p.grouping = some g → g.fields ≠ []
  /-- The fields of a grouping are columns. -/
  fields : ∀ g, p.grouping = some g → ∀ field ∈ g.fields, field ∈ p.schema.keys
  /-- The target of a grouping is a column of integers or of binary numbers. -/
  target : ∀ g, p.grouping = some g → ∃ column, p.schema.find? g.target = some column ∧
    (column.type = .int ∨ column.type = .float)
  /-- The field of a condition is a column, and its value is of the type of this column. -/
  conditions : ∀ c ∈ p.conditions, ∃ column, p.schema.find? c.field = some column ∧
    c.value.type = column.type

theorem wellFormed_columns {defaultWidth : Nat} (hdefault : 1 ≤ defaultWidth) (t : Text)
    {column : Column} (h : column ∈ (ofText defaultWidth t).result.schema.entries) :
    column.WellFormed := by
  obtain ⟨definition, hread⟩ := exists_read_of_find? (Keyed.find?_of_mem h)
  exact Column.wellFormed_of_read hdefault hread

/-- Every text is read as a pattern that fits together. -/
theorem wellFormed_ofText (defaultWidth : Nat) (t : Text) (hdefault : 1 ≤ defaultWidth) :
    (ofText defaultWidth t).result.WellFormed where
  distinct := Keyed.keys_nodup _
  key _ _ := Keyed.key_of_find?
  columns _ := wellFormed_columns hdefault t
  fields_ne_nil _ hg := by
    obtain ⟨_, -, hread, -⟩ := readGrouping_eq_some hg
    exact Grouping.fields_ne_nil_of_read hread
  fields g hg field hfield := by
    obtain ⟨column, hcolumn⟩ := (checked_ofText defaultWidth t).fields g hg field hfield
    rw [Keyed.mem_keys_iff_contains, Keyed.contains, hcolumn]
    rfl
  target g hg := by
    obtain ⟨column, hcolumn, hnumeric⟩ := (checked_ofText defaultWidth t).target g hg
    exact ⟨column, hcolumn, DataType.isNumeric_iff.1 hnumeric⟩
  conditions := (checked_ofText defaultWidth t).conditions

/-- A clause that comes again, a column that is defined again with another type, and a
wrong definition in every clause. -/
theorem wellFormed_ofText_of_redefined :
    let text : Text := join ['#'] ["table columns: z|int", "filter: n = x",
      "TABLE Columns: n|str-3; ß|float-0; n, x; d|str; N|int--l-kg", "just text",
      "group: fields|d;; D; data|SUM; n", "filter: n = 1.5; n > 07; d != 07; z = 1"]
    let p := (ofText 7 text).result
    1 ≤ 7 ∧ p.WellFormed ∧
      p = { title := none
            schema := Keyed.ofList [⟨"N", .int, 7, .left, "kg"⟩, ⟨"D", .text, 7, .center, []⟩]
            grouping := some ⟨["D", "D"], .sum, "N"⟩
            conditions := [⟨"N", .greater, .int 7⟩, ⟨"D", .notEqual, .text "07"⟩] } := by
  intro text p
  exact ⟨by decide, wellFormed_ofText 7 text (by decide), by decide +kernel⟩

end TablePattern

end PlainReport
