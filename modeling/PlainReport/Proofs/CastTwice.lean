import PlainReport.Proofs.CastNotices
import PlainReport.Proofs.Number.Blankless
import PlainReport.Proofs.Number.FloatText

/-!
# Casting what was cast

A displayed value is cast to itself (`Value.cast_display`).  So casting leaves a row alone
that has its types already (`castRow_of_typed`), and reports nothing of it
(`noticesOf_of_typed`).  Cast rows are such rows, and a second casting changes and reports
nothing (`castAll_castAll`).
-/

namespace PlainReport

/-! ## Displayed values -/

/-- A displayed value is cast to itself. -/
theorem Value.cast_display (value : Value) : value.type.cast value.display = .ok value := by
  cases value with
  | int i => exact DataType.cast_writeInt64 i
  | float x =>
    have htrim := (FloatStyle.blankless_write x).trim_eq
    rw [type, display, DataType.cast, htrim, readBinary64?_write]
    rfl
  | text t => rfl

namespace Row

variable {schema : Schema}

/-! ## Typed rows -/

/-- A cell that has the type of its column is cast to itself. -/
theorem castCell?_of_type {cell : Cell} {column : Column}
    (hcolumn : schema.find? cell.name = some column) (htype : cell.value.type = column.type) :
    castCell? schema cell = some cell := by
  rw [castCell?, hcolumn, Option.map_some, DataType.castOrZero, ← htype, cell.value.cast_display]

theorem castRow_of_typed {row : Row} (h : row.Typed schema) : castRow schema row = row := by
  have hcells : ∀ cell ∈ row.entries, castCell? schema cell = some cell := by
    intro cell hcell
    obtain ⟨column, hcolumn, htype⟩ := h cell hcell
    exact castCell?_of_type hcolumn htype
  exact Keyed.ext_entries ((List.filterMap_congr hcells).trans List.filterMap_some)

/-- Of cells that have the types of their columns there is nothing to report. -/
theorem noticesOf_of_typed {cells : List (Row × Cell)}
    (h : ∀ place ∈ cells, ∃ column, schema.find? place.2.name = some column ∧
      place.2.value.type = column.type) (earlier : List Text) :
    noticesOf schema earlier cells = [] := by
  induction cells generalizing earlier with
  | nil => rfl
  | cons place rest ih =>
    obtain ⟨row, cell⟩ := place
    obtain ⟨column, hcolumn, htype⟩ := h (row, cell) List.mem_cons_self
    have hnone : noticeOf? schema earlier row cell = none := by
      simp only [noticeOf?, hcolumn, ← htype, cell.value.cast_display]
    rw [noticesOf, hnone, ih fun place hplace => h place (List.mem_cons_of_mem _ hplace)]
    rfl

/-- Casting keeps rows that are typed and not empty, and reports nothing. -/
theorem castAll_of_typed {rows : List Row}
    (h : ∀ row ∈ rows, row.entries ≠ [] ∧ row.Typed schema) :
    castAll schema rows = ⟨rows, []⟩ := by
  have hresult : (castAll schema rows).result = rows := by
    have hkept : ∀ row ∈ rows, (!row.isEmpty) = true := by
      intro row hrow
      rw [Keyed.isEmpty, Bool.not_eq_true', List.isEmpty_eq_false_iff]
      exact (h row hrow).1
    rw [castAll_result, List.map_congr_left fun row hrow => castRow_of_typed (h row hrow).2,
      List.map_id', List.filter_eq_self.2 hkept]
  have hnotices : (castAll schema rows).notices = [] := by
    rw [castAll_notices]
    refine noticesOf_of_typed (fun place hplace => ?_) []
    obtain ⟨row, hrow, hplaces⟩ := List.mem_flatMap.1 hplace
    obtain ⟨cell, hcell, rfl⟩ := List.mem_map.1 hplaces
    exact (h row hrow).2 cell hcell
  calc castAll schema rows
      = ⟨(castAll schema rows).result, (castAll schema rows).notices⟩ := rfl
    _ = ⟨rows, []⟩ := by rw [hresult, hnotices]

/-! ## Cast rows -/

/-- A second casting changes nothing and reports nothing, as every value is cast to itself from
what it is displayed as. -/
theorem castAll_castAll (schema : Schema) (rows : List Row) :
    castAll schema (castAll schema rows).result = ⟨(castAll schema rows).result, []⟩ ∧
      ∀ value : Value, value.type.cast value.display = .ok value := by
  refine ⟨castAll_of_typed fun row hrow => ?_, Value.cast_display⟩
  obtain ⟨hne, raw, -, rfl⟩ := mem_castAll hrow
  exact ⟨hne, typed_castRow schema raw⟩

end Row

end PlainReport
