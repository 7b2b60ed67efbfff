import PlainReport.Proofs.Collected
import PlainReport.Table.Typed

/-!
# Casting cell by cell

Casting carries the undeclared names that were reported from row to row.  These
names have an effect on the notices only.  The rows are those that casting each
declared cell by itself gives, less the empty ones (`castAll_result`).

A cast row has the declared ones of its columns, in their order, and every cell is
of the type of its column (`keys_castRow`, `typed_castRow`).
-/

namespace PlainReport

/-! ## Types of values -/

namespace DataType

theorem type_zero (type : DataType) : type.zero.type = type := by
  cases type <;> rfl

theorem type_of_cast {type : DataType} {raw : Text} {value : Value}
    (h : type.cast raw = .ok value) : value.type = type := by
  cases type with
  | int =>
    cases hr : readInt64? (Text.trim raw) with
    | none => simp [cast, hr] at h
    | some i =>
      simp only [cast, hr, Option.map_some, Option.elim_some, Except.ok.injEq] at h
      subst h
      rfl
  | float =>
    cases hr : readBinary64? (Text.trim raw) with
    | none => simp [cast, hr] at h
    | some x =>
      simp only [cast, hr, Option.map_some, Option.elim_some, Except.ok.injEq] at h
      subst h
      rfl
  | text =>
    simp only [cast, Except.ok.injEq] at h
    subst h
    rfl

/-- The cast of a displayed value, or the zero of the type if it does not read as one. -/
def castOrZero (type : DataType) (value : Value) : Value :=
  match type.cast value.display with
  | .ok value => value
  | .error _ => type.zero

theorem type_castOrZero (type : DataType) (value : Value) :
    (type.castOrZero value).type = type := by
  unfold castOrZero
  split
  · next h => exact type_of_cast h
  · exact type.type_zero

end DataType

namespace Row

/-- Every cell is of the type of a declared column. -/
def Typed (schema : Schema) (row : Row) : Prop :=
  ∀ cell ∈ row.entries, ∃ column,
    schema.find? cell.name = some column ∧ cell.value.type = column.type

theorem typed_iff {schema : Schema} {row : Row} : row.Typed schema ↔
    ∀ cell ∈ row.entries, (schema.find? cell.name).map Column.type = some cell.value.type := by
  unfold Typed
  refine forall₂_congr fun cell _ => ?_
  rw [Option.map_eq_some_iff]
  exact exists_congr fun column => and_congr_right fun _ => eq_comm

instance (schema : Schema) (row : Row) : Decidable (row.Typed schema) :=
  decidable_of_iff _ typed_iff.symm

/-- The value of a cell in a typed row. -/
theorem Typed.of_value? {schema : Schema} {row : Row} (h : row.Typed schema) {name : Text}
    {value : Value} (hv : Row.value? row name = some value) :
    ∃ column, schema.find? name = some column ∧ value.type = column.type := by
  obtain ⟨cell, hc, rfl⟩ := Option.map_eq_some_iff.1 hv
  have hname : cell.name = name := Keyed.key_of_find? hc
  exact hname ▸ h cell (Keyed.mem_of_find? hc)

theorem value?_of_mem {row : Row} {cell : Cell} (h : cell ∈ row.entries) :
    Row.value? row cell.name = some cell.value := by
  rw [value?, Keyed.find?_of_mem h, Option.map_some]

/-- A declared column that a typed row lacks counts as a zero of its type. -/
theorem Typed.type_valueOrZero {schema : Schema} {row : Row} (h : row.Typed schema) {name : Text}
    {column : Column} (hc : schema.find? name = some column) :
    (Row.valueOrZero row schema name).type = column.type := by
  rw [valueOrZero, Schema.zeroOf, hc]
  cases hv : Row.value? row name with
  | none => exact column.type.type_zero
  | some value =>
    obtain ⟨_, hc', ht⟩ := h.of_value? hv
    cases hc.symm.trans hc'
    exact ht

/-! ## Casting a row -/

/-- A cell cast to the type of its column, if there is one. -/
def castCell? (schema : Schema) (cell : Cell) : Option Cell :=
  (schema.find? cell.name).map fun column => ⟨cell.name, column.type.castOrZero cell.value⟩

theorem map_name_castCell? (schema : Schema) (cells : List Cell) :
    (cells.filterMap (castCell? schema)).map Cell.name =
      (cells.map Cell.name).filter schema.contains := by
  induction cells with
  | nil => rfl
  | cons cell cells ih =>
    rw [List.map_cons]
    cases h : schema.find? cell.name with
    | none =>
      have hc : ¬schema.contains cell.name = true := by simp [Keyed.contains, h]
      rw [List.filterMap_cons_none (by simp [castCell?, h]), List.filter_cons_of_neg hc, ih]
    | some column =>
      have hc : schema.contains cell.name = true := by simp [Keyed.contains, h]
      have hcast : castCell? schema cell =
          some ⟨cell.name, column.type.castOrZero cell.value⟩ := by simp [castCell?, h]
      rw [List.filterMap_cons_some hcast, List.map_cons, List.filter_cons_of_pos hc, ih]

/-- The row with its declared cells, each cast by itself. -/
def castRow (schema : Schema) (row : Row) : Row where
  entries := row.entries.filterMap (castCell? schema)
  distinct := by
    rw [map_name_castCell?]
    exact row.distinct.filter _

theorem keys_castRow (schema : Schema) (row : Row) :
    (castRow schema row).keys = row.keys.filter schema.contains :=
  map_name_castCell? schema row.entries

theorem typed_castRow (schema : Schema) (row : Row) : (castRow schema row).Typed schema := by
  intro cell hcell
  obtain ⟨raw, -, hraw⟩ := List.mem_filterMap.1 hcell
  obtain ⟨column, hc, rfl⟩ := Option.map_eq_some_iff.1 hraw
  exact ⟨column, hc, column.type.type_castOrZero raw.value⟩

/-! ## Casting all rows -/

/-- The names that were reported have no effect on the cells. -/
theorem castCells_cells (schema : Schema) (row : Row) (reported : List Text) (cells : List Cell) :
    (castCells schema row reported cells).1 = cells.filterMap (castCell? schema) := by
  induction cells generalizing reported with
  | nil => rfl
  | cons cell cells ih =>
    unfold castCells
    cases h : schema.find? cell.name with
    | none =>
      have hnone : castCell? schema cell = none := by simp [castCell?, h]
      rw [List.filterMap_cons_none hnone]
      cases hr : reported.contains cell.name with
      | true => exact ih reported
      | false => exact ih (cell.name :: reported)
    | some column =>
      have hcast : castCell? schema cell =
          some ⟨cell.name, column.type.castOrZero cell.value⟩ := by simp [castCell?, h]
      rw [List.filterMap_cons_some hcast, ← ih reported]
      cases hv : column.type.cast cell.value.display with
      | ok value => simp [DataType.castOrZero, hv]
      | error error => simp [DataType.castOrZero, hv]

theorem castFrom_result (schema : Schema) (reported : List Text) (rows : List Row) :
    (castFrom schema reported rows).result =
      (rows.map (castRow schema)).filter fun row => !row.isEmpty := by
  induction rows generalizing reported with
  | nil => rfl
  | cons row rows ih =>
    have hcells := castCells_cells schema row reported row.entries
    have hrow : Keyed.ofList (row.entries.filterMap (castCell? schema)) = castRow schema row :=
      Keyed.ext_entries (Keyed.entries_ofList (castRow schema row).distinct)
    rw [List.map_cons, List.filter_cons, castFrom]
    simp only [hcells, hrow, ih]
    cases h : (row.entries.filterMap (castCell? schema)).isEmpty with
    | true => simp [Keyed.isEmpty, castRow, h]
    | false => simp [Keyed.isEmpty, castRow, h]

/-- The rows are the cast ones that are not empty. -/
theorem castAll_result (schema : Schema) (rows : List Row) :
    (castAll schema rows).result =
      (rows.map (castRow schema)).filter fun row => !row.isEmpty :=
  castFrom_result schema [] rows

theorem mem_castAll {schema : Schema} {rows : List Row} {row : Row}
    (h : row ∈ (castAll schema rows).result) :
    row.entries ≠ [] ∧ ∃ raw ∈ rows, row = castRow schema raw := by
  rw [castAll_result] at h
  obtain ⟨hmem, hne⟩ := List.mem_filter.1 h
  obtain ⟨raw, hraw, rfl⟩ := List.mem_map.1 hmem
  exact ⟨by simpa [Keyed.isEmpty] using hne, raw, hraw, rfl⟩

end Row

end PlainReport
