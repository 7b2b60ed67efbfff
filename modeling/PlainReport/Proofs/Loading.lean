import PlainReport.Proofs.Collected
import PlainReport.Report.Config

/-!
# Loading accepts matching rows only

A table is accepted when no column name stands twice and every record has one cell
for each name (`load_eq_ok_iff`), and rejected when not (`exists_load_eq_error_iff`).  Every
row of an accepted table has the names of the header as its columns, in their order, and
every cell is text (`keys_of_load`, `type_of_load`).

For a report a rejected table is an error, and always one that only concerns the table
(`isTableFault_of_loadTable`).
-/

namespace PlainReport

namespace Table

/-! ## Names and records that are accepted -/

theorem firstRepeat?_eq_none_iff {seen names : List Text} :
    firstRepeat? seen names = none ↔ names.Nodup ∧ ∀ name ∈ names, name ∉ seen := by
  induction names generalizing seen with
  | nil => simp [firstRepeat?]
  | cons name names ih =>
    by_cases h : name ∈ seen
    · simp [firstRepeat?, h]
    · have hnew : ¬ seen.contains name = true := mt List.contains_iff_mem.1 h
      rw [firstRepeat?, if_neg hnew, ih, List.nodup_cons]
      constructor
      · rintro ⟨hn, hs⟩
        have hname : name ∉ names := fun hm => hs name hm List.mem_cons_self
        refine ⟨⟨hname, hn⟩, ?_⟩
        intro other ho
        cases List.mem_cons.1 ho with
        | inl he => exact he ▸ h
        | inr ho' => exact fun hm => hs other ho' (List.mem_cons_of_mem _ hm)
      · rintro ⟨⟨hname, hn⟩, hs⟩
        refine ⟨hn, fun other ho hm => ?_⟩
        cases List.mem_cons.1 hm with
        | inl he => exact hname (he ▸ ho)
        | inr hm' => exact hs other (List.mem_cons_of_mem _ ho) hm'

theorem firstRepeat?_nil_eq_none_iff {names : List Text} :
    firstRepeat? [] names = none ↔ names.Nodup := by
  simp only [firstRepeat?_eq_none_iff, List.not_mem_nil, not_false_eq_true, implies_true, and_true]

theorem firstMismatch?_eq_none_iff {width : Nat} (row : Nat) {records : List (List Text)} :
    firstMismatch? width row records = none ↔ ∀ record ∈ records, record.length = width := by
  induction records generalizing row with
  | nil => simp [firstMismatch?]
  | cons record records ih =>
    rw [firstMismatch?, List.forall_mem_cons]
    split
    · next hlong => simp [Nat.ne_of_gt hlong]
    · next hlong =>
      split
      · next hshort => simp [Nat.ne_of_lt hshort]
      · next hshort =>
        have heq : record.length = width := by omega
        rw [ih, and_iff_right heq]

/-- The names in the header of a table. -/
def headerOf (t : Text) : List Text := names (Text.cut '\n' t).1

/-- The records in the body of a table. -/
def recordsOf (t : Text) : List (List Text) := records ((Text.cut '\n' t).2.getD [])

/-- A table is accepted when no name stands twice and every record has one cell for
each name. -/
theorem load_eq_ok_iff {t : Text} {rows : List Row} :
    load t = .ok rows ↔
      (headerOf t).Nodup ∧ (∀ record ∈ recordsOf t, record.length = (headerOf t).length) ∧
        rows = (recordsOf t).map (rowOf (headerOf t)) := by
  rw [← firstRepeat?_nil_eq_none_iff, ← firstMismatch?_eq_none_iff 1]
  unfold load headerOf recordsOf
  cases Text.cut '\n' t with
  | mk header body =>
    dsimp only
    cases firstRepeat? [] (names header) with
    | some name => simp
    | none =>
      cases firstMismatch? (names header).length 1 (records (body.getD [])) with
      | some fault => simp
      | none => simp [eq_comm]

/-- The fault is a repeated name, or else that of a record. -/
theorem load_eq_error_iff {t : Text} {fault : TableFault} :
    load t = .error fault ↔
      (∃ name, firstRepeat? [] (headerOf t) = some name ∧ fault = .duplicateColumn name) ∨
        firstRepeat? [] (headerOf t) = none ∧
          firstMismatch? (headerOf t).length 1 (recordsOf t) = some fault := by
  unfold load headerOf recordsOf
  cases Text.cut '\n' t with
  | mk header body =>
    dsimp only
    cases firstRepeat? [] (names header) with
    | some name => simp [eq_comm]
    | none =>
      cases firstMismatch? (names header).length 1 (records (body.getD [])) with
      | some found => simp
      | none => simp

/-- A table is rejected for a name that stands twice or a record of another length. -/
theorem exists_load_eq_error_iff {t : Text} :
    (∃ fault, load t = .error fault) ↔
      ¬(headerOf t).Nodup ∨ ∃ record ∈ recordsOf t, record.length ≠ (headerOf t).length := by
  have hload : (∃ fault, load t = .error fault) ↔ ¬∃ rows, load t = .ok rows := by
    cases load t <;> simp
  rw [hload]
  simp only [load_eq_ok_iff, exists_and_left, exists_eq, and_true, not_and_or, not_forall,
    exists_prop]

/-! ## The rows -/

theorem map_name_zipWith {names record : List Text} (hl : record.length = names.length) :
    (names.zipWith (fun name cell => Cell.mk name (.text cell)) record).map Cell.name = names := by
  rw [← List.map_uncurry_zip_eq_zipWith, List.map_map]
  exact List.map_fst_zip (Nat.le_of_eq hl.symm)

theorem entries_rowOf {names record : List Text} (hn : names.Nodup)
    (hl : record.length = names.length) :
    (rowOf names record).entries = names.zipWith (fun name cell => ⟨name, .text cell⟩) record := by
  refine Keyed.entries_ofList ?_
  rwa [map_name_zipWith hl]

/-- Every row has the names of the header as its columns. -/
theorem keys_of_load {t : Text} {rows : List Row} (h : load t = .ok rows) {row : Row}
    (hrow : row ∈ rows) : row.keys = headerOf t := by
  obtain ⟨hn, hl, rfl⟩ := load_eq_ok_iff.1 h
  obtain ⟨record, hrecord, rfl⟩ := List.mem_map.1 hrow
  rw [Keyed.keys, entries_rowOf hn (hl record hrecord), map_name_zipWith (hl record hrecord)]

/-- Every cell is text. -/
theorem type_of_load {t : Text} {rows : List Row} (h : load t = .ok rows) {row : Row}
    (hrow : row ∈ rows) {cell : Cell} (hcell : cell ∈ row.entries) : cell.value.type = .text := by
  obtain ⟨hn, hl, rfl⟩ := load_eq_ok_iff.1 h
  obtain ⟨record, hrecord, rfl⟩ := List.mem_map.1 hrow
  rw [entries_rowOf hn (hl record hrecord), ← List.map_uncurry_zip_eq_zipWith] at hcell
  obtain ⟨pair, -, rfl⟩ := List.mem_map.1 hcell
  rfl

end Table

/-! ## The errors of loading -/

theorem loadTable_eq_error_iff {t : Text} {error : ReportError} :
    loadTable t = .error error ↔ ∃ fault, Table.load t = .error fault ∧ error = .table fault := by
  unfold loadTable
  cases Table.load t <;> simp [Except.mapError, eq_comm]

/-- A report has no rows for a name that stands twice or a record of another length. -/
theorem exists_loadTable_eq_error_iff {t : Text} :
    (∃ error, loadTable t = .error error) ↔ ¬(Table.headerOf t).Nodup ∨
      ∃ record ∈ Table.recordsOf t, record.length ≠ (Table.headerOf t).length := by
  rw [← Table.exists_load_eq_error_iff]
  simp only [loadTable_eq_error_iff, exists_comm (α := ReportError), exists_and_left, exists_eq,
    and_true]

/-- Loading fails with an error of the table only. -/
theorem isTableFault_of_loadTable {t : Text} {error : ReportError}
    (h : loadTable t = .error error) : error.isTableFault = true := by
  obtain ⟨fault, -, rfl⟩ := loadTable_eq_error_iff.1 h
  cases fault <;> rfl

end PlainReport
