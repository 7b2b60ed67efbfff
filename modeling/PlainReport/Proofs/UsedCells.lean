import PlainReport.Proofs.Stages

/-!
# Cells that a report depends on

Two tables are compared row by row.  Without a grouping the report is made from the declared
cells of each row in their order.  A grouping looks at less.  Of a row it needs the values of
the fields and of the target, and whether casting leaves any cell of it at all
(`Grouping.SameUse`).  The grouped rows have the fields and the target as their only columns,
so a condition on another column is passed over (`select_usedConditions`).

`sheet_of_used_cells` puts this together: tables that are alike in these cells have the same
report.
-/

namespace PlainReport

/-! ## Declared cells -/

namespace Row

/-- The cells of declared columns, in their order. -/
def declaredCells (schema : Schema) (row : Row) : List Cell :=
  row.entries.filter fun cell => schema.contains cell.name

variable {schema : Schema}

theorem castCell?_of_not_contains {cell : Cell} (h : ¬schema.contains cell.name = true) :
    castCell? schema cell = none := by
  have hnone : schema.find? cell.name = none := by simpa [Keyed.contains] using h
  rw [castCell?, hnone, Option.map_none]

theorem filterMap_castCell?_declaredCells (row : Row) :
    (row.declaredCells schema).filterMap (castCell? schema) =
      row.entries.filterMap (castCell? schema) := by
  rw [declaredCells, List.filterMap_filter]
  refine List.filterMap_congr fun cell _ => ?_
  split
  · rfl
  · next h => exact (castCell?_of_not_contains h).symm

theorem castRow_eq_of_declaredCells {row other : Row}
    (h : row.declaredCells schema = other.declaredCells schema) :
    castRow schema row = castRow schema other := by
  refine Keyed.ext_entries ?_
  show row.entries.filterMap (castCell? schema) = other.entries.filterMap (castCell? schema)
  rw [← filterMap_castCell?_declaredCells, ← filterMap_castCell?_declaredCells, h]

/-- A cast row has the cast values of the declared columns. -/
theorem value?_castRow (schema : Schema) (row : Row) (name : Text) :
    Row.value? (castRow schema row) name =
      (schema.find? name).bind fun column =>
        (Row.value? row name).map column.type.castOrZero := by
  show ((row.entries.filterMap (castCell? schema)).find? (·.name = name)).map Cell.value =
    (schema.find? name).bind fun column =>
      ((row.entries.find? (·.name = name)).map Cell.value).map column.type.castOrZero
  induction row.entries with
  | nil => cases schema.find? name <;> rfl
  | cons cell cells ih =>
    by_cases hname : cell.name = name
    · cases hc : schema.find? name with
      | none =>
        have hnone : castCell? schema cell = none := by simp [castCell?, hname, hc]
        rw [List.filterMap_cons_none hnone, ih, hc]
        rfl
      | some column =>
        have hcast : castCell? schema cell =
            some ⟨name, column.type.castOrZero cell.value⟩ := by simp [castCell?, hname, hc]
        rw [List.filterMap_cons_some hcast]
        simp [hname]
    · rw [List.find?_cons_of_neg (by simpa using hname), ← ih, List.filterMap_cons]
      cases hc : schema.find? cell.name with
      | none => simp [castCell?, hc]
      | some column => simp [castCell?, hc, hname]

/-- Casting leaves nothing of a row without declared columns. -/
theorem isEmpty_castRow_iff (row : Row) :
    (castRow schema row).isEmpty = true ↔ ∀ name ∈ row.keys, ¬schema.contains name = true := by
  rw [← List.filter_eq_nil_iff, ← keys_castRow, Keyed.keys, List.map_eq_nil_iff]
  exact List.isEmpty_iff

end Row

/-! ## Grouped rows -/

namespace Grouping

variable {g : Grouping} {schema : Schema}

/-- Two rows have the same columns among the declared ones, and the same values in the fields
and in the target. -/
structure SameUse (g : Grouping) (schema : Schema) (row other : Row) : Prop where
  /-- The same declared columns have a cell. -/
  declared : ∀ name, schema.contains name = true → (name ∈ row.keys ↔ name ∈ other.keys)
  /-- A cell of a field or of the target has the same value, or both rows lack it. -/
  agree : ∀ name ∈ g.fields ++ [g.target], Row.value? row name = Row.value? other name

theorem sameUse_iff {row other : Row} : g.SameUse schema row other ↔
    (∀ name ∈ schema.keys, row.contains name = other.contains name) ∧
      ∀ name ∈ g.fields ++ [g.target], Row.value? row name = Row.value? other name := by
  have hcontains : ∀ name, row.contains name = other.contains name ↔
      (name ∈ row.keys ↔ name ∈ other.keys) := by
    intro name
    rw [Bool.eq_iff_iff, Keyed.mem_keys_iff_contains, Keyed.mem_keys_iff_contains]
  simp only [hcontains, Keyed.mem_keys_iff_contains schema]
  exact ⟨fun h => ⟨h.declared, h.agree⟩, fun h => ⟨h.1, h.2⟩⟩

instance (row other : Row) : Decidable (g.SameUse schema row other) :=
  decidable_of_iff _ sameUse_iff.symm

/-- Two rows have the same part in the groups. -/
structure SamePart (g : Grouping) (schema : Schema) (row other : Row) : Prop where
  /-- They belong to the same group, and may give it the same key. -/
  key : g.keyOf schema row = g.keyOf schema other
  /-- They give it the same target. -/
  target : Row.valueOrZero row schema g.target = Row.valueOrZero other schema g.target

theorem SameUse.isEmpty_castRow {row other : Row} (h : g.SameUse schema row other) :
    (Row.castRow schema row).isEmpty = (Row.castRow schema other).isEmpty := by
  rw [Bool.eq_iff_iff, Row.isEmpty_castRow_iff, Row.isEmpty_castRow_iff]
  constructor
  · intro hnone name hname hdeclared
    exact hnone name ((h.declared name hdeclared).2 hname) hdeclared
  · intro hnone name hname hdeclared
    exact hnone name ((h.declared name hdeclared).1 hname) hdeclared

theorem SameUse.samePart_castRow {row other : Row} (h : g.SameUse schema row other) :
    g.SamePart schema (Row.castRow schema row) (Row.castRow schema other) := by
  have hvalue : ∀ name ∈ g.fields ++ [g.target],
      Row.valueOrZero (Row.castRow schema row) schema name =
        Row.valueOrZero (Row.castRow schema other) schema name := by
    intro name hname
    rw [Row.valueOrZero, Row.valueOrZero, Row.value?_castRow, Row.value?_castRow,
      h.agree name hname]
  constructor
  · exact List.map_congr_left fun field hfield => hvalue field (List.mem_append_left _ hfield)
  · exact hvalue g.target (List.mem_append_right _ (List.mem_singleton_self _))

/-- A row is put into its group by its key and its target. -/
theorem assign_congr {row other : Row} (h : g.SamePart schema row other)
    (groups : Keyed Group.shown) : g.assign schema groups row = g.assign schema groups other := by
  unfold assign
  rw [h.key, h.target]

theorem apply_congr {rows others : List Row} (h : List.Forall₂ (g.SamePart schema) rows others) :
    g.apply schema rows = g.apply schema others := by
  have hfold : ∀ groups : Keyed Group.shown,
      rows.foldl (g.assign schema) groups = others.foldl (g.assign schema) groups := by
    induction h with
    | nil => exact fun _ => rfl
    | cons hrow _ ih =>
      intro groups
      rw [List.foldl_cons, List.foldl_cons, assign_congr hrow, ih]
  rw [apply, apply, groups, groups, hfold Keyed.empty]

/-- Whether a condition is on a field or on the target. -/
def usesField (g : Grouping) (c : Condition) : Bool := (g.fields ++ [g.target]).contains c.field

/-- After a grouping only the conditions on its fields and its target count. -/
theorem select_usedConditions (conditions : List Condition) (rows : List Row) :
    Condition.select (conditions.filter g.usesField) (g.apply schema rows) =
      Condition.select conditions (g.apply schema rows) := by
  have hcolumns : ∀ out ∈ g.apply schema rows,
      Row.HasColumns out (g.fields ++ [g.target]).eraseDups := fun _ hout =>
    Row.hasColumns_of_keys (keys_of_mem_apply hout)
  rw [Condition.select_eq_filter hcolumns, Condition.select_eq_filter hcolumns]
  refine List.filter_congr fun out _ => ?_
  rw [List.all_filter]
  refine congrArg conditions.all (funext fun c => ?_)
  have hused : ((g.fields ++ [g.target]).eraseDups).contains c.field = g.usesField c := by
    rw [Bool.eq_iff_iff, usesField, List.contains_iff_mem, List.contains_iff_mem,
      List.mem_eraseDups]
  rw [hused]
  cases g.usesField c <;> rfl

end Grouping

/-! ## Reports -/

namespace TablePattern

variable {p : TablePattern} {rows others : List Row}

theorem castRows_congr
    (h : List.Forall₂ (fun row other => row.declaredCells p.schema = other.declaredCells p.schema)
      rows others) : p.castRows rows = p.castRows others := by
  have hrows : rows.map (Row.castRow p.schema) = others.map (Row.castRow p.schema) := by
    induction h with
    | nil => rfl
    | cons hrow _ ih => rw [List.map_cons, List.map_cons, Row.castRow_eq_of_declaredCells hrow, ih]
  rw [castRows, castRows, Row.castAll_result, Row.castAll_result, hrows]

/-- The rows that casting leaves have the same parts in the groups, one by one. -/
theorem forall₂_castRows {g : Grouping} (h : List.Forall₂ (g.SameUse p.schema) rows others) :
    List.Forall₂ (g.SamePart p.schema) (p.castRows rows) (p.castRows others) := by
  rw [castRows, castRows, Row.castAll_result, Row.castAll_result]
  induction h with
  | nil => exact List.Forall₂.nil
  | @cons row other rows others hrow _ ih =>
    rw [List.map_cons, List.map_cons, List.filter_cons, List.filter_cons, hrow.isEmpty_castRow]
    split
    · exact List.Forall₂.cons hrow.samePart_castRow ih
    · exact ih

theorem groupedRows_of_grouping {g : Grouping} (hg : p.grouping = some g) (rows : List Row) :
    p.groupedRows rows = g.apply p.schema (p.castRows rows) := by
  rw [groupedRows, hg]

theorem sheet_result (p : TablePattern) (defaultWidth : Nat) (rows : List Row) :
    (p.sheet defaultWidth rows).result = Sheet.ofRows p.schema defaultWidth p.title
      ((Condition.select p.conditions (p.groupedRows rows)).map (Row.fit p.schema)) := rfl

/-- The report is made from the declared cells of the rows in their order.  With a grouping
it is made from the fields and the target of the rows that have any declared cell, and the
conditions on other columns have no part in it. -/
theorem sheet_of_used_cells (p : TablePattern) (defaultWidth : Nat) (rows others : List Row) :
    (List.Forall₂ (fun row other => row.declaredCells p.schema = other.declaredCells p.schema)
        rows others →
      (p.sheet defaultWidth rows).result = (p.sheet defaultWidth others).result) ∧
    ∀ g, p.grouping = some g → List.Forall₂ (g.SameUse p.schema) rows others →
      ∀ conditions, conditions.filter g.usesField = p.conditions.filter g.usesField →
        (p.sheet defaultWidth rows).result =
          (TablePattern.sheet { p with conditions := conditions } defaultWidth others).result := by
  constructor
  · intro h
    have hgrouped : p.groupedRows rows = p.groupedRows others := by
      rw [groupedRows, groupedRows, castRows_congr h]
    rw [sheet_result, sheet_result, hgrouped]
  · intro g hg h conditions hconditions
    have hother : TablePattern.groupedRows { p with conditions := conditions } others =
        g.apply p.schema (p.castRows others) := groupedRows_of_grouping hg others
    have happly : g.apply p.schema (p.castRows rows) = g.apply p.schema (p.castRows others) :=
      Grouping.apply_congr (forall₂_castRows h)
    rw [sheet_result, sheet_result, hother, groupedRows_of_grouping hg, happly,
      ← g.select_usedConditions conditions, hconditions, g.select_usedConditions]

/-- Rows of one cell and of none, a row that lacks a field and one that lacks the target.  The
other tables have other cells between these, other values of `B`, other orders and another
condition on `B`. -/
theorem sheet_of_used_cells_of_shuffled :
    let columns : Text := "table columns: A|str-2; N|int-3; B|str-1"
    let plain := (ofText 20 columns).result
    let grouped :=
      (ofText 20 (columns ++ "#group: fields|A; data|sum; N#filter: B = x; N > 1")).result
    let g : Grouping := ⟨["A"], .sum, "N"⟩
    let conditions : List Condition :=
      [⟨"N", .greater, .int 1⟩, ⟨"B", .notEqual, .text "q"⟩]
    let row (cells : List (String × String)) : Row :=
      Keyed.ofList (cells.map fun cell => ⟨cell.1, .text cell.2⟩)
    let rows : List Row := [row [("A", "u"), ("N", "1"), ("B", "x")], row [("X", "1")],
      row [("N", "5"), ("B", "y")], row [("A", "u"), ("N", "2")], row [("B", "q")]]
    let padded : List Row := [row [("X", "0"), ("A", "u"), ("N", "1"), ("Y", ""), ("B", "x")],
      row [], row [("N", "5"), ("B", "y"), ("X", "")],
      row [("A", "u"), ("X", "7"), ("N", "2")], row [("Y", "1"), ("B", "q")]]
    let shuffled : List Row := [row [("B", "q"), ("N", "1"), ("A", "u")], row [("Y", "2")],
      row [("B", ""), ("X", "1"), ("N", "5")], row [("N", "2"), ("A", "u")], row [("B", "z")]]
    List.Forall₂ (fun row other =>
        row.declaredCells plain.schema = other.declaredCells plain.schema) rows padded ∧
      (plain.sheet 20 rows).result = (plain.sheet 20 padded).result ∧
      grouped.grouping = some g ∧ List.Forall₂ (g.SameUse grouped.schema) rows shuffled ∧
      conditions.filter g.usesField = grouped.conditions.filter g.usesField ∧
      (grouped.sheet 20 rows).result =
        (TablePattern.sheet { grouped with conditions := conditions } 20 shuffled).result ∧
      (grouped.sheet 20 rows).result.body = "--------\n|u | 3 |\n--------\n|  | 5 |\n--------" := by
  intro columns plain grouped g conditions row rows padded shuffled
  have hpadded : List.Forall₂ (fun row other =>
      row.declaredCells plain.schema = other.declaredCells plain.schema) rows padded := by
    decide +kernel
  have hgrouping : grouped.grouping = some g := by decide +kernel
  have hshuffled : List.Forall₂ (g.SameUse grouped.schema) rows shuffled := by decide +kernel
  have hconditions : conditions.filter g.usesField = grouped.conditions.filter g.usesField := by
    decide +kernel
  exact ⟨hpadded, (sheet_of_used_cells plain 20 rows padded).1 hpadded, hgrouping, hshuffled,
    hconditions, (sheet_of_used_cells grouped 20 rows shuffled).2 g hgrouping hshuffled conditions
      hconditions, by decide +kernel⟩

end TablePattern

end PlainReport
