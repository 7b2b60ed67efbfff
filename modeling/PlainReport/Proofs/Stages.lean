import PlainReport.Proofs.Loading
import PlainReport.Proofs.Partition
import PlainReport.Proofs.Pattern.Checked
import PlainReport.Proofs.Selection
import PlainReport.Table.Pipeline

/-!
# What the stages of a report keep

Rows are loaded, cast, grouped, selected and fitted.  After each stage all rows have
the same columns, and every cell has the type that its column asks for
(`stages_keep_shape`).  So the conditions compare texts with texts and numbers with
numbers only.

A grouping changes the type of one column.  Its target is an integer if integers are
summed up, and else a binary number, whatever the type of the column.
-/

namespace PlainReport

/-! ## Grouped rows -/

namespace Aggregate

/-- Only a sum over a column of integers is an integer. -/
theorem type_apply (function : Aggregate) (values : List Value) (type : DataType) :
    (function.apply values type).type =
      if function = .sum ∧ type = .int then .int else .float := by
  cases function with
  | sum => cases type <;> rfl
  | average =>
    rw [apply]
    split <;> rfl

end Aggregate

namespace Grouping

variable {g : Grouping} {schema : Schema} {rows : List Row} {out : Row}

theorem keys_of_mem_apply (h : out ∈ g.apply schema rows) :
    out.keys = (g.fields ++ [g.target]).eraseDups := by
  obtain ⟨tuple, ht, rfl⟩ := g.mem_apply schema h
  obtain ⟨first, -, hfirst⟩ := g.exists_head?_members schema ht
  exact g.keys_rowOf schema hfirst

/-- A cell of a grouping field has the type of its column. -/
theorem typed_of_mem_apply (hrows : ∀ row ∈ rows, row.Typed schema)
    (hfields : ∀ field ∈ g.fields, ∃ column, schema.find? field = some column)
    (h : out ∈ g.apply schema rows) {cell : Cell} (hcell : cell ∈ out.entries)
    (hne : cell.name ≠ g.target) :
    ∃ column, schema.find? cell.name = some column ∧ cell.value.type = column.type := by
  obtain ⟨tuple, ht, rfl⟩ := g.mem_apply schema h
  obtain ⟨first, hmem, hfirst⟩ := g.exists_head?_members schema ht
  have hvalue := Row.value?_of_mem hcell
  rw [g.value?_rowOf schema hfirst, if_neg (Ne.symm hne)] at hvalue
  split at hvalue
  · next hfield =>
    obtain ⟨column, hc⟩ := hfields _ hfield
    refine ⟨column, hc, ?_⟩
    rw [← Option.some.inj hvalue]
    exact (hrows first hmem).type_valueOrZero hc
  · cases hvalue

/-- The target is an integer if integers are summed up, and else a binary number. -/
theorem type_target_of_mem_apply {column : Column} (hc : schema.find? g.target = some column)
    (h : out ∈ g.apply schema rows) :
    ∃ value, Row.value? out g.target = some value ∧
      value.type = if g.aggregate = .sum ∧ column.type = .int then .int else .float := by
  obtain ⟨tuple, ht, rfl⟩ := g.mem_apply schema h
  obtain ⟨first, -, hfirst⟩ := g.exists_head?_members schema ht
  refine ⟨_, (g.value?_rowOf schema hfirst g.target).trans (if_pos rfl), ?_⟩
  rw [Aggregate.type_apply, targetType_eq, hc, Option.map_some, Option.getD_some]

end Grouping

namespace TablePattern

variable (p : TablePattern)

/-! ## The stages of a pattern -/

/-- The rows after casting. -/
def castRows (rows : List Row) : List Row := (Row.castAll p.schema rows).result

/-- The rows that the conditions select from. -/
def groupedRows (rows : List Row) : List Row :=
  match p.grouping with
  | some g => g.apply p.schema (p.castRows rows)
  | none => p.castRows rows

theorem typed_castRows {rows : List Row} {row : Row} (h : row ∈ p.castRows rows) :
    row.Typed p.schema := by
  obtain ⟨-, raw, -, rfl⟩ := Row.mem_castAll h
  exact Row.typed_castRow p.schema raw

/-- A value of a row that the conditions select from has the type of its column, or
both are numeric. -/
theorem type_groupedRows {p : TablePattern} (hp : p.Checked) {rows : List Row} {row : Row}
    (h : row ∈ p.groupedRows rows) {name : Text} {value : Value}
    (hv : Row.value? row name = some value) :
    ∃ column, p.schema.find? name = some column ∧
      (value.type = column.type ∨ value.type.isNumeric = true ∧ column.type.isNumeric = true) := by
  unfold groupedRows at h
  cases hg : p.grouping with
  | none =>
    rw [hg] at h
    obtain ⟨column, hc, ht⟩ := (p.typed_castRows h).of_value? hv
    exact ⟨column, hc, .inl ht⟩
  | some g =>
    rw [hg] at h
    by_cases hname : name = g.target
    · subst hname
      obtain ⟨column, hc, hn⟩ := hp.target g hg
      obtain ⟨found, hf, ht⟩ := Grouping.type_target_of_mem_apply hc h
      cases hv.symm.trans hf
      refine ⟨column, hc, .inr ⟨?_, hn⟩⟩
      rw [ht]
      split <;> rfl
    · obtain ⟨cell, hfind, rfl⟩ := Option.map_eq_some_iff.1 hv
      have hkey : cell.name = name := Keyed.key_of_find? hfind
      subst hkey
      obtain ⟨column, hc, ht⟩ := Grouping.typed_of_mem_apply (fun _ => p.typed_castRows)
        (hp.fields g hg) h (Keyed.mem_of_find? hfind) hname
      exact ⟨column, hc, .inl ht⟩

/-- A condition compares values of one kind only. -/
theorem sameKind_groupedRows {p : TablePattern} (hp : p.Checked) {rows : List Row} {row : Row}
    (h : row ∈ p.groupedRows rows) {c : Condition} (hc : c ∈ p.conditions) {value : Value}
    (hv : Row.value? row c.field = some value) : value.SameKind c.value := by
  obtain ⟨column, hcol, ht⟩ := type_groupedRows hp h hv
  obtain ⟨column', hcol', ht'⟩ := hp.conditions c hc
  cases hcol.symm.trans hcol'
  cases ht with
  | inl heq => exact Value.sameKind_of_type_eq (heq.trans ht'.symm)
  | inr hnum => exact .inr ⟨hnum.1, ht' ▸ hnum.2⟩

/-- Declared names are those of some columns. -/
theorem exists_columns {schema : Schema} {names : List Text}
    (h : ∀ name ∈ names, ∃ column, schema.find? name = some column) :
    ∃ columns : List Column, columns.map Column.name = names ∧
      ∀ column ∈ columns, schema.find? column.name = some column := by
  induction names with
  | nil => exact ⟨[], rfl, nofun⟩
  | cons name names ih =>
    obtain ⟨column, hc⟩ := h name List.mem_cons_self
    obtain ⟨columns, hnames, hcs⟩ := ih fun other ho => h other (List.mem_cons_of_mem _ ho)
    have hname : column.name = name := Keyed.key_of_find? hc
    refine ⟨column :: columns, by rw [List.map_cons, hname, hnames], ?_⟩
    exact List.forall_mem_cons.2 ⟨hname.symm ▸ hc, hcs⟩

/-- The rows that the conditions select from all have the same declared columns, and at
least one. -/
theorem columns_groupedRows {p : TablePattern} (hp : p.Checked) {names : List Text}
    {rows : List Row} (hrows : ∀ row ∈ rows, row.keys = names) :
    ∃ columns : List Column,
      (∀ column ∈ columns, p.schema.find? column.name = some column) ∧
        ∀ row ∈ p.groupedRows rows,
          row.entries ≠ [] ∧ row.keys = columns.map Column.name := by
  unfold groupedRows
  cases hg : p.grouping with
  | none =>
    obtain ⟨columns, hnames, hcs⟩ := exists_columns fun name
      (hname : name ∈ names.filter p.schema.contains) =>
        find?_of_contains (List.mem_filter.1 hname).2
    refine ⟨columns, hcs, fun row hrow => ?_⟩
    obtain ⟨hne, raw, hraw, rfl⟩ := Row.mem_castAll hrow
    exact ⟨hne, by rw [Row.keys_castRow, hrows raw hraw, hnames]⟩
  | some g =>
    have hdeclared : ∀ name ∈ (g.fields ++ [g.target]).eraseDups,
        ∃ column, p.schema.find? name = some column := by
      intro name hname
      rw [List.mem_eraseDups, List.mem_append, List.mem_singleton] at hname
      cases hname with
      | inl hfield => exact hp.fields g hg name hfield
      | inr htarget =>
        obtain ⟨column, hc, -⟩ := hp.target g hg
        exact ⟨column, htarget ▸ hc⟩
    obtain ⟨columns, hnames, hcs⟩ := exists_columns hdeclared
    refine ⟨columns, hcs, fun row hrow => ?_⟩
    have hkeys := Grouping.keys_of_mem_apply hrow
    have htarget : g.target ∈ row.keys := by
      rw [hkeys, List.mem_eraseDups]
      exact List.mem_append_right _ (List.mem_singleton_self _)
    refine ⟨fun hnil => ?_, hkeys.trans hnames.symm⟩
    rw [Keyed.keys, hnil] at htarget
    cases htarget

/-! ## Shapes -/

/-- What the rows of a table look like after each stage, for the names in its header. -/
structure StageShapes (names : List Text) (rows : List Row) : Prop where
  /-- No name stands twice in the header. -/
  names_nodup : names.Nodup
  /-- Loaded rows have the names of the header and cells of text. -/
  loaded : ∀ row ∈ rows, row.keys = names ∧ ∀ cell ∈ row.entries, cell.value.type = .text
  /-- Cast rows have the declared names of the header, and cells of their types. -/
  cast : ∀ row ∈ p.castRows rows, row.keys = names.filter p.schema.contains ∧
    row.entries ≠ [] ∧ row.Typed p.schema
  /-- Grouped rows have the fields and the target.  All cells but the target have their
  types, and the target has the type of the aggregate. -/
  grouped : ∀ g, p.grouping = some g → ∀ row ∈ g.apply p.schema (p.castRows rows),
    row.keys = (g.fields ++ [g.target]).eraseDups ∧
      (∀ cell ∈ row.entries, cell.name ≠ g.target →
        ∃ column, p.schema.find? cell.name = some column ∧ cell.value.type = column.type) ∧
      ∃ column value, p.schema.find? g.target = some column ∧
        Row.value? row g.target = some value ∧
        value.type = if g.aggregate = .sum ∧ column.type = .int then .int else .float
  /-- Selecting leaves rows out and keeps the others in their order. -/
  selected : (p.select rows).result.Sublist (p.groupedRows rows)
  /-- Fitting keeps the columns and makes every cell text. -/
  fitted : ∀ row ∈ (p.select rows).result, (row.fit p.schema).keys = row.keys ∧
    ∀ cell ∈ (row.fit p.schema).entries, cell.value.type = .text
  /-- Conditions compare texts with texts and numbers with numbers, and find no order
  only if one of them is not a number. -/
  compared : ∀ c ∈ p.conditions, ∀ row ∈ p.groupedRows rows, ∀ value,
    Row.value? row c.field = some value → value.SameKind c.value ∧
      (value.compare? c.value = none ↔ value.IsNan ∨ c.value.IsNan)

end TablePattern

namespace Row

theorem keys_fit (schema : Schema) (row : Row) : (row.fit schema).keys = row.keys := by
  rw [fit, mapValues, Keyed.keys, List.map_map]
  rfl

theorem type_of_mem_fit {schema : Schema} {row : Row} {cell : Cell}
    (h : cell ∈ (row.fit schema).entries) : cell.value.type = .text := by
  obtain ⟨_, -, rfl⟩ := List.mem_map.1 h
  rfl

end Row

namespace TablePattern

/-- Every stage keeps the rows of a table in shape, for every pattern and every table
that is accepted. -/
theorem stages_keep_shape (defaultWidth : Nat) (pattern data : Text) (rows : List Row)
    (h : Table.load data = .ok rows) :
    (ofText defaultWidth pattern).result.StageShapes (Table.headerOf data) rows where
  names_nodup := (Table.load_eq_ok_iff.1 h).1
  loaded row hrow := ⟨Table.keys_of_load h hrow, fun _ => Table.type_of_load h hrow⟩
  cast row hrow := by
    obtain ⟨hne, raw, hraw, rfl⟩ := Row.mem_castAll hrow
    exact ⟨Table.keys_of_load h hraw ▸ Row.keys_castRow _ raw, hne, Row.typed_castRow _ raw⟩
  grouped g hg row hrow := by
    have hp := checked_ofText defaultWidth pattern
    obtain ⟨column, hc, -⟩ := hp.target g hg
    obtain ⟨value, hv, ht⟩ := Grouping.type_target_of_mem_apply hc hrow
    refine ⟨Grouping.keys_of_mem_apply hrow, ?_, column, value, hc, hv, ht⟩
    intro cell hcell hne
    exact Grouping.typed_of_mem_apply (fun _ => typed_castRows _) (hp.fields g hg) hrow hcell hne
  selected := Condition.select_sublist _ _
  fitted row _ := ⟨row.keys_fit _, fun _ => Row.type_of_mem_fit⟩
  compared c hc row hrow value hv := by
    have hkind := sameKind_groupedRows (checked_ofText defaultWidth pattern) hrow hc hv
    exact ⟨hkind, Value.compare?_eq_none_iff hkind⟩

/-- A grouped table with a name of no column, a cell that is cast to nothing and one that
is not a number. -/
theorem stages_keep_shape_of_nan :
    let pattern : Text :=
      "table columns: A|str; N|int; F|float#group: fields|A; N; data|avg; F#filter: F >= 1; N < 9"
    let data : Text := "f,a,n,x\nnan,u,2,0#1.5,v,w,0#-1,u,2,1#2,v,0,1"
    let row (f a n x : String) : Row := Keyed.ofList
      [⟨"F", .text f⟩, ⟨"A", .text a⟩, ⟨"N", .text n⟩, ⟨"X", .text x⟩]
    let rows : List Row :=
      [row "nan" "u" "2" "0", row "1.5" "v" "w" "0", row "-1" "u" "2" "1", row "2" "v" "0" "1"]
    Table.load data = .ok rows ∧
      (ofText 20 pattern).result.StageShapes (Table.headerOf data) rows := by
  intro pattern data row rows
  have hload : Table.load data = .ok rows := by decide +kernel
  exact ⟨hload, stages_keep_shape 20 pattern data rows hload⟩

end TablePattern

end PlainReport
