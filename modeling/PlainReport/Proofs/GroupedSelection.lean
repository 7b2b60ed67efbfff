import PlainReport.Proofs.Number.Decimal
import PlainReport.Proofs.Stages

/-!
# Selecting before grouping

Conditions on grouping fields can be applied before the rows are grouped or after it
(`select_apply_comm`).

Integers and texts are told apart by how they are displayed, so the rows of a group have
the same values in the grouping fields, and so has the row that stands for them.  A
condition on such a field holds in all of these rows or in none (`holds_standIn`).  It
selects whole groups, and the groups that are left have all their members
(`filter_apply`).
-/

namespace PlainReport

/-! ## Values that show the same -/

/-- Integers and texts that show the same are the same. -/
theorem Value.eq_of_display_eq {v w : Value} (ht : v.type = w.type) (hf : v.type ≠ .float)
    (h : v.display = w.display) : v = w := by
  cases v with
  | int i =>
    cases w with
    | int j => exact congrArg Value.int (writeInt64_injective h)
    | float y => cases ht
    | text u => cases ht
  | float x => exact absurd rfl hf
  | text t =>
    cases w with
    | int j => cases ht
    | float y => cases ht
    | text u => exact congrArg Value.text h

namespace Row

theorem value?_eq_some_valueOrZero {row : Row} {name : Text} (h : name ∈ row.keys)
    (schema : Schema) : Row.value? row name = some (Row.valueOrZero row schema name) := by
  have hc : row.contains name = true := (Keyed.mem_keys_iff_contains row name).1 h
  obtain ⟨cell, hcell⟩ := Option.isSome_iff_exists.1 hc
  simp [valueOrZero, value?, hcell]

end Row

namespace Grouping

variable {g : Grouping} {schema : Schema} {rows : List Row}

/-- The row that stands for the rows that show the same tuple as a given one. -/
def standIn (g : Grouping) (schema : Schema) (rows : List Row) (row : Row) : Row :=
  g.rowOf schema (g.groupOf schema rows (g.shownKey schema row))

/-- A test that rows pass or fail as their stand-ins do selects whole groups, so the rows
can be selected before they are grouped. -/
theorem filter_apply {test : Row → Bool}
    (h : ∀ row ∈ rows, test (g.standIn schema rows row) = test row) :
    (g.apply schema rows).filter test = g.apply schema (rows.filter test) := by
  let verdict (tuple : List Text) : Bool := test (g.rowOf schema (g.groupOf schema rows tuple))
  have hverdict : ∀ row ∈ rows, verdict (g.shownKey schema row) = test row := h
  have htuples : g.tuples schema (rows.filter test) = (g.tuples schema rows).filter verdict := by
    have hrows : rows.filter test = rows.filter (verdict ∘ g.shownKey schema) :=
      List.filter_congr fun row hrow => (hverdict row hrow).symm
    rw [tuples, tuples, hrows, ← List.filter_map, eraseDups_filter]
  -- a group that is kept keeps all its members
  have hgroup : ∀ tuple, verdict tuple = true →
      g.groupOf schema (rows.filter test) tuple = g.groupOf schema rows tuple := by
    intro tuple hkept
    have hmembers : g.members schema (rows.filter test) tuple = g.members schema rows tuple := by
      rw [members, members, List.filter_filter]
      refine List.filter_congr fun row hrow => ?_
      by_cases hshown : g.shownKey schema row = tuple
      · simp [← hverdict row hrow, hshown, hkept]
      · simp [hshown]
    rw [groupOf, groupOf, hmembers]
  simp only [apply, entries_groups, List.map_map]
  rw [List.filter_map, htuples]
  refine List.map_congr_left fun tuple htuple => ?_
  simp only [Function.comp_apply, hgroup tuple (List.mem_filter.1 htuple).2]

/-- Rows that show the same tuple have the same values in the fields. -/
theorem valueOrZero_congr (hrows : ∀ row ∈ rows, row.Typed schema)
    (hfields : ∀ field ∈ g.fields,
      ∃ column, schema.find? field = some column ∧ column.type ≠ .float)
    {row other : Row} (hrow : row ∈ rows) (hother : other ∈ rows)
    (h : g.shownKey schema row = g.shownKey schema other) {field : Text}
    (hfield : field ∈ g.fields) :
    Row.valueOrZero row schema field = Row.valueOrZero other schema field := by
  obtain ⟨column, hc, hfloat⟩ := hfields field hfield
  have htype := (hrows row hrow).type_valueOrZero hc
  have htype' := (hrows other hother).type_valueOrZero hc
  have hshown := g.display_eq_of_shownKey_eq schema h hfield
  exact Value.eq_of_display_eq (htype.trans htype'.symm) (htype ▸ hfloat) hshown

/-- The row that stands for the rows of a tuple has their values in the fields. -/
theorem value?_standIn (hrows : ∀ row ∈ rows, row.Typed schema)
    (hfields : ∀ field ∈ g.fields,
      ∃ column, schema.find? field = some column ∧ column.type ≠ .float)
    (htarget : g.target ∉ g.fields) {row : Row} (hrow : row ∈ rows) {field : Text}
    (hfield : field ∈ g.fields) (hkey : field ∈ row.keys) :
    Row.value? (g.standIn schema rows row) field = Row.value? row field := by
  have htuple : g.shownKey schema row ∈ g.tuples schema rows :=
    (g.mem_tuples schema rows _).2 ⟨row, hrow, rfl⟩
  obtain ⟨first, hfirst, hhead⟩ := g.exists_head?_members schema htuple
  have hshown : g.shownKey schema first = g.shownKey schema row :=
    ((g.mem_members schema).1 (List.mem_of_mem_head? hhead)).2
  have hne : g.target ≠ field := fun e => htarget (e ▸ hfield)
  rw [standIn, g.value?_rowOf schema hhead, if_neg hne, if_pos hfield,
    Row.value?_eq_some_valueOrZero hkey schema,
    valueOrZero_congr hrows hfields hfirst hrow hshown hfield]

/-- A condition on a grouping field holds in the row that stands for others when it holds
in one of these. -/
theorem holds_standIn (hrows : ∀ row ∈ rows, row.Typed schema)
    (hfields : ∀ field ∈ g.fields,
      ∃ column, schema.find? field = some column ∧ column.type ≠ .float)
    (htarget : g.target ∉ g.fields) {row : Row} (hrow : row ∈ rows) {c : Condition}
    (hc : c.field ∈ g.fields) (hkey : c.field ∈ row.keys) :
    c.holds (g.standIn schema rows row) = c.holds row := by
  rw [Condition.holds, Condition.holds, value?_standIn hrows hfields htarget hrow hc hkey]

/-- Conditions on grouping fields can be applied before the rows are grouped or after it. -/
theorem select_apply_comm (g : Grouping) (schema : Schema) (rows : List Row) (names : List Text)
    (conditions : List Condition) (hcolumns : ∀ row ∈ rows, row.keys = names)
    (htyped : ∀ row ∈ rows, row.Typed schema)
    (hfields : ∀ field ∈ g.fields, field ∈ names ∧
      ∃ column, schema.find? field = some column ∧ column.type ≠ .float)
    (htarget : g.target ∉ g.fields) (hconditions : ∀ c ∈ conditions, c.field ∈ g.fields) :
    Condition.select conditions (g.apply schema rows) =
      g.apply schema (Condition.select conditions rows) := by
  have hgrouped : ∀ c ∈ conditions, c.field ∈ (g.fields ++ [g.target]).eraseDups := by
    intro c hc
    rw [List.mem_eraseDups]
    exact List.mem_append_left _ (hconditions c hc)
  have hraw : ∀ c ∈ conditions, c.field ∈ names := by
    intro c hc
    exact (hfields c.field (hconditions c hc)).1
  have hcolumns' : ∀ row ∈ rows, Row.HasColumns row names := fun row hrow =>
    Row.hasColumns_of_keys (hcolumns row hrow)
  rw [Condition.select_eq_filter_all
      (fun _ hrow => Row.hasColumns_of_keys (keys_of_mem_apply hrow)) hgrouped,
    Condition.select_eq_filter_all hcolumns' hraw]
  refine filter_apply fun row hrow => ?_
  rw [Bool.eq_iff_iff, List.all_eq_true, List.all_eq_true]
  refine forall₂_congr fun c hc => ?_
  have hkey : c.field ∈ row.keys := hcolumns row hrow ▸ hraw c hc
  rw [holds_standIn htyped (fun field hf => (hfields field hf).2) htarget hrow (hconditions c hc)
    hkey]

/-- Two fields of different types, and conditions that leave out the first group and a
later one. -/
theorem select_apply_comm_of_groups :
    let g : Grouping := ⟨["A", "N"], .average, "F"⟩
    let schema : Schema := Keyed.ofList
      [⟨"A", .text, 5, .left, []⟩, ⟨"N", .int, 5, .left, []⟩, ⟨"F", .float, 5, .left, []⟩]
    let row (a : String) (n : Int64) (x : Int) : Row :=
      Keyed.ofList [⟨"A", .text a⟩, ⟨"N", .int n⟩, ⟨"F", .float (.ofInt x)⟩]
    let rows : List Row :=
      [row "x" 1 4, row "y" (-2) 7, row "x" 1 3, row "y" 1 5, row "z" 1 6, row "y" 1 0]
    let conditions : List Condition :=
      [⟨"A", .notEqual, .text "x"⟩, ⟨"N", .greater, .int 0⟩, ⟨"A", .less, .text "z"⟩]
    (∀ row ∈ rows, row.keys = ["A", "N", "F"]) ∧ (∀ row ∈ rows, row.Typed schema) ∧
      (∀ field ∈ g.fields, field ∈ (["A", "N", "F"] : List Text) ∧
        ∃ column, schema.find? field = some column ∧ column.type ≠ .float) ∧
      g.target ∉ g.fields ∧ (∀ c ∈ conditions, c.field ∈ g.fields) ∧
      Condition.select conditions (g.apply schema rows) =
        g.apply schema (Condition.select conditions rows) ∧
      (Condition.select conditions (g.apply schema rows)).length = 1 := by
  intro g schema row rows conditions
  have hcolumns : ∀ row ∈ rows, row.keys = ["A", "N", "F"] := by decide +kernel
  have htyped : ∀ row ∈ rows, row.Typed schema := by decide +kernel
  have hfields : ∀ field ∈ g.fields, field ∈ (["A", "N", "F"] : List Text) ∧
      ∃ column, schema.find? field = some column ∧ column.type ≠ .float := by
    intro field hfield
    have hone : field = "A" ∨ field = "N" := by simpa [g] using hfield
    rcases hone with rfl | rfl
    · exact ⟨by decide, _, rfl, by decide⟩
    · exact ⟨by decide, _, rfl, by decide⟩
  have htarget : g.target ∉ g.fields := by decide
  have hconditions : ∀ c ∈ conditions, c.field ∈ g.fields := by decide
  exact ⟨hcolumns, htyped, hfields, htarget, hconditions,
    select_apply_comm g schema rows _ conditions hcolumns htyped hfields htarget hconditions,
    by decide +kernel⟩

end Grouping

end PlainReport
