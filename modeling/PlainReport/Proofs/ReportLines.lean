import PlainReport.Proofs.Geometry
import PlainReport.Proofs.HeaderNames
import PlainReport.Proofs.Pattern.Columns
import PlainReport.Proofs.Text.Classes

/-!
# The lines of a report

A report with a title of one line is the title, the header and the lines of the body if
the header is one line as well (`lines_report`).

The header is one line unless a name in it shows a line break.  The data cannot bring one
in, as their names stand in their first line.  A grouping can, since its fields and its
target come from the pattern and become columns whether the data have them or not
(`lines_report_of_break`).
-/

namespace PlainReport

/-! ## Line breaks in the header -/

/-- The head of a column shows a line break if the name does, as far as it is shown. -/
theorem Column.mem_head_iff {column : Column} (hunit : '\n' ∉ column.unit) :
    '\n' ∈ column.alignment.fitLine column.caption column.width ↔
      '\n' ∈ column.name.take column.width := by
  rw [column.alignment.mem_fitLine_iff (by decide)]
  unfold caption
  split
  · exact Iff.rfl
  · have hrest : ∀ n, '\n' ∉ (',' :: column.unit).take n := by
      intro n h
      cases List.mem_cons.1 (List.mem_of_mem_take h) with
      | inl heq => exact absurd heq (by decide)
      | inr hu => exact hunit hu
    rw [List.append_assoc]
    change '\n' ∈ List.take _ (column.name ++ (',' :: column.unit)) ↔ _
    rw [List.take_append, List.mem_append]
    exact or_iff_left (hrest _)

/-! ## Heads of one line -/

/-- The heads of some columns show no line break. -/
def Schema.OneLineHeads (schema : Schema) (names : List Text) : Prop :=
  ∀ name ∈ names, ∀ column, schema.find? name = some column → '\n' ∉ name.take column.width

namespace Sheet

/-- Without rows the header is the notice, which is one line. -/
theorem not_mem_headerLine_nil (schema : Schema) (defaultWidth : Nat) :
    '\n' ∉ headerLine schema defaultWidth [] := by
  refine Row.not_mem_bordered fun field hfield => ?_
  cases List.mem_singleton.1 hfield
  exact Alignment.center.not_mem_fitLine _ (by decide)

theorem not_mem_headerLine_iff {schema : Schema} {columns : List Column} {rows : List Row}
    (hdeclared : ∀ column ∈ columns, schema.find? column.name = some column)
    (hrows : ∀ row ∈ rows, row.entries ≠ [] ∧ row.keys = columns.map Column.name)
    (hunits : ∀ column ∈ columns, '\n' ∉ column.unit) (defaultWidth : Nat) (hne : rows ≠ []) :
    '\n' ∉ headerLine schema defaultWidth (rows.map (Row.fit schema)) ↔
      schema.OneLineHeads (columns.map Column.name) := by
  rw [headerLine_fit hdeclared hrows defaultWidth hne, Row.mem_bordered_iff (by decide)]
  constructor
  · intro h name hname column hfind hbreak
    obtain ⟨other, hother, rfl⟩ := List.mem_map.1 hname
    cases (hdeclared other hother).symm.trans hfind
    exact h ⟨_, List.mem_map_of_mem hother, (Column.mem_head_iff (hunits column hother)).2 hbreak⟩
  · rintro h ⟨field, hfield, hbreak⟩
    obtain ⟨column, hcolumn, rfl⟩ := List.mem_map.1 hfield
    have hname := (Column.mem_head_iff (hunits column hcolumn)).1 hbreak
    exact h column.name (List.mem_map_of_mem hcolumn) column (hdeclared column hcolumn) hname

theorem not_mem_titleLine {title : Option Text} (h : '\n' ∉ title.getD []) (width : Nat) :
    '\n' ∉ titleLine title width := by
  intro hbreak
  cases Alignment.mem_pad hbreak with
  | inl heq => exact absurd heq (by decide)
  | inr htitle => exact h htitle

/-- A report with a title and a header of one line each is these two lines and then the
lines of the body. -/
theorem lines_text {sheet : Sheet} (htitle : '\n' ∉ sheet.title) (hheader : '\n' ∉ sheet.header) :
    Text.lines sheet.text = sheet.title :: sheet.header :: Text.lines sheet.body := by
  rw [text, Text.lines, Text.unlines, Text.pieces_join_eq_flatMap _ (List.cons_ne_nil _ _)]
  simp only [List.flatMap_cons, List.flatMap_nil, List.append_nil]
  rw [Text.pieces_of_not_mem htitle, Text.pieces_of_not_mem hheader]
  rfl

end Sheet

/-! ## Names that a grouping brings in -/

namespace TablePattern

/-- Whether the names that a grouping brings in show no line break in the header. -/
def OneLineGrouping (p : TablePattern) : Prop :=
  ∀ g, p.grouping = some g → p.schema.OneLineHeads (g.fields ++ [g.target])

variable {defaultWidth : Nat} {pattern : Text}

/-- Only by a grouping does a line break come into the names of the rows to show. -/
theorem oneLineHeads_keys_iff (p : TablePattern) {data : Text} {rows : List Row}
    (h : Table.load data = .ok rows) {row : Row} (hrow : row ∈ p.groupedRows rows) :
    p.schema.OneLineHeads row.keys ↔ p.OneLineGrouping := by
  unfold groupedRows at hrow
  unfold OneLineGrouping
  cases hg : p.grouping with
  | none =>
    rw [hg] at hrow
    obtain ⟨-, raw, hraw, rfl⟩ := Row.mem_castAll hrow
    refine iff_of_true ?_ nofun
    intro name hname column _ hbreak
    rw [Row.keys_castRow, Table.keys_of_load h hraw] at hname
    exact Table.not_mem_headerOf (List.mem_filter.1 hname).1 (List.mem_of_mem_take hbreak)
  | some g =>
    rw [hg] at hrow
    have hkeys : ∀ name, name ∈ row.keys ↔ name ∈ g.fields ++ [g.target] := by
      intro name
      rw [Grouping.keys_of_mem_apply hrow, List.mem_eraseDups]
    constructor
    · intro hone g' hg' name hname
      cases hg'
      exact hone name ((hkeys name).2 hname)
    · intro hone name hname
      exact hone g rfl name ((hkeys name).1 hname)

theorem not_mem_unit {name : Text} {column : Column}
    (h : (ofText defaultWidth pattern).result.schema.find? name = some column) :
    '\n' ∉ column.unit := by
  intro hunit
  have hword := Text.isBlank_of_isWordChar (isWordChar_of_mem_unit h hunit)
  exact absurd hword (by decide)

/-- The header of the selected rows is one line if there are none or if the grouping
brings no line break in. -/
theorem not_mem_header_iff {data : Text} {rows : List Row} (h : Table.load data = .ok rows) :
    let p := (ofText defaultWidth pattern).result
    let selected := (p.select rows).result
    '\n' ∉ Sheet.headerLine p.schema defaultWidth (selected.map (Row.fit p.schema)) ↔
      selected = [] ∨ p.OneLineGrouping := by
  intro p selected
  by_cases hempty : selected = []
  · rw [hempty]
    exact iff_of_true (Sheet.not_mem_headerLine_nil _ _) (.inl rfl)
  · obtain ⟨columns, hdeclared, hcolumns⟩ :=
      columns_groupedRows (checked_ofText defaultWidth pattern) fun _ => Table.keys_of_load h
    have hsub : selected ⊆ p.groupedRows rows := (Condition.select_sublist _ _).subset
    have hunits : ∀ column ∈ columns, '\n' ∉ column.unit :=
      fun column hcolumn => not_mem_unit (hdeclared column hcolumn)
    obtain ⟨row, hrow⟩ := List.exists_mem_of_ne_nil _ hempty
    rw [Sheet.not_mem_headerLine_iff hdeclared (fun row hrow => hcolumns row (hsub hrow)) hunits
      defaultWidth hempty, ← (hcolumns row (hsub hrow)).2, oneLineHeads_keys_iff p h (hsub hrow)]
    exact (or_iff_right hempty).symm

/-- Every line of the body is as long as the header. -/
theorem length_of_mem_lines_body {data : Text} {rows : List Row} (h : Table.load data = .ok rows) :
    let sheet := ((ofText defaultWidth pattern).result.sheet defaultWidth rows).result
    ∀ line ∈ Text.lines sheet.body, line.length = sheet.header.length := by
  intro sheet
  let p := (ofText defaultWidth pattern).result
  by_cases hempty : (p.select rows).result = []
  · intro line hline
    have hsheet : sheet = Sheet.ofRows p.schema defaultWidth p.title [] := by
      change Sheet.ofRows _ _ _ (List.map _ (p.select rows).result) = _
      rw [hempty]
      rfl
    rw [hsheet, Sheet.ofRows, Sheet.lines_bodyOf] at hline
    rw [hsheet]
    cases List.mem_singleton.1 hline
    exact List.length_replicate
  · obtain ⟨columns, hdeclared, hcolumns⟩ :=
      columns_groupedRows (checked_ofText defaultWidth pattern) fun _ => Table.keys_of_load h
    have hsub := (Condition.select_sublist p.conditions (p.groupedRows rows)).subset
    exact (Sheet.drawn_ofRows hdeclared (fun row hrow => hcolumns row (hsub hrow)) defaultWidth
      p.title hempty).lineLength

/-- The report of a title of one line is the title, the header and the lines of the body,
unless a grouping brings a line break into the header. -/
theorem lines_report (defaultWidth : Nat) (pattern data : Text) (rows : List Row)
    (h : Table.load data = .ok rows)
    (htitle : '\n' ∉ (ofText defaultWidth pattern).result.title.getD []) :
    let p := (ofText defaultWidth pattern).result
    let sheet := (p.sheet defaultWidth rows).result
    ('\n' ∉ sheet.header ↔ (p.select rows).result = [] ∨ p.OneLineGrouping) ∧
      ('\n' ∉ sheet.header →
        Text.lines sheet.text = sheet.title :: sheet.header :: Text.lines sheet.body) ∧
      ∀ line ∈ Text.lines sheet.body, line.length = sheet.header.length := by
  intro p sheet
  refine ⟨not_mem_header_iff h, fun hheader => ?_, length_of_mem_lines_body h⟩
  exact Sheet.lines_text (Sheet.not_mem_titleLine htitle _) hheader

/-- A grouped table with a cell of two lines, a unit and a cut name. -/
theorem lines_report_of_grouping :
    let pattern : Text :=
      "table columns: A|str-5; long\nname|int-4-r-kg#group: fields|A; data|sum; long\nname"
    let data : Text := "a,x\nup\ndown,0#b,1"
    let row (a x : String) : Row := Keyed.ofList [⟨"A", .text a⟩, ⟨"X", .text x⟩]
    let rows : List Row := [row "up\ndown" "0", row "b" "1"]
    let p := (ofText 20 pattern).result
    let sheet := (p.sheet 20 rows).result
    Table.load data = .ok rows ∧ '\n' ∉ p.title.getD [] ∧ '\n' ∉ sheet.header ∧
      Text.lines sheet.text = sheet.title :: sheet.header :: Text.lines sheet.body := by
  intro pattern data row rows p sheet
  have hload : Table.load data = .ok rows := by decide +kernel
  have htitle : '\n' ∉ p.title.getD [] := by decide +kernel
  have hheader : '\n' ∉ sheet.header := by decide +kernel
  exact ⟨hload, htitle, hheader, (lines_report 20 pattern data rows hload htitle).2.1 hheader⟩

/-- The name of a field in two lines makes a header of two lines. -/
theorem lines_report_of_break :
    let pattern : Text := "table columns: A\nB|str-3; N|int-3#group: fields|A\nB; data|sum; N"
    let rows : List Row := [Keyed.ofList [⟨"N", .text "1"⟩]]
    let p := (ofText 20 pattern).result
    let sheet := (p.sheet 20 rows).result
    Table.load "n\n1" = .ok rows ∧ p.title = none ∧ '\n' ∈ sheet.header ∧
      Text.lines sheet.text =
        [("---------" : Text), "|A", "B| N |", "---------", "|   | 1 |", "---------"] := by
  decide +kernel

end TablePattern

end PlainReport
