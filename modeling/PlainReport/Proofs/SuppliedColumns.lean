import PlainReport.Proofs.Casting
import PlainReport.Proofs.HeaderNames
import PlainReport.Proofs.Pattern.Columns
import PlainReport.Proofs.Text.Names

/-!
# Columns that data can supply

A pattern and the header of table data write the names of columns in two ways.  The name
in a definition goes up to the bar and may have commas and line breaks in it.  The header
is one line, and its names stand between commas.

So a name with a comma or a line break stands in no header, and no table has a cell of its
column.  Under any other name a table of one row supplies the column
(`supplied_by_one_row`).
-/

namespace PlainReport

open Text

namespace Column

/-- The name in a definition as it is spelled: what stands before the bar, without the
blanks around it. -/
def spelling (definition : Text) : Text := trim (cut '|' definition).1

/-- The column of a definition has the name that is spelled there, in capitals. -/
theorem isLabel_spelling {definition : Text} {defaultWidth : Nat} {column : Column}
    (h : read definition defaultWidth = .ok column) :
    (spelling definition).IsLabel ∧ column.name = toUpper (spelling definition) := by
  obtain ⟨name, format, b, n, rfl, hchars, hsolid, -, hformat⟩ := exists_bar_of_read h
  obtain ⟨type, layout, rest, -, -, -, rfl⟩ := readFormat_eq_ok_iff.1 hformat
  have hbar : '|' ∉ name := not_mem_of_class hchars (isNameChar_of_mem_dividers (by decide))
  have hne : trim name ≠ [] := by rwa [← List.isEmpty_eq_false_iff, isEmpty_trim]
  rw [spelling, cut_append hbar]
  exact ⟨⟨hne, trim_trim name, fun x hx => hchars x (trim_subset name hx)⟩, rfl⟩

end Column

/-! ## A table of one row -/

namespace Table

/-- A name without commas and line breaks stands in a header of its own. -/
theorem headerOf_append {name : Text} (hlabel : name.IsLabel) (hcomma : ',' ∉ name)
    (hbreak : '\n' ∉ name) (body : Text) : headerOf (name ++ '\n' :: body) = [toUpper name] := by
  rw [headerOf, cut_append hbreak, names, trimEnd_of_endsSolid hlabel.ends,
    pieces_of_not_mem hcomma, List.map_singleton, hlabel.trim_eq]

/-- A table of one name and one cell is accepted. -/
theorem load_append {name : Text} (hlabel : name.IsLabel) (hcomma : ',' ∉ name)
    (hbreak : '\n' ∉ name) :
    ∃ row, load (name ++ "\n1#") = .ok [row] ∧
      row.entries = [⟨toUpper name, .text "1"⟩] := by
  have hheader : headerOf (name ++ "\n1#") = [toUpper name] :=
    headerOf_append hlabel hcomma hbreak "1#"
  have hrecords : recordsOf (name ++ "\n1#") = [["1".toList]] := by
    have hcut : cut '\n' (name ++ "\n1#") = (name, some "1#".toList) := cut_append hbreak _
    rw [recordsOf, hcut]
    rfl
  refine ⟨rowOf [toUpper name] ["1".toList], load_eq_ok_iff.2 ⟨?_, ?_, ?_⟩, rfl⟩
  · rw [hheader]
    exact List.nodup_singleton _
  · rw [hheader, hrecords]
    exact List.forall_mem_singleton.2 rfl
  · rw [hheader, hrecords]
    rfl

/-- No table has a column with a comma or a line break in its name. -/
theorem not_mem_keys_of_load {data : Text} {rows : List Row} (h : load data = .ok rows)
    {name : Text} (hname : ',' ∈ name ∨ '\n' ∈ name) {row : Row} (hrow : row ∈ rows) :
    name ∉ row.keys := by
  intro hkey
  rw [keys_of_load h hrow] at hkey
  cases hname with
  | inl hcomma => exact comma_not_mem_headerOf hkey hcomma
  | inr hbreak => exact not_mem_headerOf hkey hbreak

end Table

/-! ## Casting one cell -/

/-- A digit is read as a value of every type. -/
theorem DataType.cast_one (type : DataType) : ∃ value, type.cast "1" = .ok value := by
  cases type with
  | int => exact ⟨_, rfl⟩
  | float => exact ⟨_, rfl⟩
  | text => exact ⟨_, rfl⟩

/-- Casting keeps a row of one declared cell that reads as its type, without a notice. -/
theorem Row.castAll_singleton {schema : Schema} {column : Column} {row : Row} {name raw : Text}
    {value : Value} (hrow : row.entries = [⟨name, .text raw⟩])
    (hcolumn : schema.find? name = some column) (hvalue : column.type.cast raw = .ok value) :
    ∃ out, Row.castAll schema [row] = ⟨[out], []⟩ ∧ out.entries = [⟨name, value⟩] := by
  refine ⟨Keyed.ofList [⟨name, value⟩], ?_, rfl⟩
  simp [Row.castAll, Row.castFrom, Row.castCells, hrow, hcolumn, Value.display, hvalue]

/-! ## Supplying a column -/

namespace Column

/-- A column is supplied by a table of one row under its name as it is spelled in the
definition.  If a comma or a line break stands in the name, then no table supplies it. -/
theorem supplied_by_one_row (definition : Text) (defaultWidth : Nat) (column : Column)
    (h : read definition defaultWidth = .ok column) :
    let name := spelling definition
    (',' ∉ name → '\n' ∉ name →
      ∃ row value, Table.load (name ++ "\n1#") = .ok [row] ∧
        row.entries = [⟨column.name, .text "1"⟩] ∧ column.type.cast "1" = .ok value ∧
        ∀ schema : Schema, schema.find? column.name = some column →
          ∃ out, Row.castAll schema [row] = ⟨[out], []⟩ ∧ out.entries = [⟨column.name, value⟩]) ∧
      (',' ∈ name ∨ '\n' ∈ name →
        ∀ data rows, Table.load data = .ok rows → ∀ row ∈ rows, column.name ∉ row.keys) := by
  intro name
  obtain ⟨hlabel, hname⟩ := isLabel_spelling h
  rw [hname]
  constructor
  · intro hcomma hbreak
    obtain ⟨row, hload, hrow⟩ := Table.load_append hlabel hcomma hbreak
    obtain ⟨value, hvalue⟩ := column.type.cast_one
    exact ⟨row, value, hload, hrow, hvalue, fun schema hcolumn =>
      Row.castAll_singleton hrow hcolumn hvalue⟩
  · intro hsign data rows hload row hrow
    refine Table.not_mem_keys_of_load hload ?_ hrow
    exact hsign.imp (mem_toUpper rfl) (mem_toUpper rfl)

theorem supplied_by_one_row_of_sharp_s :
    let column : Column := ⟨"NETTO SS", .float, 8, .right, "kg"⟩
    let name := spelling " Netto ß | Float-8-r-kg "
    read " Netto ß | Float-8-r-kg " 20 = .ok column ∧ name = "Netto ß" ∧
      ∃ row value, Table.load (name ++ "\n1#") = .ok [row] ∧
        row.entries = [⟨column.name, .text "1"⟩] ∧ column.type.cast "1" = .ok value ∧
        ∀ schema : Schema, schema.find? column.name = some column →
          ∃ out, Row.castAll schema [row] = ⟨[out], []⟩ ∧
            out.entries = [⟨column.name, value⟩] := by
  intro column name
  have hread : read " Netto ß | Float-8-r-kg " 20 = .ok column := by decide +kernel
  have hname : name = "Netto ß" := by decide +kernel
  have hclear : ',' ∉ name ∧ '\n' ∉ name := by
    rw [hname]
    decide
  exact ⟨hread, hname, (supplied_by_one_row _ 20 column hread).1 hclear.1 hclear.2⟩

/-- The comma in the name of this column makes two names of it in a header. -/
theorem not_supplied_by_one_row_of_comma :
    read "a,b|int" 20 = .ok ⟨"A,B", .int, 20, .center, []⟩ ∧ spelling "a,b|int" = "a,b" ∧
      Table.load (spelling "a,b|int" ++ "\n1#") = .error (.missingValue 1) := by
  decide +kernel

end Column

end PlainReport
