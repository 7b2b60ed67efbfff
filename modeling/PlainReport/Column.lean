import PlainReport.Keyed
import PlainReport.Text.Alignment
import PlainReport.Value

/-!
# Columns and schemas

A column says how its cells are typed and laid out.  A schema is the list of the
columns of a table by name.
-/

namespace PlainReport

/-- A column of a report. -/
structure Column where
  /-- The name in capitals. -/
  name : Text
  /-- The type of the cells. -/
  type : DataType
  /-- The width of the field in characters. -/
  width : Nat
  /-- Where a cell stands in its field. -/
  alignment : Alignment
  /-- The unit of measurement, or nothing. -/
  unit : Text
deriving DecidableEq, Repr

/-- The head of the column: its name, and after a comma its unit if it has one. -/
def Column.caption (c : Column) : Text :=
  if c.unit.isEmpty then c.name else c.name ++ "," ++ c.unit

/-- Columns with distinct names.  A later definition of a column takes the place of an
earlier one. -/
abbrev Schema := Keyed Column.name

namespace Schema

/-- The value of a missing cell of a column, which is empty text for an unknown
column. -/
def zeroOf (schema : Schema) (name : Text) : Value :=
  (schema.find? name).elim (.text []) fun column => column.type.zero

end Schema

end PlainReport
