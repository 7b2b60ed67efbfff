import PlainReport.Column

/-!
# Rows

A row is a list of cells with distinct names.  Cells stand in the order in which
they were first put in, which is the order in which they are printed.
-/

namespace PlainReport

/-- A named value. -/
structure Cell where
  /-- The name of the column. -/
  name : Text
  /-- The value. -/
  value : Value
deriving DecidableEq

/-- Cells with distinct names. -/
abbrev Row := Keyed Cell.name

namespace Row

/-- The value of the cell with a name. -/
def value? (row : Row) (name : Text) : Option Value := (row.find? name).map Cell.value

/-- The value of the cell with a name, or the zero of its column. -/
def valueOrZero (row : Row) (schema : Schema) (name : Text) : Value :=
  (Row.value? row name).getD (Schema.zeroOf schema name)

/-- The row with every value changed and all names kept. -/
def mapValues (f : Cell → Value) (row : Row) : Row where
  entries := row.entries.map fun cell => ⟨cell.name, f cell⟩
  distinct := by simpa [List.map_map, Function.comp_def] using row.distinct

/-- The row written out on one line, with names quoted and values marked with their
kinds. -/
def listing (row : Row) : Text :=
  ['\x7b'] ++ Text.join ", " (row.entries.map fun cell =>
    Text.quoted cell.name ++ ": " ++ cell.value.listing) ++ ['\x7d']

end Row

end PlainReport
