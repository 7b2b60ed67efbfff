import PlainReport.Row
import PlainReport.Text.Blank
import PlainReport.Text.Capital

/-!
# Loaded rows

Table data is a line of column names and then rows that end in number signs.
Names and cells stand between commas.  Names are trimmed and read in capitals,
cells are kept as they are, and blank rows do not count.

A repeated name or a row with too many or too few cells rejects the whole table.
A repeated name counts first, and of the rows the first.
-/

namespace PlainReport

/-- Why table data is rejected. -/
inductive TableFault where
  /-- A column name stands twice. -/
  | duplicateColumn (name : Text)
  /-- A row has more cells than there are names. -/
  | missingColumnName (row : Nat)
  /-- A row has fewer cells than there are names. -/
  | missingValue (row : Nat)
deriving DecidableEq, Repr

namespace TableFault

/-- The message. -/
def message : TableFault → Text
  | duplicateColumn name => "TableDataError: duplicate column name " ++ name
  | missingColumnName row => "TableDataError: no column name in row " ++ decimal row
  | missingValue row => "TableDataError: no column value in row " ++ decimal row

end TableFault

namespace Table

/-- The column names in the header line. -/
def names (header : Text) : List Text :=
  (Text.pieces ',' (Text.trimEnd header)).map fun name => Text.toUpper (Text.trim name)

/-- The first name that stands in the list before. -/
def firstRepeat? : List Text → List Text → Option Text
  | _, [] => none
  | seen, name :: rest =>
    if seen.contains name then some name else firstRepeat? (name :: seen) rest

/-- The cells of the rows that are not blank. -/
def records (body : Text) : List (List Text) :=
  (((Text.pieces '#' body).map Text.trim).filter (!·.isEmpty)).map (Text.pieces ',')

/-- The fault of the first row, numbered from `row`, whose cells do not match the
names. -/
def firstMismatch? (width : Nat) : Nat → List (List Text) → Option TableFault
  | _, [] => none
  | row, record :: rest =>
    if width < record.length then some (.missingColumnName row)
    else if record.length < width then some (.missingValue row)
    else firstMismatch? width (row + 1) rest

/-- The row of a record. -/
def rowOf (names record : List Text) : Row :=
  Keyed.ofList (names.zipWith (fun name cell => ⟨name, .text cell⟩) record)

/-- Reads table data. -/
def load (t : Text) : Except TableFault (List Row) :=
  let (header, body) := Text.cut '\n' t
  let names := names header
  let records := records (body.getD [])
  match firstRepeat? [] names with
  | some name => .error (.duplicateColumn name)
  | none =>
    match firstMismatch? names.length 1 records with
    | some fault => .error fault
    | none => .ok (records.map (rowOf names))

end Table

end PlainReport
