import PlainReport.Notice
import PlainReport.Row

/-!
# Typed rows

A row as read holds text only.  Casting gives every cell the type of its column.
A cell that cannot be read becomes the zero of its type, cells of undeclared
columns are left out, and so are rows in which no cell is left.

Each undeclared column is reported once for the whole table, and each cell that
cannot be read by itself.
-/

namespace PlainReport

/-- What casting reports. -/
inductive CastNotice where
  /-- A column that the schema does not declare, at its first cell. -/
  | undeclared (name : Text)
  /-- A cell that does not read as its type, with the row it stands in. -/
  | unreadable (error : CastError) (row : Row)
deriving DecidableEq

/-- The event of the notice. -/
def CastNotice.event : CastNotice → Event
  | undeclared name =>
    ⟨.warn, "Column " ++ name ++ " is not declared in the pattern and is left out"⟩
  | unreadable error row => ⟨.warn, error.message ++ " in line: " ++ Row.listing row⟩

namespace Row

/-- Casts the cells of a row.  Besides them it gives the undeclared names reported up
to here and the notices. -/
def castCells (schema : Schema) (row : Row) :
    List Text → List Cell → List Cell × List Text × List CastNotice
  | reported, [] => ([], reported, [])
  | reported, cell :: rest =>
    match schema.find? cell.name with
    | none =>
      if reported.contains cell.name then castCells schema row reported rest
      else
        let (cells, later, notices) := castCells schema row (cell.name :: reported) rest
        (cells, later, .undeclared cell.name :: notices)
    | some column =>
      let (cells, later, notices) := castCells schema row reported rest
      match column.type.cast cell.value.display with
      | .ok value => (⟨cell.name, value⟩ :: cells, later, notices)
      | .error error =>
        (⟨cell.name, column.type.zero⟩ :: cells, later, .unreadable error row :: notices)

/-- Casts the rows that follow the reports of some undeclared names. -/
def castFrom (schema : Schema) : List Text → List Row → Logged CastNotice (List Row)
  | _, [] => ⟨[], []⟩
  | reported, row :: rest =>
    let (cells, later, notices) := castCells schema row reported row.entries
    let tail := castFrom schema later rest
    ⟨if cells.isEmpty then tail.result else Keyed.ofList cells :: tail.result,
      notices ++ tail.notices⟩

/-- Casts every cell to the type of its column. -/
def castAll (schema : Schema) (rows : List Row) : Logged CastNotice (List Row) :=
  castFrom schema [] rows

end Row

end PlainReport
