import PlainReport.Row

/-!
# Sheets

A sheet is a table as text: a title line, a header line and a body.  Cells are
fitted to their columns beforehand, and then every line of the body is as long as
the header.

Cells of several lines are set beside each other.  A row is as tall as its
tallest cell, and a shorter cell goes on with blanks.
-/

namespace PlainReport

namespace Row

/-- The row with every cell as text, fitted to its column.  A cell of an unknown
column stays as wide as it is. -/
def fit (schema : Schema) (row : Row) : Row :=
  Row.mapValues (fun cell => .text <| match schema.find? cell.name with
    | some column => column.alignment.fit cell.value.display column.width
    | none => cell.value.display) row

/-- Fields between vertical borders. -/
def bordered (fields : List Text) : Text := '|' :: fields.flatMap (· ++ ['|'])

/-- A line of a cell.  Below its last line a cell is as wide as its first. -/
def lineOfCell (n : Nat) (cell : List Text) : Text :=
  cell[n]?.getD (List.replicate (cell.head?.getD []).length ' ')

/-- How many lines the tallest of some cells has.  Without cells it is one. -/
def height (cells : List (List Text)) : Nat := (cells.map List.length).max?.getD 1

/-- The lines of the row, with the cells beside each other. -/
def printed (row : Row) : Text :=
  let cells := row.entries.map fun cell => Text.lines cell.value.display
  Text.unlines ((List.range (height cells)).map fun n => bordered (cells.map (lineOfCell n)))

end Row

/-- A table as text. -/
structure Sheet where
  /-- The title in its line. -/
  title : Text
  /-- The heads of the columns. -/
  header : Text
  /-- The rows between separators. -/
  body : Text
deriving DecidableEq, Repr

namespace Sheet

/-- What the header says when there are no rows. -/
def nothingFound : Text := "Ничего не найдено. Проверьте шаблон и данные"

/-- The title in the center of a line of hyphens.  A title longer than the line stays
whole. -/
def titleLine (title : Option Text) (width : Nat) : Text :=
  Alignment.center.pad (title.getD []) width '-'

/-- A line of hyphens. -/
def separator (width : Nat) : Text := List.replicate width '-'

/-- The head of a column over a cell.  Over a cell of an unknown column its name is
fitted to the first line of the cell. -/
def head (schema : Schema) (cell : Cell) : Text :=
  match schema.find? cell.name with
  | some column => column.alignment.fitLine column.caption column.width
  | none =>
    Alignment.center.fitLine cell.name ((Text.lines cell.value.display).head?.getD []).length

/-- The heads over the cells of the first row, or the notice that there is none. -/
def headerLine (schema : Schema) (defaultWidth : Nat) : List Row → Text
  | [] => Row.bordered
      [Alignment.center.fitLine nothingFound (max defaultWidth nothingFound.length)]
  | first :: _ => Row.bordered (first.entries.map (head schema))

/-- A separator, and after every row another. -/
def bodyOf (rows : List Row) (width : Nat) : Text :=
  Text.unlines (separator width :: rows.flatMap fun row => [Row.printed row, separator width])

/-- The sheet of rows whose cells are fitted. -/
def ofRows (schema : Schema) (defaultWidth : Nat) (title : Option Text) (rows : List Row) :
    Sheet :=
  let header := headerLine schema defaultWidth rows
  ⟨titleLine title header.length, header, bodyOf rows header.length⟩

/-- The sheet as one text. -/
def text (s : Sheet) : Text := Text.unlines [s.title, s.header, s.body]

end Sheet

end PlainReport
