import PlainReport.Letter.Filling
import PlainReport.Report.Config
import PlainReport.Table.Pipeline

/-!
# Producing reports

A report is read from one data file and written to one output file.  What it says
depends on the bytes of the data alone.

Data that is no table is reported, and the report is that of an empty table.
-/

namespace PlainReport

/-- Bytes as the text of an encoding.  The path is the one they were read from. -/
def decodeFile (encoding : Encoding) (path : Text) (bytes : Bytes) : Except ReportError Text :=
  match encoding.decode? bytes with
  | some t => .ok t
  | none => .error (.undecodable path encoding.name)

/-- The rows of a table in a file.  A fault of the table is reported and leaves no rows. -/
def rowsOrNotice (path t : Text) : Except ReportError (Logged Event (List Row)) :=
  match loadTable t with
  | .ok rows => .ok ⟨rows, []⟩
  | .error error =>
    if error.isTableFault then .ok ⟨[], [⟨.error, error.message ++ " in " ++ path⟩]⟩
    else .error error

/-- The sheet of a table in a file. -/
def tableReport (p : TablePattern) (c : Config) (path : Text) (bytes : Bytes) :
    Except ReportError (Logged Event Sheet) :=
  match decodeFile c.dataEncoding path bytes with
  | .error error => .error error
  | .ok t =>
    match rowsOrNotice path t with
    | .error error => .error error
    | .ok rows =>
      let sheet := p.sheet c.defaultWidth rows.result
      .ok ⟨sheet.result, rows.notices ++ sheet.notices.map CastNotice.event⟩

/-- The letter filled with the fields in a file. -/
def textReport (pattern : Text) (inflect : Int64 → Text → Text) (c : Config) (path : Text)
    (bytes : Bytes) : Except ReportError (Logged Event Text) :=
  match decodeFile c.dataEncoding path bytes with
  | .error error => .error error
  | .ok t =>
    let fields := Fields.ofText .assignment t
    let letter := Filling.fill ⟨fields.result, c.defaultWidth, inflect⟩ pattern
    .ok ⟨letter.result,
      fields.notices.map FieldFault.event ++ letter.notices.map FillingNotice.event⟩

namespace FileAccess

variable {m : Type → Type} [Monad m]

/-- Reads the text of a file. -/
def readText (a : FileAccess m) (encoding : Encoding) (path : Text) :
    m (Except ReportError Text) := do
  match ← a.read path with
  | .error fault => return .error (.file path fault)
  | .ok bytes => return decodeFile encoding path bytes

/-- Writes a text to a file in UTF-8. -/
def writeText (a : FileAccess m) (path t : Text) : m (Except ReportError Unit) := do
  match ← a.write path (encodeUtf8 t) with
  | .error fault => return .error (.file path fault)
  | .ok _ => return .ok ()

/-- Reads a data file, makes a report of its bytes and writes that to the output file.
Nothing is written unless a report was made. -/
def produce {α : Type} (a : FileAccess m) (make : Bytes → Except ReportError (Logged Event α))
    (text : α → Text) (data output : Text) : m (Logged Event (Except ReportError α)) := do
  match ← a.read data with
  | .error fault => return ⟨.error (.file data fault), []⟩
  | .ok bytes =>
    match make bytes with
    | .error error => return ⟨.error error, []⟩
    | .ok report =>
      match ← a.writeText output (text report.result) with
      | .error error => return ⟨.error error, report.notices⟩
      | .ok _ => return ⟨.ok report.result, report.notices⟩

/-- Produces the report of a table. -/
def produceTable (a : FileAccess m) (p : TablePattern) (c : Config) (data output : Text) :
    m (Logged Event (Except ReportError Sheet)) :=
  a.produce (tableReport p c data) Sheet.text data output

/-- Produces a filled letter. -/
def produceText (a : FileAccess m) (pattern : Text) (inflect : Int64 → Text → Text) (c : Config)
    (data output : Text) : m (Logged Event (Except ReportError Text)) :=
  a.produce (textReport pattern inflect c data) id data output

/-- Reads a table pattern from a file. -/
def readPattern (a : FileAccess m) (c : Config) (path : Text) :
    m (Logged Event (Except ReportError TablePattern)) := do
  match ← a.readText c.patternEncoding path with
  | .error error => return ⟨.error error, []⟩
  | .ok t =>
    let pattern := TablePattern.ofText c.defaultWidth t
    return ⟨.ok pattern.result, pattern.notices.map PatternNotice.event⟩

end FileAccess

end PlainReport
