import PlainReport.Encoding.Library
import PlainReport.Report.Files
import PlainReport.Table.Loaded

/-!
# Settings and errors of reports

The settings are the same for all reports of one run, and the encodings among them
come from a library.  An error ends a report, except that a fault of the table only
empties it.
-/

namespace PlainReport

/-- Why there is no report. -/
inductive ReportError where
  /-- A file cannot be read or written. -/
  | file (path : Text) (fault : FileFault)
  /-- No encoding has this label. -/
  | unknownEncoding (label : Text)
  /-- The bytes of a file are no text of an encoding. -/
  | undecodable (path encoding : Text)
  /-- The data is no table. -/
  | table (fault : TableFault)
deriving DecidableEq, Repr

namespace ReportError

/-- The message. -/
def message : ReportError → Text
  | file path fault => "I/O error on " ++ path ++ ": " ++ fault.message
  | unknownEncoding label => "Unknown encoding: " ++ label
  | undecodable path encoding => path ++ " is not valid " ++ encoding
  | table fault => fault.message

/-- A name of the kind of error for other programs. -/
def code : ReportError → Text
  | file _ _ => "tabula::io"
  | unknownEncoding _ => "tabula::encoding"
  | undecodable _ _ => "tabula::decode"
  | table (.missingValue _) => "tabula::table::missing_value"
  | table (.missingColumnName _) => "tabula::table::missing_column_name"
  | table (.duplicateColumn _) => "tabula::table::duplicate_column"

/-- What the user may do. -/
def help? : ReportError → Option Text
  | file _ _ => some "check that the file exists and is readable"
  | unknownEncoding _ => some "use a WHATWG label such as utf-8 or cp1251"
  | _ => none

/-- Whether the error only concerns the table. -/
def isTableFault : ReportError → Bool
  | table (.missingValue _) | table (.missingColumnName _) | table (.duplicateColumn _) => true
  | _ => false

end ReportError

/-- Loads the rows of a table.  Its faults are errors of the report. -/
def loadTable (t : Text) : Except ReportError (List Row) :=
  (Table.load t).mapError ReportError.table

/-- The settings of a run. -/
structure Config where
  /-- The width of columns and placeholders that give none. -/
  defaultWidth : Nat
  /-- The encoding of the pattern. -/
  patternEncoding : Encoding
  /-- The encoding of the data. -/
  dataEncoding : Encoding

namespace Config

variable [EncodingLibrary]

/-- The settings if nothing is asked for. -/
def standard : Config := ⟨20, EncodingLibrary.utf8, EncodingLibrary.utf8⟩

/-- The encoding of a label, which may have blanks around it. -/
def encodingOf (label : Text) : Except ReportError Encoding :=
  match EncodingLibrary.ofLabel? (Text.trim label) with
  | some encoding => .ok encoding
  | none => .error (.unknownEncoding label)

/-- The settings with the encoding of the pattern changed. -/
def withPatternEncoding (c : Config) (label : Text) : Except ReportError Config :=
  (encodingOf label).map fun encoding => { c with patternEncoding := encoding }

/-- The settings with the encoding of the data changed. -/
def withDataEncoding (c : Config) (label : Text) : Except ReportError Config :=
  (encodingOf label).map fun encoding => { c with dataEncoding := encoding }

end Config

end PlainReport
