import PlainReport.Keyword
import PlainReport.Number.FloatText
import PlainReport.Text.Quoted

/-!
# Values and their types

A cell holds an integer, a binary number or text.  A value is displayed as text,
and a text is cast to a value of a given type.

Integers and binary numbers are ordered together by size and texts by code
points.  A text and a number are not comparable.
-/

namespace PlainReport

/-- The types a column can have. -/
inductive DataType where
  | int
  | float
  | text
deriving DecidableEq, Repr

/-- A value of a cell. -/
inductive Value where
  | int (i : Int64)
  | float (x : Binary64)
  | text (t : Text)
deriving DecidableEq

/-- A text that does not read as a value of a type. -/
structure CastError where
  /-- The text as given. -/
  raw : Text
  /-- The type asked for. -/
  type : DataType
deriving DecidableEq, Repr

namespace DataType

/-- The keyword of the type. -/
def keyword : DataType → Text
  | int => "int"
  | float => "float"
  | text => "str"

/-- The type that a text names, in any case of its letters. -/
def ofKeyword? (t : Text) : Option DataType :=
  [int, float, text].find? fun type => Text.eqIgnoringCase t type.keyword

/-- Whether the values of the type are numbers. -/
def isNumeric : DataType → Bool
  | int | float => true
  | text => false

/-- The value that stands for a missing or unreadable one. -/
def zero : DataType → Value
  | int => .int 0
  | float => .float (Binary64.zero false)
  | text => .text []

/-- Reads a text as a value of the type.  Blanks around a number do not count, and
text is taken as it is. -/
def cast (type : DataType) (raw : Text) : Except CastError Value :=
  match type with
  | int => ((readInt64? (Text.trim raw)).map Value.int).elim (.error ⟨raw, type⟩) .ok
  | float => ((readBinary64? (Text.trim raw)).map Value.float).elim (.error ⟨raw, type⟩) .ok
  | text => .ok (.text raw)

end DataType

/-- The message. -/
def CastError.message (e : CastError) : Text :=
  "It is not possible to convert \"" ++ e.raw ++ "\" to type \"" ++ e.type.keyword ++ "\""

namespace Value

/-- The type of the value. -/
def type : Value → DataType
  | int _ => .int
  | float _ => .float
  | text _ => .text

/-- The value as it stands in a report. -/
def display : Value → Text
  | int i => writeInt64 i
  | float x => FloatStyle.report.write x
  | text t => t

/-- The value as it stands in the listing of a row, marked with its kind. -/
def listing : Value → Text
  | int i => "Int64(" ++ writeInt64 i ++ ")"
  | float x => "Float64(" ++ FloatStyle.listing.write x ++ ")"
  | text t => "Text(" ++ Text.quoted t ++ ")"

/-- The value as a binary number, unless it is text. -/
def toBinary64? : Value → Option Binary64
  | int i => some (.ofInt i.toInt)
  | float x => some x
  | text _ => none

/-- The order of texts by code points. -/
def compareText : Text → Text → Ordering
  | [], [] => .eq
  | [], _ :: _ => .lt
  | _ :: _, [] => .gt
  | c :: t, d :: u =>
    if c.toNat < d.toNat then .lt else if d.toNat < c.toNat then .gt else compareText t u

/-- The order of two values, if they are comparable.  Two integers are compared
exactly, and an integer with a binary number by the nearest binary number. -/
def compare? : Value → Value → Option Ordering
  | int i, int j => some (compare i.toInt j.toInt)
  | text t, text u => some (compareText t u)
  | v, w => do (← v.toBinary64?).compare? (← w.toBinary64?)

end Value

/-- The comparisons a condition can ask for. -/
inductive Comparison where
  | equal
  | notEqual
  | greater
  | less
  | greaterOrEqual
  | lessOrEqual
deriving DecidableEq, Repr

namespace Comparison

/-- The sign of the comparison. -/
def keyword : Comparison → Text
  | equal => "="
  | notEqual => "!="
  | greater => ">"
  | less => "<"
  | greaterOrEqual => ">="
  | lessOrEqual => "<="

/-- All comparisons. -/
def all : List Comparison := [equal, notEqual, greater, less, greaterOrEqual, lessOrEqual]

/-- The comparison that a text names. -/
def ofKeyword? (t : Text) : Option Comparison := all.find? (·.keyword = t)

/-- Whether the comparison holds for an order of two values.  Values that are not
comparable are not equal, and nothing else holds of them. -/
def holds : Comparison → Option Ordering → Bool
  | notEqual, order => order != some .eq
  | _, none => false
  | equal, some order => order == .eq
  | greater, some order => order == .gt
  | less, some order => order == .lt
  | greaterOrEqual, some order => order != .lt
  | lessOrEqual, some order => order != .gt

end Comparison

end PlainReport
