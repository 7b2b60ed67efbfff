import PlainReport.Keyed
import PlainReport.Notice
import PlainReport.Text.Capital
import PlainReport.Text.Cursor

/-!
# Fields

A block of fields is a text of segments between number signs, each with a name
and a value.  Names are read in capitals.  A name that comes again keeps its
place and takes the new value.  A segment that is not a field is reported and
left out, and a blank one does not count.
-/

namespace PlainReport

/-- A named text. -/
structure Field where
  /-- The name in capitals. -/
  name : Text
  /-- The value. -/
  value : Text
deriving DecidableEq, Repr

/-- Fields with distinct names. -/
abbrev Fields := Keyed Field.name

/-- How a block writes its fields. -/
inductive FieldSyntax where
  /-- As `name = value`, where a value is made of the characters of names. -/
  | assignment
  /-- As `name: value`, where the value is all that follows. -/
  | definition
deriving DecidableEq, Repr

/-- Why a segment is not a field. -/
inductive FieldFault where
  /-- It does not begin with a name and the separator. -/
  | malformed (segment : Text)
  /-- There is no value after the separator. -/
  | noValue (name : Text)
deriving DecidableEq, Repr

namespace FieldFault

/-- The event of the fault. -/
def event : FieldFault → Event
  | malformed segment =>
    ⟨.warn, "Line is not in right condition: \"" ++ Text.trim segment ++ "\". Can't extract data"⟩
  | noValue name => ⟨.warn, "No value for field \"" ++ name ++ "\". Can't extract data"⟩

end FieldFault

namespace FieldSyntax

/-- The character between name and value. -/
def separator : FieldSyntax → Char
  | assignment => '='
  | definition => ':'

end FieldSyntax

namespace Field

/-- The value at a place after the separator.  An assignment reads a value of the
characters of names and passes over what follows it. -/
def readValue? (form : FieldSyntax) (c : Text.Cursor) : Option Text :=
  match form with
  | .assignment =>
    let value := Text.trim (c.skipBlanks.takeWhile Text.isNameChar).1
    if value.isEmpty then none else some value
  | .definition => some (Text.trim c.takeRest.1)

/-- Reads one segment. -/
def read (form : FieldSyntax) (segment : Text) : Except FieldFault Field :=
  let (run, c) := (Text.Cursor.ofText segment).takeWhile Text.isNameChar
  let name := Text.trim run
  if name.isEmpty then .error (.malformed segment)
  else match c.eat? form.separator with
    | none => .error (.malformed segment)
    | some c =>
      match readValue? form c with
      | none => .error (.noValue name)
      | some value => .ok ⟨Text.toUpper name, value⟩

end Field

namespace Fields

/-- The segments of a block that are not blank. -/
def segments (t : Text) : List Text := (Text.pieces '#' t).filter (!Text.isAllBlank ·)

/-- The fields of some segments, put into those read before. -/
def readInto (form : FieldSyntax) (fields : Fields) : List Text → Logged FieldFault Fields
  | [] => ⟨fields, []⟩
  | segment :: rest =>
    match Field.read form segment with
    | .ok field => readInto form (fields.put field) rest
    | .error fault =>
      let tail := readInto form fields rest
      ⟨tail.result, fault :: tail.notices⟩

/-- Reads a block of fields. -/
def ofText (form : FieldSyntax) (t : Text) : Logged FieldFault Fields :=
  readInto form Keyed.empty (segments t)

/-- The value of a field. -/
def value? (fields : Fields) (name : Text) : Option Text := (fields.find? name).map Field.value

end Fields

end PlainReport
