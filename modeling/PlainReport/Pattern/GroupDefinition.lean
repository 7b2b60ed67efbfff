import PlainReport.Table.Grouped
import PlainReport.Text.Capital
import PlainReport.Text.Cursor
import PlainReport.Text.Find

/-!
# Group definitions

A grouping is defined as `fields|F; G; ... data|FUNCTION; TARGET`.  The last
`data|` of the text divides it, so a field may have that word in its name.
-/

namespace PlainReport

/-- Why a text does not define a grouping. -/
inductive GroupFault where
  /-- It does not begin with `fields|`. -/
  | noFieldsPart (definition : Text)
  /-- There is no `data|` in it. -/
  | noDataPart (definition : Text)
  /-- The fields have a character that no field may have. -/
  | invalidFields (fields : Text)
  /-- All fields are blank. -/
  | noFields (definition : Text)
  /-- There is no such function. -/
  | unknownFunction (word : Text)
  /-- No semicolon follows the function. -/
  | noSemicolon (word definition : Text)
  /-- The target is blank or has a character that no name may have. -/
  | invalidTarget (definition : Text)
deriving DecidableEq, Repr

/-- The message. -/
def GroupFault.message : GroupFault → Text
  | noFieldsPart definition => "Group must start with \"fields|\": " ++ definition
  | noDataPart definition => "Group has no \"data|\" part: " ++ definition
  | invalidFields fields => "Not valid grouping fields: \"" ++ Text.trim fields ++ "\""
  | noFields definition => "No fields to group by: " ++ definition
  | unknownFunction word => "Unknown aggregation function: " ++ word
  | noSemicolon word definition =>
    "Expected \";\" after \"" ++ word ++ "\" in group: " ++ definition
  | invalidTarget definition => "Not valid aggregation column in group: " ++ definition

namespace Grouping

/-- A character between the fields or in one. -/
def isFieldsChar (c : Char) : Bool := Text.isWordChar c || c == ';' || Text.isBlank c

/-- The fields of the first part, in capitals. -/
def fieldsOf (part : Text) : List Text :=
  (((Text.pieces ';' part).map Text.trim).filter (!·.isEmpty)).map Text.toUpper

/-- Reads the function and the target of the second part. -/
def readData (definition : Text) (fields : List Text) (part : Text) :
    Except GroupFault Grouping :=
  let (word, c) := (Text.Cursor.ofText part).takeWhile Text.isWordChar
  match Aggregate.ofKeyword? word with
  | none => .error (.unknownFunction word)
  | some function =>
    match c.skipBlanks.eat? ';' with
    | none => .error (.noSemicolon word definition)
    | some c =>
      let (run, c) := c.takeWhile Text.isNameChar
      let target := Text.trim run
      if target.isEmpty || !c.atEnd then .error (.invalidTarget definition)
      else .ok ⟨fields, function, Text.toUpper target⟩

/-- Reads a group definition. -/
def read (definition : Text) : Except GroupFault Grouping :=
  match (Text.Cursor.ofText (Text.trim definition)).eatText? "fields|" with
  | none => .error (.noFieldsPart definition)
  | some c =>
    match Text.cutLast? "data|" c.rest with
    | none => .error (.noDataPart definition)
    | some (part, data) =>
      if !part.all isFieldsChar then .error (.invalidFields part)
      else if (fieldsOf part).isEmpty then .error (.noFields definition)
      else readData definition (fieldsOf part) data

end Grouping

end PlainReport
