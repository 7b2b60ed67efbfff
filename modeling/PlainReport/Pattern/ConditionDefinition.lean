import PlainReport.Text.Capital
import PlainReport.Text.Cursor
import PlainReport.Value

/-!
# Condition definitions

A condition is defined as a field name, a comparison and a literal.  The literal
begins with a word character and may have blanks, hyphens and points in it.  It
stays text until the type of the field is known.
-/

namespace PlainReport

/-- A condition as written. -/
structure WrittenCondition where
  /-- The field in capitals. -/
  field : Text
  /-- The comparison. -/
  comparison : Comparison
  /-- The literal. -/
  literal : Text
deriving DecidableEq, Repr

/-- Why a text does not define a condition. -/
inductive ConditionFault where
  /-- It does not begin with a name. -/
  | noField (definition : Text)
  /-- No comparison has this sign. -/
  | unknownComparison (sign definition : Text)
  /-- No literal begins after the sign. -/
  | noValue (definition : Text)
  /-- Something is left after the literal. -/
  | leftover (rest : Text) (position : Nat) (definition : Text)
deriving DecidableEq, Repr

/-- The message. -/
def ConditionFault.message : ConditionFault → Text
  | noField definition => "No field name in case: " ++ definition
  | unknownComparison sign definition =>
    "Unknown operation: \"" ++ sign ++ "\" in case: " ++ definition
  | noValue definition => "No value in case: " ++ definition
  | leftover rest position definition =>
    "Unexpected \"" ++ rest ++ "\" at position " ++ decimal position ++ " in case: " ++ definition

namespace WrittenCondition

/-- A character of the sign of a comparison. -/
def isSignChar (c : Char) : Bool := c == '=' || c == '<' || c == '>' || c == '!'

/-- A character of a literal. -/
def isLiteralChar (c : Char) : Bool := Text.isWordChar c || Text.isBlank c || c == '-' || c == '.'

/-- Reads the literal that follows the sign. -/
def readLiteral (definition : Text) (c : Text.Cursor) : Except ConditionFault Text :=
  let c := c.skipBlanks
  if c.peek?.any Text.isWordChar then
    let (run, c) := c.takeWhile isLiteralChar
    if c.atEnd then .ok (Text.trimEnd run)
    else .error (.leftover c.rest c.position definition)
  else .error (.noValue definition)

/-- Reads a condition definition. -/
def read (definition : Text) : Except ConditionFault WrittenCondition :=
  let (run, c) := (Text.Cursor.ofText (Text.trim definition)).takeWhile Text.isNameChar
  let field := Text.trim run
  if field.isEmpty then .error (.noField definition)
  else
    let (sign, c) := c.takeWhile isSignChar
    match Comparison.ofKeyword? sign with
    | none => .error (.unknownComparison sign definition)
    | some comparison =>
      (readLiteral definition c).map fun literal => ⟨Text.toUpper field, comparison, literal⟩

end WrittenCondition

end PlainReport
