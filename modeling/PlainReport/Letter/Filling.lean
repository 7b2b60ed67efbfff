import PlainReport.Letter.Piece
import PlainReport.Letter.Placeholder
import PlainReport.Notice
import PlainReport.Pattern.Fields

/-!
# Filling a letter

Every placeholder is replaced by the value of its name, fitted to its layout.  A
placeholder after two exclamation marks stays as it is written, without the
marks.  One that cannot be read or that has no value stays as well and is
reported.

The number signs of a pattern divide it into pieces and are not printed.
-/

namespace PlainReport

/-- What filling a letter reports. -/
inductive FillingNotice where
  /-- A placeholder that cannot be read. -/
  | placeholder (fault : PlaceholderFault)
  /-- A placeholder without a value. -/
  | noValue (name : Text)
deriving DecidableEq, Repr

/-- The event of the notice. -/
def FillingNotice.event : FillingNotice → Event
  | placeholder fault => ⟨.warn, fault.message⟩
  | noValue name => ⟨.warn, "No value for name: " ++ name⟩

/-- What a letter is filled with. -/
structure Filling where
  /-- The values by name. -/
  fields : Fields
  /-- The width of a placeholder that gives none. -/
  defaultWidth : Nat
  /-- The form of a word after a number. -/
  inflect : Int64 → Text → Text

namespace Filling

/-- A word stays the same after every number. -/
def uninflected (_ : Int64) (word : Text) : Text := word

/-- The number that a value of digits only stands for. -/
def count? (value : Text) : Option Int64 :=
  if !value.isEmpty && value.all Char.isDigit then readInt64? value else none

/-- The unit after a value, inflected if the value is a number. -/
def unitAfter (f : Filling) (value unit : Text) : Text :=
  if unit.isEmpty then [] else ((count? value).map (f.inflect · unit)).getD unit

/-- The value with its unit in its field. -/
def place (f : Filling) (p : Placeholder) (value : Text) : Text :=
  let unit := f.unitAfter value p.unit
  p.alignment.fit (if unit.isEmpty then value else value ++ " " ++ unit)
    (p.width.getD f.defaultWidth)

/-- What is printed for a placeholder, or why it stays as it is written. -/
def replacement (f : Filling) (inner : Text) : Except FillingNotice Text :=
  match Placeholder.read inner with
  | .error fault => .error (.placeholder fault)
  | .ok p =>
    match Fields.value? f.fields p.name with
    | none => .error (.noValue p.name)
    | some value => .ok (f.place p value)

/-- Fills a placeholder and prints the text before it. -/
def fillSpan (f : Filling) (s : Span) : Logged FillingNotice Text :=
  match Text.dropEnding? "!!" s.before with
  | some before => ⟨before ++ s.literal, []⟩
  | none =>
    match f.replacement s.inner with
    | .ok t => ⟨s.before ++ t, []⟩
    | .error notice => ⟨s.before ++ s.literal, [notice]⟩

/-- Fills the placeholders of a piece. -/
def fillPiece (f : Filling) (p : Piece) : Logged FillingNotice Text :=
  let filled := p.spans.map f.fillSpan
  ⟨filled.flatMap (·.result) ++ p.tail, filled.flatMap (·.notices)⟩

/-- Fills a letter. -/
def fill (f : Filling) (pattern : Text) : Logged FillingNotice Text :=
  let filled := (Text.pieces '#' pattern).map fun piece => f.fillPiece (Piece.ofText piece)
  ⟨filled.flatMap (·.result), filled.flatMap (·.notices)⟩

end Filling

end PlainReport
