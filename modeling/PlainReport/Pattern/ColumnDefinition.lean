import PlainReport.Column
import PlainReport.Pattern.Layout
import PlainReport.Text.Capital

/-!
# Column definitions

A column is defined as `NAME|TYPE-WIDTH-ALIGNMENT-UNIT`, and all after the type
may be left out.
-/

namespace PlainReport

/-- Why a text does not define a column. -/
inductive ColumnFault where
  /-- It does not begin with a name and a bar. -/
  | malformed (definition : Text)
  /-- There is no such type. -/
  | unknownType (word name : Text)
  /-- The layout is wrong. -/
  | layout (fault : LayoutFault)
  /-- Something is left after the layout. -/
  | leftover (rest : Text) (position : Nat) (name : Text)
deriving DecidableEq, Repr

/-- The message. -/
def ColumnFault.message : ColumnFault → Text
  | malformed definition =>
    "Not valid column: \"" ++ definition ++ "\". Check it for correctness"
  | unknownType word name =>
    "Unknown column type \"" ++ word ++ "\" in column \"" ++ name ++ "\""
  | layout fault => fault.message
  | leftover rest position name =>
    "Unexpected \"" ++ rest ++ "\" at position " ++ decimal position ++ " in column \"" ++ name ++
      "\""

namespace Column

/-- Reads the type and the layout that follow the bar. -/
def readFormat (name : Text) (defaultWidth : Nat) (c : Text.Cursor) :
    Except ColumnFault Column :=
  let (word, c) := c.skipBlanks.takeWhile Text.isWordChar
  match DataType.ofKeyword? word with
  | none => .error (.unknownType word name)
  | some type =>
    match Layout.read .word c with
    | .error fault => .error (.layout fault)
    | .ok (layout, c) =>
      if c.atEnd then
        .ok ⟨Text.toUpper name, type, layout.width.getD defaultWidth,
          layout.alignment.getD .center, layout.unit⟩
      else .error (.leftover c.rest c.position name)

/-- Reads a column definition.  A column without a width gets the default one, and one
without an alignment is centered. -/
def read (definition : Text) (defaultWidth : Nat) : Except ColumnFault Column :=
  let (run, c) := (Text.Cursor.ofText (Text.trim definition)).takeWhile Text.isNameChar
  let name := Text.trim run
  if name.isEmpty then .error (.malformed definition)
  else match c.eat? '|' with
    | none => .error (.malformed definition)
    | some c => readFormat name defaultWidth c

end Column

end PlainReport
