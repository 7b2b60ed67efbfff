import PlainReport.Pattern.Layout
import PlainReport.Text.Capital

/-!
# Placeholders

A placeholder stands between double braces and holds a name and, after a bar, the
layout of the value that takes its place.
-/

namespace PlainReport

/-- A place for a value. -/
structure Placeholder where
  /-- The name of the value in capitals. -/
  name : Text
  /-- The width, if it is given. -/
  width : Option Nat
  /-- Where the value stands in its field. -/
  alignment : Alignment
  /-- The unit, or nothing. -/
  unit : Text
deriving DecidableEq, Repr

/-- Why a text is not the inside of a placeholder. -/
inductive PlaceholderFault where
  /-- It does not begin with a name. -/
  | noName (inner : Text)
  /-- Something other than a bar follows the name. -/
  | noBar (name : Text)
  /-- The layout is wrong. -/
  | layout (fault : LayoutFault)
  /-- Something is left after the layout. -/
  | leftover (rest : Text) (position : Nat) (name : Text)
deriving DecidableEq, Repr

/-- The message. -/
def PlaceholderFault.message : PlaceholderFault → Text
  | noName inner => "Placeholder without a name: \x7b\x7b" ++ inner ++ "\x7d\x7d"
  | noBar name => "Expected \"|\" after " ++ name
  | layout fault => fault.message
  | leftover rest position name =>
    "Unexpected \"" ++ rest ++ "\" at position " ++ decimal position ++ " in placeholder " ++ name

namespace Placeholder

/-- Reads the layout that follows the bar. -/
def readLayout (name : Text) (c : Text.Cursor) : Except PlaceholderFault Placeholder :=
  match Layout.read .phrase c with
  | .error fault => .error (.layout fault)
  | .ok (layout, c) =>
    if c.atEnd then
      .ok ⟨Text.toUpper name, layout.width, layout.alignment.getD .center, layout.unit⟩
    else .error (.leftover c.rest c.position name)

/-- Reads the inside of a placeholder.  Without a layout it is centered and has no
width and no unit. -/
def read (inner : Text) : Except PlaceholderFault Placeholder :=
  let (run, c) := (Text.Cursor.ofText inner).takeWhile Text.isNameChar
  let name := Text.trim run
  if name.isEmpty then .error (.noName inner)
  else if c.atEnd then .ok ⟨Text.toUpper name, none, .center, []⟩
  else match c.eat? '|' with
    | none => .error (.noBar name)
    | some c => readLayout name c

end Placeholder

end PlainReport
