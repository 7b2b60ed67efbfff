import PlainReport.Number.Integer
import PlainReport.Text.Alignment
import PlainReport.Text.Cursor

/-!
# Layouts

A layout says how wide a field is, where its text stands and which unit it has.
The three parts follow each other in this order, hyphens may stand before each,
and any of them may be left out.
-/

namespace PlainReport

/-- The parts of a layout that are given. -/
structure Layout where
  /-- The width in characters. -/
  width : Option Nat
  /-- The alignment. -/
  alignment : Option Alignment
  /-- The unit, or nothing. -/
  unit : Text
deriving DecidableEq, Repr

/-- Which characters a unit may have. -/
inductive UnitSyntax where
  /-- A single word. -/
  | word
  /-- The characters of names, with no blanks at the end. -/
  | phrase
deriving DecidableEq, Repr

/-- What can be wrong in a layout. -/
inductive LayoutFault where
  /-- The width does not fit into 64 bits. -/
  | widthTooLarge (digits : Text)
  /-- The width is zero. -/
  | widthZero
deriving DecidableEq, Repr

/-- The message. -/
def LayoutFault.message : LayoutFault → Text
  | widthTooLarge digits => "Width " ++ digits ++ " is too large"
  | widthZero => "Width must be positive"

namespace Layout

/-- Steps over a hyphen and the blanks around it. -/
def skipHyphen (c : Text.Cursor) : Text.Cursor :=
  let c := c.skipBlanks
  ((c.eat? '-').getD c).skipBlanks

/-- Reads a width, if digits come next. -/
def readWidth (c : Text.Cursor) : Except LayoutFault (Option Nat × Text.Cursor) :=
  let (digits, rest) := c.takeWhile Char.isDigit
  match readDecimal? digits with
  | none => .ok (none, rest)
  | some width =>
    if wordLimit ≤ width then .error (.widthTooLarge digits)
    else if width = 0 then .error .widthZero
    else .ok (some width, rest)

/-- Reads an alignment, if its letter comes next and no word goes on after it. -/
def readAlignment (c : Text.Cursor) : Option Alignment × Text.Cursor :=
  if c.peekSecond?.any Text.isWordChar then (none, c)
  else match c.peek? with
    | none => (none, c)
    | some x =>
      match Alignment.ofLetter? x with
      | none => (none, c)
      | some alignment => (some alignment, (c.eat? x).getD c)

/-- Reads a unit, if a word comes next. -/
def readUnit (form : UnitSyntax) (c : Text.Cursor) : Text × Text.Cursor :=
  if c.peek?.any Text.isWordChar then
    match form with
    | .word => c.takeWhile Text.isWordChar
    | .phrase =>
      let (run, rest) := c.takeWhile Text.isNameChar
      (Text.trimEnd run, rest)
  else ([], c)

/-- Reads a layout and the blanks after it. -/
def read (form : UnitSyntax) (c : Text.Cursor) : Except LayoutFault (Layout × Text.Cursor) :=
  match readWidth (skipHyphen c) with
  | .error fault => .error fault
  | .ok (width, c) =>
    let (alignment, c) := readAlignment (skipHyphen c)
    let (unit, c) := readUnit form (skipHyphen c)
    .ok (⟨width, alignment, unit⟩, c.skipBlanks)

end Layout

end PlainReport
