import PlainReport.Text.Alphanumeric
import PlainReport.Text.Blank

/-!
# Cursors

A cursor is a place in a text: what is still to be read, and how many bytes lie
before it.  Every step takes characters from the front of the rest and moves the
position by their bytes, so a position always falls between two characters.
-/

namespace PlainReport.Text

/-- A character of a name: a word character, a blank, a hyphen or a comma. -/
def isNameChar (c : Char) : Bool := isWordChar c || isBlank c || c == '-' || c == ','

/-- A place in a text. -/
structure Cursor where
  /-- The text from here on. -/
  rest : Text
  /-- The bytes before this place. -/
  position : Nat
deriving DecidableEq, Repr

namespace Cursor

/-- The start of a text. -/
def ofText (t : Text) : Cursor := ⟨t, 0⟩

/-- The next character. -/
def peek? (c : Cursor) : Option Char := c.rest.head?

/-- The character after the next. -/
def peekSecond? (c : Cursor) : Option Char := c.rest.tail.head?

/-- Takes the longest run of characters in a class. -/
def takeWhile (p : Char → Bool) (c : Cursor) : Text × Cursor :=
  let taken := c.rest.takeWhile p
  (taken, ⟨c.rest.dropWhile p, c.position + byteSize taken⟩)

/-- Takes all that is left. -/
def takeRest (c : Cursor) : Text × Cursor := (c.rest, ⟨[], c.position + byteSize c.rest⟩)

/-- Steps over blanks. -/
def skipBlanks (c : Cursor) : Cursor := (c.takeWhile isBlank).2

/-- Steps over one given character, if it is the next. -/
def eat? (x : Char) (c : Cursor) : Option Cursor :=
  match c.rest with
  | [] => none
  | y :: rest => if y = x then some ⟨rest, c.position + y.utf8Size⟩ else none

/-- Steps over a given text, if it comes next. -/
def eatText? (t : Text) (c : Cursor) : Option Cursor :=
  if t.isPrefixOf c.rest then some ⟨c.rest.drop t.length, c.position + byteSize t⟩ else none

/-- Whether nothing is left. -/
def atEnd (c : Cursor) : Bool := c.rest.isEmpty

end Cursor

end PlainReport.Text
