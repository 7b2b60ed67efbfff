import PlainReport.Text.Basic

/-!
# Keywords

Small closed choices are written as keywords.  Some keywords are read in any
case of their ASCII letters, others exactly.
-/

namespace PlainReport

/-- A text that is no keyword of its kind. -/
structure UnknownKeyword where
  /-- The text as given. -/
  text : Text
deriving DecidableEq, Repr

namespace UnknownKeyword

/-- The message. -/
def message (_ : UnknownKeyword) : Text := "Matching variant not found"

end UnknownKeyword

/-- Equality of texts up to the case of ASCII letters. -/
def Text.eqIgnoringCase (t u : Text) : Bool := t.map Char.toLower == u.map Char.toLower

end PlainReport
