import PlainReport.Text.Basic

/-!
# Notices

A step that can go on in spite of a fault gives a notice of it.  A notice is a
value of its own kind, and only its event has a text.
-/

namespace PlainReport

/-- How grave an event is. -/
inductive Level where
  | warn
  | error
deriving DecidableEq, Repr

/-- The name of the level in a log. -/
def Level.name : Level → Text
  | warn => "WARN"
  | error => "ERROR"

/-- A line of a log. -/
structure Event where
  /-- How grave it is. -/
  level : Level
  /-- What it says. -/
  message : Text
deriving DecidableEq, Repr

/-- A result with the notices given on the way to it, oldest first. -/
structure Logged (ν α : Type) where
  /-- The result. -/
  result : α
  /-- The notices, oldest first. -/
  notices : List ν

end PlainReport
