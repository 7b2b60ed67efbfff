import PlainReport.Row

/-!
# Selected rows

Conditions are applied one after the other, each to the rows that the ones before
it left.  A condition on a field that the first of these rows lacks is passed
over, as after a grouping that removed the field.
-/

namespace PlainReport

/-- A field compared with a value. -/
structure Condition where
  /-- The field. -/
  field : Text
  /-- The comparison. -/
  comparison : Comparison
  /-- The value to compare with. -/
  value : Value
deriving DecidableEq

namespace Condition

/-- Whether a row has the field and satisfies the condition. -/
def holds (c : Condition) (row : Row) : Bool :=
  (Row.value? row c.field).any fun value => c.comparison.holds (value.compare? c.value)

/-- The rows that are left after all conditions. -/
def select : List Condition → List Row → List Row
  | [], rows => rows
  | _ :: _, [] => []
  | c :: rest, first :: rows =>
    select rest (if first.contains c.field then (first :: rows).filter c.holds else first :: rows)

end Condition

end PlainReport
