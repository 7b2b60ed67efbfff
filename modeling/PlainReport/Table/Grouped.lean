import PlainReport.Row

/-!
# Grouped rows

Rows that show the same values in the grouping fields form a group.  Each group
becomes one row: the values of the fields as they are in its first row, and the
aggregate of the target over all its rows.  Groups stand in the order of their
first rows.
-/

namespace PlainReport

/-- How the target of a group is summed up. -/
inductive Aggregate where
  | sum
  | average
deriving DecidableEq, Repr

namespace Aggregate

/-- The keyword of the function. -/
def keyword : Aggregate → Text
  | sum => "sum"
  | average => "avg"

/-- The function that a text names, in any case of its letters. -/
def ofKeyword? (t : Text) : Option Aggregate :=
  [sum, average].find? fun function => Text.eqIgnoringCase t function.keyword

/-- The sum of two integers, held at the ends of the range. -/
def addClamped (i j : Int64) : Int64 := clampInt64 (i.toInt + j.toInt)

/-- The integer in a value. -/
def int? : Value → Option Int64
  | .int i => some i
  | _ => none

/-- The integers among the values, added from left to right. -/
def sumOfInts (values : List Value) : Int64 := (values.filterMap int?).foldl addClamped 0

/-- The numbers among the values, added from left to right to the negative zero. -/
def sumOfFloats (values : List Value) : Binary64 :=
  (values.filterMap Value.toBinary64?).foldl Binary64.add (Binary64.zero true)

/-- A number rounded to two decimals, from the middle to the even digit. -/
def roundToHundredths (x : Binary64) : Binary64 :=
  ((x.mul (.ofInt 100)).roundEven).div (.ofInt 100)

/-- The aggregate of values of a column.  A sum of integers stays an integer, and
everything else is a binary number. -/
def apply (function : Aggregate) (values : List Value) (type : DataType) : Value :=
  match function, type with
  | sum, .int => .int (sumOfInts values)
  | sum, _ => .float (sumOfFloats values)
  | average, _ =>
    if values.isEmpty then .float (Binary64.zero false)
    else .float (roundToHundredths ((sumOfFloats values).div (.ofInt values.length)))

end Aggregate

/-- What to group by and what to sum up. -/
structure Grouping where
  /-- The grouping fields, of which some may be repeated. -/
  fields : List Text
  /-- The function. -/
  aggregate : Aggregate
  /-- The field to sum up. -/
  target : Text
deriving DecidableEq, Repr

/-- The rows of one group, as far as they matter. -/
structure Group where
  /-- The displayed values of the fields. -/
  shown : List Text
  /-- The values of the fields in the first row. -/
  key : List Value
  /-- The values of the target in all rows. -/
  targets : List Value
deriving DecidableEq

namespace Grouping

/-- The values of the fields in a row. -/
def keyOf (g : Grouping) (schema : Schema) (row : Row) : List Value :=
  g.fields.map (Row.valueOrZero row schema)

/-- Puts a row into its group. -/
def assign (g : Grouping) (schema : Schema) (groups : Keyed Group.shown) (row : Row) :
    Keyed Group.shown :=
  let key := g.keyOf schema row
  let target := Row.valueOrZero row schema g.target
  match groups.find? (key.map Value.display) with
  | some group => groups.put { group with targets := group.targets ++ [target] }
  | none => groups.put ⟨key.map Value.display, key, [target]⟩

/-- The groups of the rows. -/
def groups (g : Grouping) (schema : Schema) (rows : List Row) : Keyed Group.shown :=
  rows.foldl (g.assign schema) Keyed.empty

/-- The type of the target. -/
def targetType (g : Grouping) (schema : Schema) : DataType :=
  (schema.find? g.target).elim .float Column.type

/-- The row that stands for a group. -/
def rowOf (g : Grouping) (schema : Schema) (group : Group) : Row :=
  (Keyed.ofList (g.fields.zipWith Cell.mk group.key)).put
    ⟨g.target, g.aggregate.apply group.targets (g.targetType schema)⟩

/-- One row for each group. -/
def apply (g : Grouping) (schema : Schema) (rows : List Row) : List Row :=
  (g.groups schema rows).entries.map (g.rowOf schema)

end Grouping

end PlainReport
