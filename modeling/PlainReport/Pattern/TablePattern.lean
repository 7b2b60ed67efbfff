import PlainReport.Pattern.ColumnDefinition
import PlainReport.Pattern.ConditionDefinition
import PlainReport.Pattern.Fields
import PlainReport.Pattern.GroupDefinition
import PlainReport.Table.Selected

/-!
# Table patterns

A table pattern is a block of fields with a title, column definitions, a group
definition and condition definitions.  Definitions are divided by semicolons, and
each is read for itself.  One that is wrong, or that speaks of a column that is
not defined, is reported and left out, and all others stay.
-/

namespace PlainReport

/-- What a table report is to show. -/
structure TablePattern where
  /-- The title. -/
  title : Option Text
  /-- The columns. -/
  schema : Schema
  /-- How rows are grouped. -/
  grouping : Option Grouping
  /-- Which rows are kept. -/
  conditions : List Condition
deriving DecidableEq

/-- What reading a table pattern reports. -/
inductive PatternNotice where
  /-- A segment that is not a field. -/
  | field (fault : FieldFault)
  /-- There is no field of columns. -/
  | noColumns
  /-- A wrong column definition. -/
  | column (fault : ColumnFault)
  /-- A wrong group definition. -/
  | group (fault : GroupFault)
  /-- A group definition that names an undefined column. -/
  | unknownGroupField (name : Text)
  /-- A group definition that sums up texts. -/
  | targetNotNumeric (function : Aggregate) (name : Text) (type : DataType)
  /-- A wrong condition definition. -/
  | condition (fault : ConditionFault)
  /-- A condition on an undefined column. -/
  | unknownConditionField (name definition : Text)
  /-- A condition whose literal is not of the type of its column. -/
  | unreadableLiteral (error : CastError) (definition : Text)
deriving DecidableEq

/-- The event of the notice. -/
def PatternNotice.event : PatternNotice → Event
  | field fault => fault.event
  | noColumns => ⟨.error, "No columns entered in pattern!"⟩
  | column fault => ⟨.warn, fault.message⟩
  | group fault => ⟨.warn, fault.message⟩
  | unknownGroupField name => ⟨.warn, "Unknown table field: " ++ name⟩
  | targetNotNumeric function name type =>
    ⟨.warn, "Can't " ++ function.keyword ++ " column " ++ name ++ " of type " ++ type.keyword⟩
  | condition fault => ⟨.warn, fault.message⟩
  | unknownConditionField name definition =>
    ⟨.warn, "Unknown table field: " ++ name ++ " in case: " ++ Text.trim definition⟩
  | unreadableLiteral error definition =>
    ⟨.warn, error.message ++ " in case: " ++ Text.trim definition⟩

namespace TablePattern

/-- The definitions in a value that are not blank. -/
def definitions (value : Text) : List Text := (Text.pieces ';' value).filter (!Text.isAllBlank ·)

/-- The columns of some definitions, put into those read before. -/
def readColumnsInto (defaultWidth : Nat) (schema : Schema) :
    List Text → Logged PatternNotice Schema
  | [] => ⟨schema, []⟩
  | definition :: rest =>
    match Column.read definition defaultWidth with
    | .ok column => readColumnsInto defaultWidth (schema.put column) rest
    | .error fault =>
      let tail := readColumnsInto defaultWidth schema rest
      ⟨tail.result, .column fault :: tail.notices⟩

/-- Reads the columns. -/
def readColumns (defaultWidth : Nat) : Option Text → Logged PatternNotice Schema
  | none => ⟨Keyed.empty, [.noColumns]⟩
  | some value => readColumnsInto defaultWidth Keyed.empty (definitions value)

/-- Checks a grouping against the columns. -/
def checkGrouping (schema : Schema) (g : Grouping) : Except PatternNotice Grouping :=
  match (g.fields ++ [g.target]).find? (!schema.contains ·) with
  | some name => .error (.unknownGroupField name)
  | none =>
    match schema.find? g.target with
    | some column =>
      if column.type.isNumeric then .ok g
      else .error (.targetNotNumeric g.aggregate column.name column.type)
    | none => .ok g

/-- Reads the grouping. -/
def readGrouping (schema : Schema) : Option Text → Logged PatternNotice (Option Grouping)
  | none => ⟨none, []⟩
  | some definition =>
    match Grouping.read definition with
    | .error fault => ⟨none, [.group fault]⟩
    | .ok g =>
      match checkGrouping schema g with
      | .error notice => ⟨none, [notice]⟩
      | .ok g => ⟨some g, []⟩

/-- Reads one condition, with its literal cast to the type of its column. -/
def readCondition (schema : Schema) (definition : Text) : Except PatternNotice Condition :=
  match WrittenCondition.read definition with
  | .error fault => .error (.condition fault)
  | .ok written =>
    match schema.find? written.field with
    | none => .error (.unknownConditionField written.field definition)
    | some column =>
      match column.type.cast written.literal with
      | .error error => .error (.unreadableLiteral error definition)
      | .ok value => .ok ⟨written.field, written.comparison, value⟩

/-- Reads the conditions of some definitions. -/
def readConditions (schema : Schema) : List Text → Logged PatternNotice (List Condition)
  | [] => ⟨[], []⟩
  | definition :: rest =>
    let tail := readConditions schema rest
    match readCondition schema definition with
    | .ok condition => ⟨condition :: tail.result, tail.notices⟩
    | .error notice => ⟨tail.result, notice :: tail.notices⟩

/-- The pattern in some fields. -/
def ofFields (defaultWidth : Nat) (fields : Fields) : Logged PatternNotice TablePattern :=
  let columns := readColumns defaultWidth (Fields.value? fields "TABLE COLUMNS")
  let grouping := readGrouping columns.result (Fields.value? fields "GROUP")
  let conditions := readConditions columns.result
    (((Fields.value? fields "FILTER").map definitions).getD [])
  ⟨⟨(Fields.value? fields "TABLE NAME").map Text.trim, columns.result, grouping.result,
      conditions.result⟩,
    columns.notices ++ grouping.notices ++ conditions.notices⟩

/-- Reads a table pattern. -/
def ofText (defaultWidth : Nat) (t : Text) : Logged PatternNotice TablePattern :=
  let fields := Fields.ofText .definition t
  let pattern := ofFields defaultWidth fields.result
  ⟨pattern.result, fields.notices.map .field ++ pattern.notices⟩

end TablePattern

end PlainReport
