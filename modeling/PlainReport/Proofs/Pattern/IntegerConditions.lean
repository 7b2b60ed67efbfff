import PlainReport.Proofs.Number.Blankless
import PlainReport.Proofs.Pattern.Blocks
import PlainReport.Proofs.Pattern.ConditionText

/-!
# Conditions on integers

An integer has a decimal form, and as a literal this form is cast to the integer again.
But a literal begins with a word character, and a hyphen is none.  So a clause that
compares a column of integers with a number gives that condition for each number from
zero on, and no condition for a negative one (`TablePattern.ofText_integer_condition`).
-/

namespace PlainReport

open Text

/-! ## The decimal form of an integer -/

theorem writeInt64_of_nonneg {v : Int64} (h : 0 ≤ v) : writeInt64 v = decimal v.toInt.natAbs := by
  have hv : ¬v.toInt < 0 := by
    rw [Int64.le_iff_toInt_le] at h
    exact Int.not_lt.2 h
  rw [writeInt64, writeInteger, if_neg hv]

theorem writeInt64_of_neg {v : Int64} (h : v < 0) :
    writeInt64 v = '-' :: decimal v.toInt.natAbs := by
  have hv : v.toInt < 0 := by
    rw [Int64.lt_iff_toInt_lt] at h
    exact h
  rw [writeInt64, writeInteger, if_pos hv]

/-- Nothing in the decimal form divides definitions. -/
theorem not_mem_writeInt64 (v : Int64) {x : Char} (hx : x ∈ dividers) : x ∉ writeInt64 v := by
  intro hmem
  rcases mem_writeInteger hmem with rfl | hdigit
  · exact absurd hx (by decide)
  · have hword := isWordChar_of_isDigit hdigit
    rw [isWordChar_of_mem_dividers hx] at hword
    cases hword

theorem beginsSolid_writeInt64 (v : Int64) : BeginsSolid (writeInt64 v) :=
  beginsSolid_of_forall (writeInteger_ne_nil v.toInt) (blankless_writeInteger v.toInt)

theorem endsSolid_writeInt64 (v : Int64) : EndsSolid (writeInt64 v) :=
  endsSolid_of_forall (writeInteger_ne_nil v.toInt) (blankless_writeInteger v.toInt)

/-- From zero on, the decimal form is a literal of its integer. -/
theorem Condition.spelled_writeInt64 {schema : Schema} {name : Text} {column : Column}
    (hcolumn : schema.find? name = some column) (htype : column.type = .int)
    (comparison : Comparison) {v : Int64} (h : 0 ≤ v) :
    Spelled schema ⟨name, comparison, .int v⟩ (writeInt64 v) where
  cast := ⟨column, hcolumn, htype ▸ DataType.cast_writeInt64 v⟩
  begins := by
    obtain ⟨c, rest, hdecimal⟩ := List.exists_cons_of_ne_nil (decimal_ne_nil v.toInt.natAbs)
    have hdigit : c.isDigit = true :=
      isDigit_of_mem_decimal (n := v.toInt.natAbs) (hdecimal ▸ List.mem_cons_self)
    rw [writeInt64_of_nonneg h, hdecimal]
    exact isWordChar_of_isDigit hdigit
  chars := by
    intro x hx
    rw [writeInt64_of_nonneg h] at hx
    simp [WrittenCondition.isLiteralChar, isWordChar_of_isDigit (isDigit_of_mem_decimal hx)]
  ends := endsSolid_writeInt64 v

/-! ## One definition -/

namespace TablePattern

/-- The definition that compares a column with an integer. -/
def comparing (name : Text) (comparison : Comparison) (v : Int64) : Text :=
  name ++ ' ' :: (comparison.keyword ++ ' ' :: writeInt64 v)

section

variable {schema : Schema} {name : Text} {column : Column} (hname : name.IsLabel)
  (comparison : Comparison)

include hname

theorem isDefinition_comparing (v : Int64) : IsDefinition (comparing name comparison v) := by
  have hclear {x : Char} (hx : x ∈ dividers) (hsign : WrittenCondition.isSignChar x = false) :
      x ∉ comparing name comparison v := by
    have hkeyword : x ∉ comparison.keyword :=
      not_mem_of_class (fun _ => Comparison.isSignChar_of_mem_keyword) hsign
    simp [comparing, hname.not_mem hx, ne_space_of_mem_dividers hx, hkeyword,
      not_mem_writeInt64 v hx]
  exact {
    begins := hname.begins.append _
    ends := by
      have := (endsSolid_writeInt64 v).append_left (name ++ ' ' :: (comparison.keyword ++ [' ']))
      simpa [comparing] using this
    semicolon := hclear (by decide) (by decide)
    numberSign := hclear (by decide) (by decide) }

theorem readCondition_of_nonneg (hcolumn : schema.find? (toUpper name) = some column)
    (htype : column.type = .int) {v : Int64} (h : 0 ≤ v) :
    readCondition schema (comparing name comparison v) =
      .ok ⟨toUpper name, comparison, .int v⟩ := by
  have hspelled := Condition.spelled_writeInt64 hcolumn htype comparison h
  have hcast : column.type.cast (writeInt64 v) = .ok (.int v) := htype ▸ DataType.cast_writeInt64 v
  obtain ⟨n, hread⟩ := WrittenCondition.read_of_label hname comparison (writeInt64 v)
    (isDefinition_comparing hname comparison v).trim_eq
  rw [readCondition, hread, WrittenCondition.readLiteral_space _ hspelled]
  simp only [Except.map, hcolumn, hcast]

/-- A hyphen begins no literal. -/
theorem readCondition_of_neg (schema : Schema) {v : Int64} (h : v < 0) :
    readCondition schema (comparing name comparison v) =
      .error (.condition (.noValue (comparing name comparison v))) := by
  obtain ⟨n, hread⟩ := WrittenCondition.read_of_label hname comparison (writeInt64 v)
    (isDefinition_comparing hname comparison v).trim_eq
  have hpeek : (Cursor.mk (writeInt64 v) (n + 1)).peek?.any isWordChar = false := by
    rw [writeInt64_of_neg h]
    exact (by decide +kernel : isWordChar '-' = false)
  rw [readCondition, hread, WrittenCondition.readLiteral,
    Cursor.skipBlanks_space (beginsSolid_writeInt64 v).stops]
  simp only [hpeek]
  rfl

end

/-! ## The clause of conditions -/

/-- The text of a pattern with a clause of conditions between other clauses. -/
def withFilter (before after : List Text) (conditions : Text) : Text :=
  join ['#'] (before ++ (Field.mk "filter" conditions).text :: after)

theorem clause_filter {conditions : Text} (htrim : trim conditions = conditions)
    (hsign : '#' ∉ conditions) :
    Fields.Clause .definition (Field.mk "filter" conditions).text ⟨"FILTER", conditions⟩ := by
  have hlabel : IsLabel "filter" := by decide +kernel
  have hcapital : (Field.mk "filter" conditions).capital = ⟨"FILTER", conditions⟩ :=
    congrArg (Field.mk · conditions) (by decide +kernel : toUpper "filter" = "FILTER")
  exact hcapital ▸ Fields.clause_text ⟨hlabel, htrim, hsign⟩

/-- The last clause of conditions gives the conditions of a pattern and nothing else. -/
theorem ofText_withFilter (defaultWidth : Nat) (before : List Text) {after : List Text}
    {conditions : Text} (htrim : trim conditions = conditions) (hsign : '#' ∉ conditions)
    (hlast : Fields.value? (Fields.ofText .definition (join ['#'] after)).result "FILTER" = none) :
    let plain := ofText defaultWidth (withFilter before after [])
    let read := readConditions plain.result.schema (definitions conditions)
    ofText defaultWidth (withFilter before after conditions) =
      ⟨{ plain.result with conditions := read.result }, plain.notices ++ read.notices⟩ := by
  have hclause := clause_filter htrim hsign
  have hempty : Fields.Clause .definition (Field.mk "filter" []).text ⟨"FILTER", []⟩ :=
    clause_filter rfl List.not_mem_nil
  have hother (name : Text) (hname : name ≠ "FILTER") :
      Fields.value? (Fields.ofText .definition (withFilter before after conditions)).result name =
        Fields.value? (Fields.ofText .definition (withFilter before after [])).result name :=
    (Fields.value?_clause_of_ne hclause before after hname.symm).trans
      (Fields.value?_clause_of_ne hempty before after hname.symm).symm
  have hnotices : (Fields.ofText .definition (withFilter before after conditions)).notices =
      (Fields.ofText .definition (withFilter before after [])).notices :=
    (Fields.notices_clause hclause before after).trans
      (Fields.notices_clause hempty before after).symm
  have hfilter : Fields.value?
      (Fields.ofText .definition (withFilter before after conditions)).result "FILTER" =
        some conditions := Fields.value?_clause hclause before after hlast
  have hnone : Fields.value?
      (Fields.ofText .definition (withFilter before after [])).result "FILTER" = some [] :=
    Fields.value?_clause hempty before after hlast
  have hdefinitions : definitions [] = [] := rfl
  intro plain read
  simp only [plain, read, ofText, ofFields, hnotices, hfilter, hnone,
    hother "TABLE NAME" (by decide), hother "TABLE COLUMNS" (by decide),
    hother "GROUP" (by decide)]
  simp [hdefinitions, readConditions]

/-- A column of integers is compared with each number from zero on in a clause of its own,
without a notice.  A negative number makes no condition and is reported as no value. -/
theorem ofText_integer_condition (defaultWidth : Nat) (before after : List Text) (name : Text)
    (comparison : Comparison) (v : Int64) (column : Column) (hname : name.IsLabel)
    (hlast : Fields.value? (Fields.ofText .definition (join ['#'] after)).result "FILTER" = none)
    (hcolumn : (ofText defaultWidth (withFilter before after [])).result.schema.find?
      (toUpper name) = some column)
    (htype : column.type = .int) :
    let plain := ofText defaultWidth (withFilter before after [])
    let read := ofText defaultWidth (withFilter before after (comparing name comparison v))
    (0 ≤ v → read = ⟨{ plain.result with conditions := [⟨toUpper name, comparison, .int v⟩] },
      plain.notices⟩) ∧
      (v < 0 → read = ⟨{ plain.result with conditions := [] },
        plain.notices ++ [.condition (.noValue (comparing name comparison v))]⟩) := by
  have hdefinition := isDefinition_comparing hname comparison v
  have hsolid : isAllBlank (comparing name comparison v) = false :=
    isAllBlank_of_beginsSolid hdefinition.begins []
  have hone : definitions (comparing name comparison v) = [comparing name comparison v] := by
    rw [definitions, pieces_of_not_mem hdefinition.semicolon, List.filter_singleton, hsolid]
    rfl
  have hread :=
    ofText_withFilter defaultWidth before hdefinition.trim_eq hdefinition.numberSign hlast
  rw [hone] at hread
  intro plain read
  constructor
  · intro hnonneg
    simp [read, hread, readConditions,
      readCondition_of_nonneg hname comparison hcolumn htype hnonneg, plain]
  · intro hneg
    simp [read, hread, readConditions, readCondition_of_neg hname comparison _ hneg, plain]

theorem ofText_integer_condition_of_greatest :
    let before : List Text := ["table columns: Ä-2|int; d|str", "filter: d = x"]
    let after : List Text := ["group: fields|d; data|max; Ä-2"]
    let plain := ofText 20 (withFilter before after [])
    plain.result.schema.find? "Ä-2" = some ⟨"Ä-2", .int, 20, .center, []⟩ ∧
      ofText 20 (withFilter before after (comparing "ä-2" .lessOrEqual 9223372036854775807)) =
        ⟨{ plain.result with conditions := [⟨"Ä-2", .lessOrEqual, .int 9223372036854775807⟩] },
          plain.notices⟩ := by
  intro before after plain
  have hupper : toUpper "ä-2" = "Ä-2" := by decide +kernel
  have hcolumn : plain.result.schema.find? "Ä-2" = some ⟨"Ä-2", .int, 20, .center, []⟩ := by
    decide +kernel
  have hread := ofText_integer_condition 20 before after "ä-2" .lessOrEqual 9223372036854775807
    ⟨"Ä-2", .int, 20, .center, []⟩ (by decide +kernel) (by decide +kernel)
    (hupper.symm ▸ hcolumn) rfl
  rw [hupper] at hread
  exact ⟨hcolumn, hread.1 (by decide)⟩

/-- The first number below zero already makes no condition. -/
theorem ofText_integer_condition_of_hyphen :
    let read := ofText 20 "table columns: N|int#filter: N = -1"
    read.result.schema.find? "N" = some ⟨"N", .int, 20, .center, []⟩ ∧
      read.result.conditions = [] ∧ read.notices = [.condition (.noValue "N = -1")] := by
  decide +kernel

end TablePattern

end PlainReport
