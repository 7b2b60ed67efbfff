import Mathlib.Data.List.Forall2
import PlainReport.Proofs.Pattern.ConditionText
import PlainReport.Proofs.Pattern.FieldText
import PlainReport.Proofs.Pattern.GroupText

/-!
# Table patterns as text

A table pattern is written as a block of fields: its title, its columns, its grouping
and its conditions, each with the literal it is given.  What is absent is left out.
`ofText_text` says that reading undoes writing: a pattern that can be written is read
from its text without a notice, whatever the default width is.
-/

namespace PlainReport.TablePattern

open Text

/-! ## Writing -/

/-- The definitions of the columns. -/
def columnsText (p : TablePattern) : Text := join "; " (p.schema.entries.map Column.text)

/-- The definitions of the conditions with their literals, if there are conditions. -/
def conditionsText? (p : TablePattern) (literals : List Text) : Option Text :=
  if p.conditions.isEmpty then none
  else some (join "; " (List.zipWith Condition.text p.conditions literals))

/-- The names of the fields of a pattern, each with the value that is given for it. -/
def values (p : TablePattern) (literals : List Text) : List (Text × Option Text) :=
  [("table name", p.title), ("table columns", some p.columnsText),
    ("group", p.grouping.map Grouping.text), ("filter", p.conditionsText? literals)]

/-- The fields of the pattern, without those that are absent. -/
def fields (p : TablePattern) (literals : List Text) : List Field := Field.given (p.values literals)

/-- The pattern as text. -/
def text (p : TablePattern) (literals : List Text) : Text :=
  join ['#'] ((p.fields literals).map Field.text)

/-- The pattern can be written with some literals for its conditions. -/
structure Writable (p : TablePattern) (literals : List Text) : Prop where
  /-- The title has neither blanks at its ends nor a number sign. -/
  title : ∀ t, p.title = some t → trim t = t ∧ '#' ∉ t
  /-- The columns can be written. -/
  columns : ∀ c ∈ p.schema.entries, c.Writable
  /-- The grouping can be written for the columns. -/
  grouping : ∀ g, p.grouping = some g → g.Writable p.schema
  /-- The literals stand for the values of the conditions, one for each. -/
  conditions : List.Forall₂ (Condition.Spelled p.schema) p.conditions literals

/-! ## Reading the fields -/

theorem readColumnsInto_text {columns : List Column} (h : ∀ c ∈ columns, c.Writable)
    {definitions : List Text} (hd : definitions.map trim = columns.map Column.text)
    (defaultWidth : Nat) (schema : Schema) :
    readColumnsInto defaultWidth schema definitions = ⟨columns.foldl Keyed.put schema, []⟩ := by
  induction columns generalizing definitions schema with
  | nil =>
    cases List.map_eq_nil_iff.1 hd
    rfl
  | cons c columns ih =>
    obtain ⟨definition, rest, rfl, hfirst, hrest⟩ := List.map_eq_cons_iff.1 hd
    have hread := Column.read_text (h c List.mem_cons_self) hfirst defaultWidth
    rw [readColumnsInto, hread]
    exact ih (fun d hd => h d (List.mem_cons_of_mem c hd)) hrest (schema.put c)

theorem readConditions_text {schema : Schema} (hcolumns : ∀ c ∈ schema.entries, c.Writable)
    {conditions : List Condition} {literals : List Text}
    (h : List.Forall₂ (Condition.Spelled schema) conditions literals) {definitions : List Text}
    (hd : definitions.map trim = List.zipWith Condition.text conditions literals) :
    readConditions schema definitions = ⟨conditions, []⟩ := by
  induction h generalizing definitions with
  | nil =>
    cases List.map_eq_nil_iff.1 hd
    rfl
  | cons hspelled _ ih =>
    obtain ⟨definition, rest, rfl, hfirst, hrest⟩ := List.map_eq_cons_iff.1 hd
    have hread := readCondition_text hspelled (hspelled.isName_field hcolumns) hfirst
    rw [readConditions, hread, ih hrest]

theorem mem_zipWith_text {schema : Schema} (hcolumns : ∀ c ∈ schema.entries, c.Writable)
    {conditions : List Condition} {literals : List Text}
    (h : List.Forall₂ (Condition.Spelled schema) conditions literals) :
    ∀ t ∈ List.zipWith Condition.text conditions literals, IsDefinition t := by
  induction h with
  | nil => exact nofun
  | cons hspelled _ ih =>
    refine List.forall_mem_cons.2 ⟨?_, ih⟩
    exact hspelled.isDefinition_text (hspelled.isName_field hcolumns)

/-! ## The block of fields -/

theorem fields_ne_nil (p : TablePattern) (literals : List Text) : p.fields literals ≠ [] := by
  have hmem : Field.mk "table columns" p.columnsText ∈ p.fields literals :=
    Field.mem_given.2 (by simp [values])
  exact List.ne_nil_of_mem hmem

theorem isLabel_of_mem_values {p : TablePattern} {literals : List Text} {name : Text}
    {value : Option Text} (h : (name, value) ∈ p.values literals) : name.IsLabel := by
  have hall : ∀ name ∈ (["table name", "table columns", "group", "filter"] : List Text),
      name.IsLabel := by decide +kernel
  have hname : name ∈ (p.values literals).map Prod.fst := List.mem_map.2 ⟨_, h, rfl⟩
  exact hall name hname

theorem nodup_values (p : TablePattern) (literals : List Text) :
    ((p.values literals).map (toUpper ·.1)).Nodup := by
  have hnames : ((["table name", "table columns", "group", "filter"] : List Text).map
      toUpper).Nodup := by decide +kernel
  exact hnames

theorem isDefinition_of_mem_columns {p : TablePattern} (h : ∀ c ∈ p.schema.entries, c.Writable) :
    ∀ t ∈ p.schema.entries.map Column.text, IsDefinition t := by
  intro t ht
  obtain ⟨c, hc, rfl⟩ := List.mem_map.1 ht
  exact (h c hc).isDefinition_text

theorem conditionsText?_eq_some {p : TablePattern} {literals : List Text} {value : Text}
    (h : p.conditionsText? literals = some value) :
    value = join "; " (List.zipWith Condition.text p.conditions literals) := by
  unfold conditionsText? at h
  split at h
  · cases h
  · cases h
    rfl

/-- The value of each field of a pattern can be the value of a field. -/
theorem Writable.value {p : TablePattern} {literals : List Text} (h : p.Writable literals)
    {name value : Text} (hv : (name, some value) ∈ p.values literals) :
    trim value = value ∧ '#' ∉ value := by
  simp only [values, List.mem_cons, Prod.mk.injEq, List.not_mem_nil, or_false] at hv
  rcases hv with ⟨-, htitle⟩ | ⟨-, hcolumns⟩ | ⟨-, hgroup⟩ | ⟨-, hfilter⟩
  · exact h.title value htitle.symm
  · cases hcolumns
    have hall := isDefinition_of_mem_columns h.columns
    exact ⟨trim_join_definitions hall, numberSign_not_mem_join hall⟩
  · obtain ⟨g, hg, rfl⟩ := Option.map_eq_some_iff.1 hgroup.symm
    have htarget := (h.grouping g hg).isName_target h.columns
    have hnames := (h.grouping g hg).isName_field h.columns
    exact ⟨Grouping.trim_text htarget, Grouping.numberSign_not_mem_text hnames htarget⟩
  · cases conditionsText?_eq_some hfilter.symm
    have hall := mem_zipWith_text h.columns h.conditions
    exact ⟨trim_join_definitions hall, numberSign_not_mem_join hall⟩

theorem Writable.field {p : TablePattern} {literals : List Text} (h : p.Writable literals) :
    ∀ f ∈ p.fields literals, f.Writable := by
  intro f hf
  have hmem := Field.mem_given.1 hf
  obtain ⟨htrim, hsign⟩ := h.value hmem
  exact ⟨isLabel_of_mem_values hmem, htrim, hsign⟩

/-- The fields that are looked up are those that were written. -/
theorem value?_fields (p : TablePattern) (literals : List Text) :
    let block : Fields := Keyed.ofList ((p.fields literals).map Field.capital)
    Fields.value? block "TABLE NAME" = p.title ∧
      Fields.value? block "TABLE COLUMNS" = some p.columnsText ∧
      Fields.value? block "GROUP" = p.grouping.map Grouping.text ∧
      Fields.value? block "FILTER" = p.conditionsText? literals := by
  have hlookup (name : Text) {key : Text} {value : Option Text} (hkey : toUpper name = key)
      (h : (name, value) ∈ p.values literals) :
      Fields.value? (Keyed.ofList ((p.fields literals).map Field.capital)) key = value :=
    hkey ▸ Fields.value?_given (nodup_values p literals) h
  refine ⟨hlookup "table name" (by decide +kernel) (by simp [values]),
    hlookup "table columns" (by decide +kernel) (by simp [values]),
    hlookup "group" (by decide +kernel) (by simp [values]),
    hlookup "filter" (by decide +kernel) (by simp [values])⟩

/-! ## Reading undoes writing -/

theorem readColumns_text {p : TablePattern} (h : ∀ c ∈ p.schema.entries, c.Writable)
    (defaultWidth : Nat) : readColumns defaultWidth (some p.columnsText) = ⟨p.schema, []⟩ := by
  have hdefinitions := map_trim_definitions (isDefinition_of_mem_columns h)
  rw [trim_space, trim_join_definitions (isDefinition_of_mem_columns h)] at hdefinitions
  have hschema : p.schema.entries.foldl Keyed.put Keyed.empty = p.schema :=
    Keyed.ext_entries (Keyed.entries_ofList p.schema.distinct)
  rw [readColumns, columnsText, readColumnsInto_text h hdefinitions, hschema]

theorem readGrouping_text {p : TablePattern} (hcolumns : ∀ c ∈ p.schema.entries, c.Writable)
    (h : ∀ g, p.grouping = some g → g.Writable p.schema) :
    readGrouping p.schema (p.grouping.map Grouping.text) = ⟨p.grouping, []⟩ := by
  cases hg : p.grouping with
  | none => rfl
  | some g =>
    have hwritable := h g hg
    have htrim := Grouping.trim_text (hwritable.isName_target hcolumns)
    rw [Option.map_some, readGrouping, Grouping.read_text hcolumns hwritable htrim]
    simp only [checkGrouping_of_writable hwritable]

theorem readConditions_conditionsText? {p : TablePattern} {literals : List Text}
    (hcolumns : ∀ c ∈ p.schema.entries, c.Writable)
    (h : List.Forall₂ (Condition.Spelled p.schema) p.conditions literals) :
    readConditions p.schema (((p.conditionsText? literals).map definitions).getD []) =
      ⟨p.conditions, []⟩ := by
  unfold conditionsText?
  cases hc : p.conditions with
  | nil => rfl
  | cons c rest =>
    rw [hc] at h
    have hall := mem_zipWith_text hcolumns h
    have hdefinitions := map_trim_definitions hall
    rw [trim_space, trim_join_definitions hall] at hdefinitions
    exact readConditions_text hcolumns h hdefinitions

/-- A pattern is read as it was written, and nothing is reported. -/
theorem ofText_text (defaultWidth : Nat) {p : TablePattern} {literals : List Text}
    (h : p.Writable literals) : ofText defaultWidth (p.text literals) = ⟨p, []⟩ := by
  have hblock := Fields.ofText_join (fields_ne_nil p literals) h.field
  obtain ⟨htitle, hcolumns, hgroup, hfilter⟩ := value?_fields p literals
  have htrim : p.title.map trim = p.title := by
    cases ht : p.title with
    | none => rfl
    | some t => rw [Option.map_some, (h.title t ht).1]
  rw [ofText, text, hblock]
  simp only [ofFields, htitle, hcolumns, hgroup, hfilter, htrim, readColumns_text h.columns,
    readGrouping_text h.columns h.grouping, readConditions_conditionsText? h.columns h.conditions]
  rfl

/-- The separators of one level stand in the texts of another. -/
theorem ofText_text_of_separators :
    let p : TablePattern :=
      { title := some "a|b; c: d-e"
        schema := ⟨[⟨"DATA", .text, 5, .left, []⟩,
          ⟨"N-1, ALL", .int, 18446744073709551615, .right, "kg"⟩, ⟨"F 2", .float, 1, .center, "l"⟩],
          by decide⟩
        grouping := some ⟨["DATA", "F 2", "DATA"], .average, "N-1, ALL"⟩
        conditions := [⟨"N-1, ALL", .greaterOrEqual, .int 7⟩, ⟨"DATA", .notEqual, .text "a - .b-"⟩,
          ⟨"F 2", .less, .float .nan⟩] }
    let literals : List Text := ["007", "a - .b-", "NaN"]
    p.Writable literals ∧
      p.text literals = join ['#']
        ["table name: a|b; c: d-e",
          "table columns: DATA|str-5-l; N-1, ALL|int-18446744073709551615-r-kg; F 2|float-1-c-l",
          "group: fields|DATA;F 2;DATA; data|avg; N-1, ALL",
          "filter: N-1, ALL >= 007; DATA != a - .b-; F 2 < NaN"] ∧
      ofText 20 (p.text literals) = ⟨p, []⟩ := by
  intro p literals
  have hcolumns : ∀ c ∈ p.schema.entries, c.Writable := by decide +kernel
  have hchars : (["DATA", "F 2", "DATA"] : List Text).all
      (List.all · fun c => isWordChar c || isBlank c) = true := by decide +kernel
  have hwritable : p.Writable literals := by
    refine ⟨?_, hcolumns, ?_, ?_⟩
    · rintro t ⟨⟩
      exact ⟨by decide, by decide⟩
    · rintro g ⟨⟩
      simp only [List.all_eq_true] at hchars
      exact ⟨by decide, by decide, hchars, p.schema.entries[1], by decide, by decide⟩
    · refine .cons ⟨?_, ?_, ?_, ?_⟩ (.cons ⟨?_, ?_, ?_, ?_⟩ (.cons ⟨?_, ?_, ?_, ?_⟩ .nil))
      · exact ⟨p.schema.entries[1], by decide, by decide +kernel⟩
      · decide +kernel
      · exact List.all_eq_true.1 (by decide +kernel)
      · exact ⟨"00", '7', rfl, by decide⟩
      · exact ⟨p.schema.entries[0], by decide, by decide +kernel⟩
      · decide +kernel
      · exact List.all_eq_true.1 (by decide +kernel)
      · exact ⟨"a - .b", '-', rfl, by decide⟩
      · exact ⟨p.schema.entries[2], by decide, by decide +kernel⟩
      · decide +kernel
      · exact List.all_eq_true.1 (by decide +kernel)
      · exact ⟨"Na", 'N', rfl, by decide⟩
  exact ⟨hwritable, by decide +kernel, ofText_text 20 hwritable⟩

end PlainReport.TablePattern
