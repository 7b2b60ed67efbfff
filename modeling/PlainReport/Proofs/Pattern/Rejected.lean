import PlainReport.Proofs.Pattern.Segments

/-!
# Rejected parts of a pattern

A segment that is no field, a definition that is no column and a condition that does not
fit the columns have no effect on the pattern, and each is reported once.  The text without
all of them (`withoutRejected`) is read as the same pattern, and only its grouping can be
reported.  `ofText_reports_rejected` states this and counts the events.

The pattern is made of four values of the block of fields (`result_ofText`).  Two of them
are left as they are, and the other two lose definitions that give nothing
(`map_value?_withoutRejected`).
-/

namespace PlainReport.TablePattern

open Text

/-! ## Leaving out what is rejected -/

/-- Whether a segment is read as a field. -/
def isField (segment : Text) : Bool := (Field.read .definition segment).isOk

/-- Whether a definition is read as a column. -/
def isColumn (defaultWidth : Nat) (definition : Text) : Bool :=
  (Column.read definition defaultWidth).isOk

/-- Whether a definition is read as a condition on the columns. -/
def isCondition (schema : Schema) (definition : Text) : Bool :=
  (readCondition schema definition).isOk

/-- The value of a field without the definitions that are rejected in it. -/
def keptValue (defaultWidth : Nat) (schema : Schema) (name value : Text) : Text :=
  if name = "TABLE COLUMNS" then keepPieces ';' (isColumn defaultWidth) value
  else if name = "FILTER" then keepPieces ';' (isCondition schema) value
  else value

/-- A segment without the definitions that are rejected in its value. -/
def keptSegment (defaultWidth : Nat) (schema : Schema) (segment : Text) : Text :=
  match cut ':' segment with
  | (name, some value) => name ++ ':' :: keptValue defaultWidth schema (toUpper (trim name)) value
  | (_, none) => segment

/-- The text without the segments that are no fields, the definitions that are no columns
and the conditions that do not fit the columns of the pattern. -/
def withoutRejected (defaultWidth : Nat) (t : Text) : Text :=
  join ['#'] (((pieces '#' t).filter isField).map
    (keptSegment defaultWidth (ofText defaultWidth t).result.schema))

/-- How many definitions of a value are rejected, the blank ones apart. -/
def rejectedCount (accepts : Text → Bool) (value : Text) : Nat :=
  (pieces ';' value).countP fun definition => !isAllBlank definition && !accepts definition

/-- How many events of a level some notices are. -/
def eventCount (level : Level) (notices : List PatternNotice) : Nat :=
  (notices.map PatternNotice.event).countP (·.level = level)

/-! ## Segments without rejected definitions -/

section

variable (defaultWidth : Nat) (schema : Schema)

theorem keptSegment_eq {name : Text} (hchars : ∀ c ∈ name, isNameChar c = true) (value : Text) :
    keptSegment defaultWidth schema (name ++ ':' :: value) =
      name ++ ':' :: keptValue defaultWidth schema (toUpper (trim name)) value := by
  have hcolon : ':' ∉ name := not_mem_of_class hchars (isNameChar_of_mem_dividers (by decide))
  rw [keptSegment, cut_append hcolon]

theorem not_mem_keptValue (name : Text) {value : Text} (h : '#' ∉ value) :
    '#' ∉ keptValue defaultWidth schema name value := by
  unfold keptValue
  split
  · exact not_mem_keepPieces (by decide) _ h
  · split
    · exact not_mem_keepPieces (by decide) _ h
    · exact h

theorem isField_iff {segment : Text} : isField segment = true ↔
    ∃ name value, segment = name ++ ':' :: value ∧ (∀ c ∈ name, isNameChar c = true) ∧
      trim name ≠ [] := by
  constructor
  · intro h
    cases hread : Field.read .definition segment with
    | ok field =>
      obtain ⟨name, value, hsegment, hchars, hname, -⟩ := Field.read_eq_ok_iff.1 hread
      exact ⟨name, value, hsegment, hchars, hname⟩
    | error fault =>
      rw [isField, hread] at h
      cases h
  · rintro ⟨name, value, hsegment, hchars, hname⟩
    rw [isField, Field.read_eq_ok_iff.2 ⟨name, value, hsegment, hchars, hname, rfl⟩]
    rfl

/-- A field stays a field when definitions of its value are left out. -/
theorem isField_keptSegment {segment : Text} (h : isField segment = true) :
    isField (keptSegment defaultWidth schema segment) = true := by
  obtain ⟨name, value, rfl, hchars, hname⟩ := isField_iff.1 h
  rw [keptSegment_eq defaultWidth schema hchars]
  exact isField_iff.2 ⟨name, _, rfl, hchars, hname⟩

theorem not_mem_keptSegment {segment : Text} (h : isField segment = true) (hsign : '#' ∉ segment) :
    '#' ∉ keptSegment defaultWidth schema segment := by
  obtain ⟨name, value, rfl, hchars, -⟩ := isField_iff.1 h
  rw [keptSegment_eq defaultWidth schema hchars]
  simp only [List.mem_append, List.mem_cons, not_or] at hsign ⊢
  exact ⟨hsign.1, hsign.2.1, not_mem_keptValue defaultWidth schema _ hsign.2.2⟩

/-- A segment gives a name the value that is left of its value. -/
theorem valueOf?_keptSegment {segment : Text} (h : isField segment = true) (key : Text) :
    ∃ value : Option Text, Field.valueOf? .definition key segment = value.map trim ∧
      Field.valueOf? .definition key (keptSegment defaultWidth schema segment) =
        value.map fun v => trim (keptValue defaultWidth schema key v) := by
  obtain ⟨name, value, rfl, hchars, hname⟩ := isField_iff.1 h
  rw [keptSegment_eq defaultWidth schema hchars, Field.valueOf?_eq rfl hchars hname,
    Field.valueOf?_eq rfl hchars hname]
  by_cases hkey : toUpper (trim name) = key
  · rw [if_pos hkey, if_pos hkey, hkey]
    exact ⟨some value, rfl, rfl⟩
  · rw [if_neg hkey, if_neg hkey]
    exact ⟨none, rfl, rfl⟩

theorem valueOf?_of_not_isField {segment : Text} (h : isField segment = false) (key : Text) :
    Field.valueOf? .definition key segment = none := by
  rw [isField, isOk_eq_isSome, Option.isSome_eq_false_iff, Option.isNone_iff_eq_none] at h
  rw [Field.valueOf?, h]
  rfl

end

/-! ## Values without rejected definitions -/

section

variable (defaultWidth : Nat) (t : Text)

theorem not_mem_kept {segment : Text} (h : segment ∈ ((pieces '#' t).filter isField).map
    (keptSegment defaultWidth (ofText defaultWidth t).result.schema)) : '#' ∉ segment := by
  obtain ⟨original, horiginal, rfl⟩ := List.mem_map.1 h
  obtain ⟨hpiece, hfield⟩ := List.mem_filter.1 horiginal
  exact not_mem_keptSegment defaultWidth _ hfield (not_mem_of_mem_pieces hpiece)

/-- The values that the segments left give to a name. -/
theorem filterMap_valueOf?_withoutRejected (key : Text) :
    (pieces '#' (withoutRejected defaultWidth t)).filterMap (Field.valueOf? .definition key) =
      ((pieces '#' t).filter isField).filterMap fun segment =>
        Field.valueOf? .definition key
          (keptSegment defaultWidth (ofText defaultWidth t).result.schema segment) := by
  have hnil : Field.valueOf? .definition key [] = none := rfl
  rw [withoutRejected, filterMap_pieces_join hnil fun _ => not_mem_kept defaultWidth t,
    List.filterMap_map]
  rfl

/-- What is read from a value is read from what is left of it, if leaving definitions out
has no effect on it. -/
theorem map_value?_withoutRejected {β : Type} (key : Text) {g : Text → β}
    (hg : ∀ value,
      g (trim (keptValue defaultWidth (ofText defaultWidth t).result.schema key value)) =
        g (trim value)) :
    (Fields.value? (Fields.ofText .definition (withoutRejected defaultWidth t)).result key).map g =
      (Fields.value? (Fields.ofText .definition t).result key).map g := by
  rw [Fields.value?_eq_getLast?, Fields.value?_eq_getLast?, ← List.getLast?_map,
    ← List.getLast?_map, filterMap_valueOf?_withoutRejected, List.map_filterMap, List.map_filterMap,
    List.filterMap_filter]
  refine congrArg List.getLast? (List.filterMap_congr fun segment _ => ?_)
  cases hfield : isField segment with
  | false => rw [valueOf?_of_not_isField hfield, if_neg (by nofun), Option.map_none]
  | true =>
    obtain ⟨value, hvalue, hkept⟩ :=
      valueOf?_keptSegment defaultWidth (ofText defaultWidth t).result.schema hfield key
    rw [if_pos rfl, hvalue, hkept, Option.map_map, Option.map_map]
    exact congrArg (Option.map · value) (funext hg)

/-- The other names have the values that they have with all definitions. -/
theorem value?_withoutRejected (key : Text) (hcolumns : key ≠ "TABLE COLUMNS")
    (hfilter : key ≠ "FILTER") :
    Fields.value? (Fields.ofText .definition (withoutRejected defaultWidth t)).result key =
      Fields.value? (Fields.ofText .definition t).result key := by
  have h := map_value?_withoutRejected defaultWidth t key (g := fun value => value) fun value => by
    rw [keptValue, if_neg hcolumns, if_neg hfilter]
  rwa [Option.map_id', Option.map_id'] at h

theorem exists_value_of_withoutRejected {key v : Text}
    (h : Fields.value? (Fields.ofText .definition (withoutRejected defaultWidth t)).result key =
      some v) :
    ∃ value, v = trim (keptValue defaultWidth (ofText defaultWidth t).result.schema key value) := by
  rw [Fields.value?_eq_getLast?, filterMap_valueOf?_withoutRejected] at h
  obtain ⟨segment, hsegment, hvalue⟩ := List.mem_filterMap.1 (List.mem_of_getLast? h)
  obtain ⟨value, -, hkept⟩ := valueOf?_keptSegment defaultWidth
    (ofText defaultWidth t).result.schema (List.mem_filter.1 hsegment).2 key
  rw [hkept] at hvalue
  obtain ⟨original, -, rfl⟩ := Option.map_eq_some_iff.1 hvalue
  exact ⟨original, rfl⟩

end

/-! ## The pattern -/

/-- The columns that the definitions of a value give. -/
def columnsIn (defaultWidth : Nat) (value : Text) : List Column :=
  accepted (Column.read · defaultWidth) (pieces ';' value)

/-- The conditions that the definitions of a value give. -/
def conditionsIn (schema : Schema) (value : Text) : List Condition :=
  accepted (readCondition schema) (pieces ';' value)

theorem readColumns_result (defaultWidth : Nat) (value? : Option Text) :
    (readColumns defaultWidth value?).result =
      Keyed.ofList ((value?.map (columnsIn defaultWidth)).getD []) := by
  cases value? with
  | none => rfl
  | some value =>
    rw [readColumns, readColumnsInto_eq, (Column.readsTrimmed defaultWidth).accepted_definitions]
    rfl

theorem readConditions_result (schema : Schema) (value? : Option Text) :
    (readConditions schema ((value?.map definitions).getD [])).result =
      (value?.map (conditionsIn schema)).getD [] := by
  rw [readConditions_eq]
  cases value? with
  | none => rfl
  | some value => exact (readsTrimmed_readCondition schema).accepted_definitions value

/-- A pattern is made of four values of its block of fields. -/
theorem result_ofText (defaultWidth : Nat) (t : Text) :
    let value? := Fields.value? (Fields.ofText .definition t).result
    let schema : Schema :=
      Keyed.ofList (((value? "TABLE COLUMNS").map (columnsIn defaultWidth)).getD [])
    (ofText defaultWidth t).result =
      ⟨(value? "TABLE NAME").map trim, schema, (readGrouping schema (value? "GROUP")).result,
        ((value? "FILTER").map (conditionsIn schema)).getD []⟩ := by
  intro value? schema
  simp only [ofText, ofFields, readColumns_result, readConditions_result]
  rfl

theorem columnsIn_keptValue (defaultWidth : Nat) (schema : Schema) (value : Text) :
    columnsIn defaultWidth (trim (keptValue defaultWidth schema "TABLE COLUMNS" value)) =
      columnsIn defaultWidth (trim value) := by
  have hread := Column.readsTrimmed defaultWidth
  rw [columnsIn, columnsIn, hread.accepted_pieces_trim, hread.accepted_pieces_trim]
  exact hread.accepted_pieces_keepPieces value

theorem conditionsIn_keptValue (defaultWidth : Nat) (schema : Schema) (value : Text) :
    conditionsIn schema (trim (keptValue defaultWidth schema "FILTER" value)) =
      conditionsIn schema (trim value) := by
  have hread := readsTrimmed_readCondition schema
  rw [conditionsIn, conditionsIn, hread.accepted_pieces_trim, hread.accepted_pieces_trim]
  exact hread.accepted_pieces_keepPieces value

/-- The text without what is rejected is read as the same pattern. -/
theorem result_withoutRejected (defaultWidth : Nat) (t : Text) :
    (ofText defaultWidth (withoutRejected defaultWidth t)).result =
      (ofText defaultWidth t).result := by
  have htitle := value?_withoutRejected defaultWidth t "TABLE NAME" (by decide) (by decide)
  have hgroup := value?_withoutRejected defaultWidth t "GROUP" (by decide) (by decide)
  have hcolumns := map_value?_withoutRejected defaultWidth t "TABLE COLUMNS"
    (columnsIn_keptValue defaultWidth (ofText defaultWidth t).result.schema)
  have hfilter := map_value?_withoutRejected defaultWidth t "FILTER"
    (conditionsIn_keptValue defaultWidth (ofText defaultWidth t).result.schema)
  have hschema : (ofText defaultWidth t).result.schema = _ :=
    congrArg TablePattern.schema (result_ofText defaultWidth t)
  rw [hschema] at hfilter
  rw [result_ofText, result_ofText, htitle, hgroup, hcolumns, hfilter]

/-! ## Counting events -/

theorem eventCount_append (level : Level) (first second : List PatternNotice) :
    eventCount level (first ++ second) = eventCount level first + eventCount level second := by
  rw [eventCount, List.map_append, List.countP_append]
  rfl

/-- Every notice but that of missing columns is a warning. -/
theorem level_event {notice : PatternNotice} (h : notice ≠ .noColumns) :
    notice.event.level = .warn := by
  cases notice with
  | field fault => cases fault <;> rfl
  | noColumns => exact absurd rfl h
  | column fault => rfl
  | group fault => rfl
  | unknownGroupField name => rfl
  | targetNotNumeric function name type => rfl
  | condition fault => rfl
  | unknownConditionField name definition => rfl
  | unreadableLiteral error definition => rfl

theorem eventCount_of_ne {notices : List PatternNotice}
    (h : ∀ notice ∈ notices, notice ≠ .noColumns) :
    eventCount .warn notices = notices.length ∧ eventCount .error notices = 0 := by
  rw [eventCount, eventCount, List.countP_map, List.countP_map]
  constructor
  · exact List.countP_eq_length.2 fun notice hmem => decide_eq_true (level_event (h notice hmem))
  · refine List.countP_eq_zero.2 fun notice hmem => ?_
    rw [Function.comp_apply, level_event (h notice hmem)]
    nofun

theorem eventCount_map {φ : Type} (notice : φ → PatternNotice)
    (h : ∀ fault, notice fault ≠ .noColumns) (faults : List φ) :
    eventCount .warn (faults.map notice) = faults.length ∧
      eventCount .error (faults.map notice) = 0 := by
  rw [← List.length_map notice]
  refine eventCount_of_ne fun n hn => ?_
  obtain ⟨fault, -, rfl⟩ := List.mem_map.1 hn
  exact h fault

/-! ### The steps of reading -/

/-- How many segments are no fields, the blank ones apart. -/
def malformedCount (t : Text) : Nat :=
  (pieces '#' t).countP fun segment => !isAllBlank segment && !isField segment

theorem length_notices_fields (t : Text) :
    (Fields.ofText .definition t).notices.length = malformedCount t := by
  rw [Fields.ofText_eq, Fields.faults_eq, length_rejections, Fields.segments, List.countP_filter,
    malformedCount]
  simp only [isField, Bool.and_comm]

theorem length_rejections_definitions {β ε : Type} (read : Text → Except ε β) (value : Text) :
    (rejections read (definitions value)).length =
      rejectedCount (fun definition => (read definition).isOk) value := by
  rw [length_rejections, definitions, List.countP_filter, rejectedCount]
  simp only [Bool.and_comm]

theorem eventCount_readColumns (defaultWidth : Nat) (value? : Option Text) :
    eventCount .warn (readColumns defaultWidth value?).notices =
        value?.elim 0 (rejectedCount (isColumn defaultWidth)) ∧
      eventCount .error (readColumns defaultWidth value?).notices =
        if value?.isNone then 1 else 0 := by
  cases value? with
  | none => exact ⟨rfl, rfl⟩
  | some value =>
    rw [readColumns, readColumnsInto_eq]
    have h := eventCount_map PatternNotice.column nofun
      (rejections (Column.read · defaultWidth) (definitions value))
    rwa [length_rejections_definitions] at h

theorem readCondition_ne_noColumns {schema : Schema} {definition : Text} :
    readCondition schema definition ≠ .error .noColumns := by
  unfold readCondition
  split
  · nofun
  · split
    · nofun
    · split
      · nofun
      · nofun

theorem eventCount_readConditions (schema : Schema) (value? : Option Text) :
    let notices := (readConditions schema ((value?.map definitions).getD [])).notices
    eventCount .warn notices = value?.elim 0 (rejectedCount (isCondition schema)) ∧
      eventCount .error notices = 0 := by
  cases value? with
  | none => exact ⟨rfl, rfl⟩
  | some value =>
    intro notices
    have hnotices : notices = rejections (readCondition schema) (definitions value) :=
      congrArg Logged.notices (readConditions_eq schema (definitions value))
    have hne : ∀ notice ∈ notices, notice ≠ .noColumns := by
      rintro notice hmem rfl
      rw [hnotices] at hmem
      obtain ⟨definition, -, hread⟩ := mem_rejections_iff.1 hmem
      exact readCondition_ne_noColumns hread
    have h := eventCount_of_ne hne
    rw [hnotices, length_rejections_definitions] at h
    rw [hnotices]
    exact h

theorem checkGrouping_ne_noColumns {schema : Schema} {g : Grouping} :
    checkGrouping schema g ≠ .error .noColumns := by
  unfold checkGrouping
  split
  · nofun
  · split
    · split
      · nofun
      · nofun
    · nofun

/-- A group definition that gives no grouping is reported once. -/
theorem eventCount_readGrouping (schema : Schema) (value? : Option Text) :
    let read := readGrouping schema value?
    eventCount .warn read.notices = (if value?.isSome && read.result.isNone then 1 else 0) ∧
      eventCount .error read.notices = 0 := by
  cases value? with
  | none => exact ⟨rfl, rfl⟩
  | some definition =>
    cases hread : Grouping.read definition with
    | error fault =>
      rw [readGrouping, hread]
      exact ⟨rfl, rfl⟩
    | ok g =>
      cases hcheck : checkGrouping schema g with
      | ok checked =>
        simp only [readGrouping, hread, hcheck]
        exact ⟨rfl, rfl⟩
      | error notice =>
        have hne : ∀ n ∈ [notice], n ≠ .noColumns := by
          refine List.forall_mem_singleton.2 ?_
          rintro rfl
          exact checkGrouping_ne_noColumns hcheck
        simp only [readGrouping, hread, hcheck]
        exact eventCount_of_ne hne

/-! ## The events of a pattern -/

/-- Whatever is rejected is reported by one warning, and missing columns by an error. -/
theorem eventCount_ofText (defaultWidth : Nat) (t : Text) :
    let value? := Fields.value? (Fields.ofText .definition t).result
    let read := ofText defaultWidth t
    eventCount .warn read.notices =
        malformedCount t + (value? "TABLE COLUMNS").elim 0 (rejectedCount (isColumn defaultWidth)) +
          (if (value? "GROUP").isSome && read.result.grouping.isNone then 1 else 0) +
          (value? "FILTER").elim 0 (rejectedCount (isCondition read.result.schema)) ∧
      eventCount .error read.notices = if (value? "TABLE COLUMNS").isNone then 1 else 0 := by
  intro value? read
  let schema := (readColumns defaultWidth (value? "TABLE COLUMNS")).result
  obtain ⟨hcolumns, hcolumns'⟩ := eventCount_readColumns defaultWidth (value? "TABLE COLUMNS")
  obtain ⟨hgroup, hgroup'⟩ := eventCount_readGrouping schema (value? "GROUP")
  obtain ⟨hconditions, hconditions'⟩ := eventCount_readConditions schema (value? "FILTER")
  obtain ⟨hfields, hfields'⟩ :=
    eventCount_map PatternNotice.field nofun (Fields.ofText .definition t).notices
  rw [length_notices_fields] at hfields
  have hnotices : read.notices = (Fields.ofText .definition t).notices.map .field ++
      ((readColumns defaultWidth (value? "TABLE COLUMNS")).notices ++
        (readGrouping schema (value? "GROUP")).notices ++
        (readConditions schema (((value? "FILTER").map definitions).getD [])).notices) := rfl
  rw [hnotices]
  simp only [eventCount_append]
  constructor
  · rw [hfields, hcolumns, hgroup, hconditions, ← Nat.add_assoc, ← Nat.add_assoc]
    rfl
  · rw [hfields', hcolumns', hgroup', hconditions', Nat.zero_add, Nat.add_zero]

/-! ## Nothing is left to reject -/

/-- What is left of a value has no definition that is rejected. -/
theorem rejectedCount_keepPieces {β ε : Type} {read : Text → Except ε β} (h : ReadsTrimmed read)
    (value : Text) :
    rejectedCount (fun d => (read d).isOk)
      (trim (keepPieces ';' (fun d => (read d).isOk) value)) = 0 := by
  refine List.countP_eq_zero.2 fun p hp => ?_
  -- up to blanks, a piece of the trimmed value is one of the value
  have hmem : trim p ∈ (pieces ';' (keepPieces ';' (fun d => (read d).isOk) value)).map trim := by
    rw [← map_trim_pieces_trim (by decide)]
    exact List.mem_map_of_mem hp
  obtain ⟨q, hq, htrim⟩ := List.mem_map.1 hmem
  cases mem_pieces_keepPieces hq with
  | inl hnil =>
    have hblank : isAllBlank p = true := trim_eq_nil_iff.1 (by rw [← htrim, hnil]; rfl)
    rw [hblank]
    nofun
  | inr hok =>
    have hp : (read p).isOk = true := by rw [← h.isOk_trim p, ← htrim, h.isOk_trim, hok]
    simp only [hp, Bool.not_true, Bool.and_false]
    nofun

theorem malformedCount_withoutRejected (defaultWidth : Nat) (t : Text) :
    malformedCount (withoutRejected defaultWidth t) = 0 := by
  refine List.countP_eq_zero.2 fun segment hmem => ?_
  cases mem_pieces_join (fun _ => not_mem_kept defaultWidth t) hmem with
  | inl hnil =>
    rw [hnil]
    nofun
  | inr hkept =>
    obtain ⟨original, horiginal, rfl⟩ := List.mem_map.1 hkept
    rw [isField_keptSegment defaultWidth _ (List.mem_filter.1 horiginal).2, Bool.not_true,
      Bool.and_false]
    nofun

theorem rejectedCount_columns_withoutRejected (defaultWidth : Nat) (t : Text) :
    (Fields.value? (Fields.ofText .definition (withoutRejected defaultWidth t)).result
      "TABLE COLUMNS").elim 0 (rejectedCount (isColumn defaultWidth)) = 0 := by
  cases hvalue : Fields.value? (Fields.ofText .definition (withoutRejected defaultWidth t)).result
      "TABLE COLUMNS" with
  | none => rfl
  | some v =>
    obtain ⟨value, rfl⟩ := exists_value_of_withoutRejected defaultWidth t hvalue
    exact rejectedCount_keepPieces (Column.readsTrimmed defaultWidth) value

theorem rejectedCount_conditions_withoutRejected (defaultWidth : Nat) (t : Text) :
    (Fields.value? (Fields.ofText .definition (withoutRejected defaultWidth t)).result
      "FILTER").elim 0 (rejectedCount (isCondition (ofText defaultWidth t).result.schema)) = 0 := by
  cases hvalue : Fields.value? (Fields.ofText .definition (withoutRejected defaultWidth t)).result
      "FILTER" with
  | none => rfl
  | some v =>
    obtain ⟨value, rfl⟩ := exists_value_of_withoutRejected defaultWidth t hvalue
    exact rejectedCount_keepPieces
      (readsTrimmed_readCondition (ofText defaultWidth t).result.schema) value

/-- Leaving out all that is rejected keeps the pattern, and then only a grouping can be
reported.  In the text itself each segment, column and condition that is rejected is
reported by one warning, and so is a group definition that gives no grouping.  An error is
reported when there are no columns. -/
theorem ofText_reports_rejected (defaultWidth : Nat) (t : Text) :
    let value? := Fields.value? (Fields.ofText .definition t).result
    let read := ofText defaultWidth t
    let left := ofText defaultWidth (withoutRejected defaultWidth t)
    let ungrouped : Nat := if (value? "GROUP").isSome && read.result.grouping.isNone then 1 else 0
    left.result = read.result ∧ eventCount .warn left.notices = ungrouped ∧
      eventCount .warn read.notices = malformedCount t +
        (value? "TABLE COLUMNS").elim 0 (rejectedCount (isColumn defaultWidth)) + ungrouped +
        (value? "FILTER").elim 0 (rejectedCount (isCondition read.result.schema)) ∧
      eventCount .error read.notices = if (value? "TABLE COLUMNS").isNone then 1 else 0 := by
  intro value? read left ungrouped
  have hleft : left.result = read.result := result_withoutRejected defaultWidth t
  obtain ⟨hwarn, herror⟩ := eventCount_ofText defaultWidth t
  refine ⟨hleft, ?_, hwarn, herror⟩
  obtain ⟨hleftwarn, -⟩ := eventCount_ofText defaultWidth (withoutRejected defaultWidth t)
  have hgroup := value?_withoutRejected defaultWidth t "GROUP" (by decide) (by decide)
  rw [hleft, malformedCount_withoutRejected, rejectedCount_columns_withoutRejected,
    rejectedCount_conditions_withoutRejected, hgroup, Nat.zero_add, Nat.add_zero] at hleftwarn
  exact hleftwarn

example : withoutRejected 9 "n#table columns: n|int; n; x|date#filter: n = a; n > 1; x = 2" =
    ("table columns: n|int#filter: n > 1" : Text) := by decide +kernel

end PlainReport.TablePattern
