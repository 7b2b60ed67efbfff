import Mathlib.Data.List.TakeWhile
import PlainReport.Proofs.Collected
import PlainReport.Proofs.Pattern.Accepted
import PlainReport.Proofs.Pattern.LayoutText

/-!
# Columns of a pattern

Every column of a pattern was read from a definition (`exists_read_of_find?`), which has a
name before a bar (`Column.exists_bar_of_read`).  So the columns of patterns have what
reading gives to a column, such as a unit of word characters (`isWordChar_of_mem_unit`).
-/

namespace PlainReport

open Text

/-! ## Reading a column -/

namespace Layout

theorem isWordChar_of_mem_readUnit {c : Cursor} {x : Char}
    (h : x ∈ (readUnit .word c).1) : isWordChar x = true := by
  unfold readUnit at h
  split at h
  · exact List.mem_takeWhile_imp h
  · cases h

theorem isWordChar_of_read {c rest : Cursor} {layout : Layout}
    (h : Layout.read .word c = .ok (layout, rest)) {x : Char} (hx : x ∈ layout.unit) :
    isWordChar x = true := by
  obtain ⟨width, d, -, rfl, -⟩ := read_eq_ok_iff.1 h
  exact isWordChar_of_mem_readUnit hx

end Layout

namespace Column

variable {defaultWidth : Nat} {column : Column}

/-- A column is read if its type is named by its keyword and its layout ends its definition. -/
theorem readFormat_eq_ok_iff {name : Text} {c : Cursor} :
    readFormat name defaultWidth c = .ok column ↔ ∃ type layout rest,
      DataType.ofKeyword? (c.skipBlanks.takeWhile isWordChar).1 = some type ∧
      Layout.read .word (c.skipBlanks.takeWhile isWordChar).2 = .ok (layout, rest) ∧
      rest.atEnd = true ∧
      column = ⟨toUpper name, type, layout.width.getD defaultWidth,
        layout.alignment.getD .center, layout.unit⟩ := by
  unfold readFormat
  dsimp only
  constructor
  · intro h
    split at h
    · cases h
    · next type htype =>
      split at h
      · cases h
      · next layout rest hlayout =>
        split at h
        · next hend =>
          cases h
          exact ⟨type, layout, rest, htype, hlayout, hend, rfl⟩
        · cases h
  · intro h
    obtain ⟨type, layout, rest, htype, hlayout, hend, rfl⟩ := h
    simp only [htype, hlayout, hend, if_true]

/-- A column that is read has a name before a bar, and its format after it. -/
theorem read_eq_ok {definition : Text} (h : Column.read definition defaultWidth = .ok column) :
    let run := (Cursor.ofText (trim definition)).takeWhile isNameChar
    trim run.1 ≠ [] ∧
      ∃ c, run.2.eat? '|' = some c ∧ readFormat (trim run.1) defaultWidth c = .ok column := by
  intro run
  unfold Column.read at h
  dsimp only at h
  split at h
  · cases h
  · next hname =>
    split at h
    · cases h
    · next c hbar => exact ⟨by simpa using hname, c, hbar, h⟩

/-- A column that is read was defined by a name, a bar and a format, with blanks after it. -/
theorem exists_bar_of_read {definition : Text}
    (h : Column.read definition defaultWidth = .ok column) :
    ∃ name format b n, definition = name ++ '|' :: (format ++ b) ∧
      (∀ c ∈ name, isNameChar c = true) ∧ isAllBlank name = false ∧
      (∀ c ∈ b, isBlank c = true) ∧
      readFormat (trim name) defaultWidth ⟨format, n⟩ = .ok column := by
  obtain ⟨a, b, ha, hb, hdefinition⟩ := exists_trim definition
  obtain ⟨hrest, hrun, -⟩ := (Cursor.ofText (trim definition)).takeWhile_divides isNameChar
  obtain ⟨hname, c, hbar, hformat⟩ := read_eq_ok h
  rw [Cursor.rest_of_eat? hbar] at hrest
  change trim definition = _ at hrest
  rw [← trim_append_of_blanks ha] at hname hformat
  refine ⟨_, c.rest, b, c.position, ?_, fun x hx => ?_, ?_, hb, hformat⟩
  · rw [hrest] at hdefinition
    simpa only [List.append_assoc, List.cons_append] using hdefinition
  · exact (List.mem_append.1 hx).elim (fun hm => isNameChar_of_isBlank (ha x hm)) (hrun x)
  · rwa [← isEmpty_trim, List.isEmpty_eq_false_iff]

/-- The unit of a column is made of word characters. -/
theorem isWordChar_of_read {definition : Text}
    (h : Column.read definition defaultWidth = .ok column) {x : Char} (hx : x ∈ column.unit) :
    isWordChar x = true := by
  obtain ⟨-, c, -, hformat⟩ := read_eq_ok h
  obtain ⟨type, layout, rest, -, hlayout, -, rfl⟩ := readFormat_eq_ok_iff.1 hformat
  exact Layout.isWordChar_of_read hlayout hx

end Column

/-! ## Columns of a schema -/

namespace TablePattern

/-- Every column of a pattern was read from a definition. -/
theorem exists_read_of_find? {defaultWidth : Nat} {t name : Text} {column : Column}
    (h : (ofText defaultWidth t).result.schema.find? name = some column) :
    ∃ definition, Column.read definition defaultWidth = .ok column := by
  have hmem : column ∈ (readColumns defaultWidth
      (Fields.value? (Fields.ofText .definition t).result "TABLE COLUMNS")).result.entries :=
    Keyed.mem_of_find? h
  cases hvalue : Fields.value? (Fields.ofText .definition t).result "TABLE COLUMNS" with
  | none =>
    rw [hvalue] at hmem
    cases hmem
  | some value =>
    rw [hvalue, readColumns, readColumnsInto_eq] at hmem
    obtain ⟨definition, -, hread⟩ := mem_accepted_iff.1 (Keyed.mem_of_mem_ofList hmem)
    exact ⟨definition, hread⟩

theorem isWordChar_of_mem_unit {defaultWidth : Nat} {t name : Text} {column : Column}
    (h : (ofText defaultWidth t).result.schema.find? name = some column) {x : Char}
    (hx : x ∈ column.unit) : isWordChar x = true := by
  obtain ⟨definition, hread⟩ := exists_read_of_find? h
  exact Column.isWordChar_of_read hread hx

end TablePattern

end PlainReport
