import PlainReport.Proofs.Letter.Consumed
import PlainReport.Proofs.Pattern.ColumnText
import PlainReport.Proofs.Pattern.Columns
import PlainReport.Proofs.Text.Keywords

/-!
# Names before a bar

The definition of a column and the inside of a placeholder begin alike, with a name and a
bar, and both give the trimmed name to what reads the rest (`Column.read_bar`,
`Placeholder.read_bar`).  They differ in the blanks at the ends, which only a definition
loses first.

What follows the bar has no other one (`Column.isNameChar_of_mem_format`).  In a column it
begins with the word for a type, which ends where the keyword of a type does
(`DataType.eq_nil_of_ofKeyword?_append`).
-/

namespace PlainReport

open Text

/-! ## Reading a name and a bar -/

section

variable {name : Text} (hchars : ∀ c ∈ name, isNameChar c = true)
  (hsolid : isAllBlank name = false)

include hchars hsolid

/-- After a name and a bar it is left to the format whether a column is read. -/
theorem Column.read_bar (format : Text) (defaultWidth : Nat) :
    ∃ n, Column.read (name ++ '|' :: format) defaultWidth =
      readFormat (trim name) defaultWidth ⟨trimEnd format, n⟩ := by
  have hbar : isNameChar '|' = false := isNameChar_of_mem_dividers (by decide)
  have hstart : ∀ c ∈ trimStart name, isNameChar c = true :=
    fun c hc => hchars c ((List.dropWhile_sublist isBlank).mem hc)
  rw [Column.read, trim_append_cons hsolid (by decide), Cursor.ofText,
    Cursor.takeWhile_append hstart (stops_cons hbar _)]
  simp only [trim_trimStart, isEmpty_trim, hsolid, Cursor.eat?_cons]
  exact ⟨_, rfl⟩

/-- After a name and a bar it is left to the layout whether a placeholder is read. -/
theorem Placeholder.read_bar (layout : Text) :
    ∃ n, Placeholder.read (name ++ '|' :: layout) = readLayout (trim name) ⟨layout, n⟩ := by
  have hbar : isNameChar '|' = false := isNameChar_of_mem_dividers (by decide)
  rw [Placeholder.read, Cursor.ofText, Cursor.takeWhile_append hchars (stops_cons hbar _)]
  simp only [isEmpty_trim, hsolid, Cursor.eat?_cons]
  exact ⟨_, rfl⟩

end

/-! ## Words for types -/

namespace DataType

/-- A type is named by its keyword in any case of the letters. -/
theorem ofKeyword?_eq_some_iff {word : Text} {type : DataType} :
    ofKeyword? word = some type ↔ word.map Char.toLower = type.keyword := by
  refine find?_eqIgnoringCase_iff (fun t => ?_) (fun t u h => ?_) fun t => ?_
  · cases t <;> decide
  · have hsame := congrArg ofKeyword? h
    rw [ofKeyword?_keyword, ofKeyword?_keyword] at hsame
    exact Option.some.inj hsame
  · cases t <;> rfl

theorem isWordChar_of_mem {word : Text} {type : DataType} (h : ofKeyword? word = some type)
    {c : Char} (hc : c ∈ word) : isWordChar c = true :=
  isWordChar_of_map_toLower (fun _ => isWordChar_of_mem_keyword) (ofKeyword?_eq_some_iff.1 h) hc

/-- A word for a type is solid at both ends. -/
theorem solid_of_ofKeyword? {word : Text} {type : DataType} (h : ofKeyword? word = some type) :
    BeginsSolid word ∧ EndsSolid word := by
  have hne : word ≠ [] := by
    rintro rfl
    cases h
  have hblank : ∀ c ∈ word, isBlank c = false :=
    fun _ hc => isBlank_of_isWordChar (isWordChar_of_mem h hc)
  exact ⟨beginsSolid_of_forall hne hblank, endsSolid_of_forall hne hblank⟩

/-- No word for a type goes on after another one. -/
theorem eq_nil_of_ofKeyword?_append {word t : Text} {type other : DataType}
    (h : ofKeyword? word = some type) (happend : ofKeyword? (word ++ t) = some other) :
    t = [] := by
  have hdistinct (a b : DataType) (hbegins : a.keyword.isPrefixOf b.keyword = true) : a = b := by
    cases a <;> cases b <;> first | rfl | cases hbegins
  rw [ofKeyword?_eq_some_iff] at h happend
  rw [List.map_append, h] at happend
  have hsame := hdistinct type other (List.isPrefixOf_iff_prefix.2 ⟨_, happend⟩)
  rw [hsame, List.append_right_eq_self, List.map_eq_nil_iff] at happend
  exact happend

end DataType

/-! ## After the bar of a column -/

namespace Column

variable {defaultWidth : Nat} {column : Column}

/-- After a word for a type it is left to the layout whether a column is read. -/
theorem readFormat_word_iff {name word t : Text} {type : DataType}
    (hword : DataType.ofKeyword? word = some type) (ht : Stops isWordChar t) {n : Nat} :
    readFormat name defaultWidth ⟨word ++ t, n⟩ = .ok column ↔
      ∃ layout rest, Layout.read .word ⟨t, n + byteSize word⟩ = .ok (layout, rest) ∧
        rest.atEnd = true ∧ column = ⟨toUpper name, type, layout.width.getD defaultWidth,
          layout.alignment.getD .center, layout.unit⟩ := by
  have hchars : ∀ c ∈ word, isWordChar c = true := fun _ => DataType.isWordChar_of_mem hword
  have hbegin : BeginsSolid word := (DataType.solid_of_ofKeyword? hword).1
  rw [readFormat_eq_ok_iff, Cursor.skipBlanks_of_stops (hbegin.append t).stops,
    Cursor.takeWhile_append hchars ht, hword]
  constructor
  · intro h
    obtain ⟨other, layout, rest, hother, hlayout, hend, hcolumn⟩ := h
    cases hother
    exact ⟨layout, rest, hlayout, hend, hcolumn⟩
  · intro h
    obtain ⟨layout, rest, hlayout, hend, hcolumn⟩ := h
    exact ⟨type, layout, rest, rfl, hlayout, hend, hcolumn⟩

/-- The format of a column that is read is made of the characters of names. -/
theorem isNameChar_of_mem_format {name : Text} {c : Cursor}
    (h : readFormat name defaultWidth c = .ok column) {x : Char} (hx : x ∈ c.rest) :
    isNameChar x = true := by
  by_contra hnot
  rw [Bool.not_eq_true] at hnot
  obtain ⟨type, layout, rest, -, hlayout, hend, -⟩ := readFormat_eq_ok_iff.1 h
  have hpasses := (c.passes_skipBlanks.trans
    (c.skipBlanks.passes_takeWhile isNameChar_of_isWordChar)).trans
      (Layout.passes_read hlayout)
  have hrest := hpasses.mem hnot hx
  rw [List.isEmpty_iff.1 hend] at hrest
  cases hrest

end Column

end PlainReport
