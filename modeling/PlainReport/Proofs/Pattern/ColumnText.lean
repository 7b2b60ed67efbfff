import PlainReport.Proofs.Collected
import PlainReport.Proofs.Pattern.Definitions
import PlainReport.Proofs.Pattern.LayoutText
import PlainReport.Proofs.Text.Names

/-!
# Columns as text

A column is written as `NAME|TYPE-WIDTH-ALIGNMENT-UNIT`.  Its definition is read as
the column again, whatever the default width is (`Column.read_text`).
-/

namespace PlainReport

open Text

/-! ## Types -/

namespace DataType

theorem isWordChar_of_mem_keyword {type : DataType} {c : Char} (h : c ∈ type.keyword) :
    isWordChar c = true := by
  have hall : type.keyword.all isWordChar = true := by
    cases type with
    | int => decide +kernel
    | float => decide +kernel
    | text => decide +kernel
  exact List.all_eq_true.1 hall c h

theorem beginsSolid_keyword (type : DataType) : BeginsSolid type.keyword := by
  cases type with
  | int => exact ⟨'i', "nt", rfl, rfl⟩
  | float => exact ⟨'f', "loat", rfl, rfl⟩
  | text => exact ⟨'s', "tr", rfl, rfl⟩

theorem ofKeyword?_keyword (type : DataType) : ofKeyword? type.keyword = some type := by
  cases type with
  | int => rfl
  | float => rfl
  | text => rfl

end DataType

namespace Column

/-- The definition of the column. -/
def text (c : Column) : Text :=
  c.name ++ '|' :: (c.type.keyword ++ Layout.text c.width c.alignment c.unit)

/-- The column can be written. -/
structure Writable (c : Column) : Prop where
  /-- Its name stands for itself. -/
  name : c.name.IsName
  /-- Its width is positive. -/
  width_pos : 0 < c.width
  /-- Its width fits into 64 bits. -/
  width_lt : c.width < wordLimit
  /-- Its unit is a word or nothing. -/
  unit : ∀ x ∈ c.unit, isWordChar x = true

instance (c : Column) : Decidable c.Writable :=
  decidable_of_iff (c.name.IsName ∧ 0 < c.width ∧ c.width < wordLimit ∧
      c.unit.all isWordChar = true)
    ⟨fun h => ⟨h.1, h.2.1, h.2.2.1, List.all_eq_true.1 h.2.2.2⟩,
      fun h => ⟨h.name, h.width_pos, h.width_lt, List.all_eq_true.2 h.unit⟩⟩

namespace Writable

variable {c : Column}

theorem endsSolid_text (h : c.Writable) : EndsSolid c.text := by
  have hend : EndsSolid (c.alignment.keyword ++ Layout.unitText c.unit) := by
    cases hu : c.unit with
    | nil => exact ⟨[], c.alignment.letter, rfl, Layout.isBlank_letter c.alignment⟩
    | cons x unit =>
      have hsolid : EndsSolid (x :: unit) :=
        endsSolid_of_forall (List.cons_ne_nil x unit) fun y hy =>
          isBlank_of_isWordChar (h.unit y (hu ▸ hy))
      exact hsolid.append_left [c.alignment.letter, '-']
  have hlayout : EndsSolid (Layout.text c.width c.alignment c.unit) := by
    have := hend.append_left ('-' :: (decimal c.width ++ ['-']))
    simpa [Layout.text] using this
  have := hlayout.append_left (c.name ++ '|' :: c.type.keyword)
  simpa [text] using this

/-- Besides the bar, a definition is made of the characters of names. -/
theorem mem_text (h : c.Writable) {x : Char} (hx : x ∈ c.text) : x = '|' ∨ isNameChar x = true := by
  rw [text, List.mem_append, List.mem_cons, List.mem_append] at hx
  rcases hx with hname | rfl | hkeyword | hlayout
  · exact .inr (h.name.chars x hname)
  · exact .inl rfl
  · exact .inr (isNameChar_of_isWordChar (DataType.isWordChar_of_mem_keyword hkeyword))
  · exact .inr (Layout.isNameChar_of_mem_text h.unit hlayout)

theorem not_mem_text (h : c.Writable) {x : Char} (hx : x ∈ dividers) (hbar : x ≠ '|') :
    x ∉ c.text := by
  intro hm
  cases h.mem_text hm with
  | inl he => exact hbar he
  | inr hname =>
    rw [isNameChar_of_mem_dividers hx] at hname
    cases hname

theorem isDefinition_text (h : c.Writable) : IsDefinition c.text where
  begins := h.name.begins.append _
  ends := h.endsSolid_text
  semicolon := h.not_mem_text (by decide) (by decide)
  numberSign := h.not_mem_text (by decide) (by decide)

end Writable

/-- A column is read as it was written. -/
theorem read_text {c : Column} (h : c.Writable) {definition : Text}
    (hd : trim definition = c.text) (defaultWidth : Nat) :
    read definition defaultWidth = .ok c := by
  have hbar : isNameChar '|' = false := isNameChar_of_mem_dividers (by decide)
  rw [read, hd, text, Cursor.ofText, Cursor.takeWhile_append h.name.chars (stops_cons hbar _)]
  simp only [h.name.trim_eq, h.name.isEmpty_eq, Cursor.eat?_cons]
  show readFormat c.name defaultWidth ⟨_, _⟩ = .ok c
  have hhyphen : isWordChar '-' = false := by decide +kernel
  have hlayout : Stops isWordChar (Layout.text c.width c.alignment c.unit) := stops_cons hhyphen _
  obtain ⟨m, hm⟩ := Layout.read_text h.width_pos h.width_lt c.alignment h.unit
    (0 + byteSize c.name + '|'.utf8Size + byteSize c.type.keyword)
  rw [readFormat, Cursor.skipBlanks_of_stops (c.type.beginsSolid_keyword.append _).stops,
    Cursor.takeWhile_append (fun _ => DataType.isWordChar_of_mem_keyword) hlayout]
  simp only [DataType.ofKeyword?_keyword, hm, h.name.upper_eq, Option.getD_some]
  rfl

/-- The name of a column that is found stands for itself. -/
theorem isName_of_find? {schema : Schema} (hcolumns : ∀ c ∈ schema.entries, c.Writable)
    {name : Text} {c : Column} (h : schema.find? name = some c) : name.IsName := by
  have hname := (hcolumns c (Keyed.mem_of_find? h)).name
  rwa [Keyed.key_of_find? h] at hname

end Column

end PlainReport
