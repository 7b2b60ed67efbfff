import PlainReport.Proofs.Pattern.ColumnText

/-!
# Conditions as text

A condition is written as `FIELD SIGN LITERAL`.  One value has many literals, so the
literal is given beside the condition and must be cast to its value.  The definition
is then read as the condition again (`TablePattern.readCondition_text`).
-/

namespace PlainReport

open Text

namespace Comparison

theorem isSignChar_of_mem_keyword {comparison : Comparison} {c : Char}
    (h : c ∈ comparison.keyword) : WrittenCondition.isSignChar c = true := by
  have hall : comparison.keyword.all WrittenCondition.isSignChar = true := by
    cases comparison with
    | equal => rfl
    | notEqual => rfl
    | greater => rfl
    | less => rfl
    | greaterOrEqual => rfl
    | lessOrEqual => rfl
  exact List.all_eq_true.1 hall c h

/-- The sign begins with a character that divides definitions. -/
theorem keyword_eq_cons (comparison : Comparison) :
    ∃ x rest, comparison.keyword = x :: rest ∧ x ∈ dividers := by
  cases comparison with
  | equal => exact ⟨'=', [], rfl, by decide⟩
  | notEqual => exact ⟨'!', ['='], rfl, by decide⟩
  | greater => exact ⟨'>', [], rfl, by decide⟩
  | less => exact ⟨'<', [], rfl, by decide⟩
  | greaterOrEqual => exact ⟨'>', ['='], rfl, by decide⟩
  | lessOrEqual => exact ⟨'<', ['='], rfl, by decide⟩

theorem ofKeyword?_keyword (comparison : Comparison) :
    ofKeyword? comparison.keyword = some comparison := by
  cases comparison with
  | equal => rfl
  | notEqual => rfl
  | greater => rfl
  | less => rfl
  | greaterOrEqual => rfl
  | lessOrEqual => rfl

end Comparison

namespace Condition

/-- The definition of the condition, with its value written as a given literal. -/
def text (c : Condition) (literal : Text) : Text :=
  c.field ++ ' ' :: (c.comparison.keyword ++ ' ' :: literal)

/-- The literal stands for the value of the condition. -/
structure Spelled (schema : Schema) (c : Condition) (literal : Text) : Prop where
  /-- The field is a column, and the literal is cast to the value in its type. -/
  cast : ∃ column, schema.find? c.field = some column ∧ column.type.cast literal = .ok c.value
  /-- It begins with a word character. -/
  begins : literal.head?.any isWordChar = true
  /-- It is made of word characters, blanks, hyphens and points. -/
  chars : ∀ x ∈ literal, WrittenCondition.isLiteralChar x = true
  /-- It does not end in a blank. -/
  ends : EndsSolid literal

namespace Spelled

variable {schema : Schema} {c : Condition} {literal : Text}

theorem isName_field (h : c.Spelled schema literal)
    (hcolumns : ∀ column ∈ schema.entries, column.Writable) : c.field.IsName := by
  obtain ⟨column, hfind, -⟩ := h.cast
  exact Column.isName_of_find? hcolumns hfind

/-- A character between definitions stands in one only as part of the sign. -/
theorem not_mem_text (h : c.Spelled schema literal) (hname : c.field.IsName) {x : Char}
    (hx : x ∈ dividers) (hsign : WrittenCondition.isSignChar x = false) : x ∉ c.text literal := by
  have hspace := ne_space_of_mem_dividers hx
  have hall : dividers.all (!WrittenCondition.isLiteralChar ·) = true := by decide +kernel
  have hnot : WrittenCondition.isLiteralChar x = false := by
    rw [← Bool.not_eq_true']
    exact List.all_eq_true.1 hall x hx
  have hfield := hname.not_mem hx
  have hkeyword : x ∉ c.comparison.keyword :=
    not_mem_of_class (fun _ => Comparison.isSignChar_of_mem_keyword) hsign
  have hliteral : x ∉ literal := not_mem_of_class h.chars hnot
  simp [text, hfield, hspace, hkeyword, hliteral]

theorem isDefinition_text (h : c.Spelled schema literal) (hname : c.field.IsName) :
    IsDefinition (c.text literal) where
  begins := hname.begins.append _
  ends := by
    have := h.ends.append_left (c.field ++ ' ' :: (c.comparison.keyword ++ [' ']))
    simpa [text] using this
  semicolon := h.not_mem_text hname (by decide) (by decide)
  numberSign := h.not_mem_text hname (by decide) (by decide)

end Spelled

end Condition

/-! ## Reading -/

namespace WrittenCondition

theorem readLiteral_space (definition : Text) {schema : Schema} {c : Condition} {literal : Text}
    (h : c.Spelled schema literal) (n : Nat) :
    readLiteral definition ⟨' ' :: literal, n⟩ = .ok literal := by
  have hpeek : (Cursor.mk literal (n + 1)).peek?.any isWordChar = true := h.begins
  have hstop : Stops isBlank literal := by
    intro x hx
    have hword : (some x).any isWordChar = true := Option.mem_def.1 hx ▸ h.begins
    exact isBlank_of_isWordChar hword
  rw [readLiteral, Cursor.skipBlanks_space hstop]
  simp only [hpeek, if_true, Cursor.takeWhile_all h.chars, trimEnd_of_endsSolid h.ends]
  rfl

/-- After a name and a sign it is left to the literal whether a condition is read. -/
theorem read_of_label {name : Text} (hname : name.IsLabel) (comparison : Comparison)
    (literal : Text) {definition : Text}
    (hd : trim definition = name ++ ' ' :: (comparison.keyword ++ ' ' :: literal)) :
    ∃ n, read definition = (readLiteral definition ⟨' ' :: literal, n⟩).map
      fun literal => ⟨toUpper name, comparison, literal⟩ := by
  have hspace : isNameChar ' ' = true := isNameChar_of_isBlank rfl
  have hfield : ∀ x ∈ name ++ [' '], isNameChar x = true := by
    intro x hx
    cases List.mem_append.1 hx with
    | inl hm => exact hname.chars x hm
    | inr hm => exact List.mem_singleton.1 hm ▸ hspace
  have htrim : trim (name ++ [' ']) = name :=
    trim_padded (a := []) nofun (List.forall_mem_singleton.2 rfl) hname.begins hname.ends
  have htext : name ++ ' ' :: (comparison.keyword ++ ' ' :: literal) =
      (name ++ [' ']) ++ (comparison.keyword ++ ' ' :: literal) := by simp
  have hsign : Stops isNameChar (comparison.keyword ++ ' ' :: literal) := by
    obtain ⟨x, rest, hkeyword, hx⟩ := comparison.keyword_eq_cons
    rw [hkeyword]
    exact stops_cons (isNameChar_of_mem_dividers hx) _
  rw [read, hd, htext, Cursor.ofText, Cursor.takeWhile_append hfield hsign]
  simp only [htrim, hname.isEmpty_eq]
  rw [Cursor.takeWhile_append (fun _ => Comparison.isSignChar_of_mem_keyword)
    (stops_cons (by decide) literal)]
  simp only [Comparison.ofKeyword?_keyword]
  exact ⟨_, rfl⟩

/-- A condition is read as it was written, and its value is the literal. -/
theorem read_text {schema : Schema} {c : Condition} {literal : Text}
    (h : c.Spelled schema literal) (hname : c.field.IsName) {definition : Text}
    (hd : trim definition = c.text literal) :
    read definition = .ok ⟨c.field, c.comparison, literal⟩ := by
  obtain ⟨n, hread⟩ := read_of_label hname.toIsLabel c.comparison literal hd
  rw [hread, readLiteral_space definition h, hname.upper_eq]
  rfl

end WrittenCondition

/-- A condition is read from its definition with the value of its literal. -/
theorem TablePattern.readCondition_text {schema : Schema} {c : Condition} {literal : Text}
    (h : c.Spelled schema literal) (hname : c.field.IsName) {definition : Text}
    (hd : trim definition = c.text literal) : readCondition schema definition = .ok c := by
  obtain ⟨column, hfind, hcast⟩ := h.cast
  rw [readCondition, WrittenCondition.read_text h hname hd]
  simp only [hfind, hcast]

end PlainReport
