import PlainReport.Proofs.Pattern.ConditionText

/-!
# The grammar of conditions

A condition is defined by a name, the sign of a comparison, blanks and a literal, one after
the other.  A text is such a definition exactly when it is read, it has these parts in one
way only, and the condition that is read is made of them (`read_iff_conditionParts`).

The classes of neighbouring parts have nothing in common at their borders: no sign
stands in a name, and neither a blank nor a word character is part of a sign.  So taking
the longest run at each step loses no definition, and the text determines the parts
(`ConditionParts.text_injective`).
-/

namespace PlainReport

open Text

theorem WrittenCondition.mem_dividers_of_isSignChar {c : Char} (h : isSignChar c = true) :
    c ∈ dividers := by
  simp only [isSignChar, Bool.or_eq_true, beq_iff_eq] at h
  rcases h with ((rfl | rfl) | rfl) | rfl <;> decide

/-- No character of a name is part of the sign of a comparison. -/
theorem WrittenCondition.isSignChar_of_isNameChar {c : Char} (h : isNameChar c = true) :
    isSignChar c = false := by
  rw [← Bool.not_eq_true]
  intro hsign
  rw [isNameChar_of_mem_dividers (mem_dividers_of_isSignChar hsign)] at h
  cases h

theorem Comparison.keyword_of_ofKeyword? {sign : Text} {comparison : Comparison}
    (h : ofKeyword? sign = some comparison) : comparison.keyword = sign := by
  simpa using List.find?_some h

/-! ## Parts -/

/-- The parts of the definition of a condition. -/
@[ext]
structure ConditionParts where
  /-- The name of the field. -/
  name : Text
  /-- The comparison, which is written by its sign. -/
  comparison : Comparison
  /-- The blanks after the sign. -/
  gap : Text
  /-- The literal. -/
  literal : Text
  /-- The name is made of the characters of names. -/
  name_chars : ∀ c ∈ name, isNameChar c = true
  /-- The name is not blank. -/
  name_solid : isAllBlank name = false
  /-- The gap is blank. -/
  gap_blank : ∀ c ∈ gap, isBlank c = true
  /-- The literal begins with a word character. -/
  literal_begins : literal.head?.any isWordChar = true
  /-- The literal is made of word characters, blanks, hyphens and points. -/
  literal_chars : ∀ c ∈ literal, (isWordChar c || isBlank c || c == '-' || c == '.') = true

namespace ConditionParts

/-- The parts one after the other. -/
def text (p : ConditionParts) : Text :=
  p.name ++ (p.comparison.keyword ++ (p.gap ++ p.literal))

/-- The condition that is made of the parts. -/
def condition (p : ConditionParts) : WrittenCondition :=
  ⟨toUpper (trim p.name), p.comparison, trimEnd p.literal⟩

variable (p : ConditionParts)

theorem isWordChar_of_mem_head? {c : Char} (h : c ∈ p.literal.head?) : isWordChar c = true := by
  have hbegins := p.literal_begins
  rw [Option.mem_def.1 h] at hbegins
  exact hbegins

/-! ## Borders -/

theorem stops_sign : Stops isNameChar (p.comparison.keyword ++ (p.gap ++ p.literal)) := by
  obtain ⟨x, rest, hkeyword, hx⟩ := p.comparison.keyword_eq_cons
  rw [hkeyword]
  exact stops_cons (isNameChar_of_mem_dividers hx) _

theorem stops_gap : Stops WrittenCondition.isSignChar (p.gap ++ p.literal) := by
  refine (stops_of_forall fun c hc => ?_).append fun c hc => ?_
  · exact WrittenCondition.isSignChar_of_isNameChar (isNameChar_of_isBlank (p.gap_blank c hc))
  · have hword := p.isWordChar_of_mem_head? hc
    exact WrittenCondition.isSignChar_of_isNameChar (isNameChar_of_isWordChar hword)

theorem stops_literal : Stops isBlank p.literal :=
  fun _ hc => isBlank_of_isWordChar (p.isWordChar_of_mem_head? hc)

/-- A text has parts in one way only. -/
theorem text_injective : Function.Injective text := by
  intro p q h
  obtain ⟨hname, hafter⟩ :=
    append_inj_of_stops p.name_chars q.name_chars p.stops_sign q.stops_sign h
  obtain ⟨hsign, hrest⟩ := append_inj_of_stops (fun _ => Comparison.isSignChar_of_mem_keyword)
    (fun _ => Comparison.isSignChar_of_mem_keyword) p.stops_gap q.stops_gap hafter
  obtain ⟨hgap, hliteral⟩ :=
    append_inj_of_stops p.gap_blank q.gap_blank p.stops_literal q.stops_literal hrest
  have hcomparison : p.comparison = q.comparison := by
    have hsame := congrArg Comparison.ofKeyword? hsign
    rw [Comparison.ofKeyword?_keyword, Comparison.ofKeyword?_keyword] at hsame
    exact Option.some.inj hsame
  exact ConditionParts.ext hname hcomparison hgap hliteral

end ConditionParts

/-! ## Reading -/

namespace WrittenCondition

theorem readLiteral_parts (p : ConditionParts) (definition : Text) (n : Nat) :
    readLiteral definition ⟨p.gap ++ p.literal, n⟩ = .ok (trimEnd p.literal) := by
  have hpeek : (Cursor.mk p.literal (n + byteSize p.gap)).peek?.any isWordChar = true :=
    p.literal_begins
  have hchars : ∀ c ∈ p.literal, isLiteralChar c = true := p.literal_chars
  rw [readLiteral, Cursor.skipBlanks_append p.gap_blank p.stops_literal]
  simp only [hpeek, if_true, Cursor.takeWhile_all hchars]
  rfl

/-- A text that has parts is read as the condition that is made of them. -/
theorem read_parts (p : ConditionParts) {definition : Text} (hd : p.text = trim definition) :
    read definition = .ok p.condition := by
  rw [read, ← hd, ConditionParts.text, Cursor.ofText,
    Cursor.takeWhile_append p.name_chars p.stops_sign]
  simp only [isEmpty_trim, p.name_solid]
  rw [Cursor.takeWhile_append (fun _ => Comparison.isSignChar_of_mem_keyword) p.stops_gap]
  simp only [Comparison.ofKeyword?_keyword, readLiteral_parts]
  rfl

/-- A literal that is read comes after blanks and is all that is left. -/
theorem readLiteral_eq_ok {definition literal : Text} {c : Cursor}
    (h : readLiteral definition c = .ok literal) :
    ∃ gap run, c.rest = gap ++ run ∧ (∀ x ∈ gap, isBlank x = true) ∧
      run.head?.any isWordChar = true ∧ ∀ x ∈ run, isLiteralChar x = true := by
  obtain ⟨gap, hgap, hrest, -⟩ := c.skipBlanks_divides
  unfold readLiteral at h
  dsimp only at h
  split at h
  · next hword =>
    split at h
    · next hend =>
      obtain ⟨hrun, hchars, -⟩ := c.skipBlanks.takeWhile_divides isLiteralChar
      rw [List.isEmpty_iff.1 hend, List.append_nil] at hrun
      rw [← hrun] at hchars
      exact ⟨gap, _, hrest, hgap, hword, hchars⟩
    · cases h
  · cases h

/-- A definition that is read has parts. -/
theorem exists_parts_of_read {definition : Text} {c : WrittenCondition}
    (h : read definition = .ok c) : ∃ p : ConditionParts, p.text = trim definition := by
  let start := Cursor.ofText (trim definition)
  obtain ⟨hname, hchars, -⟩ := start.takeWhile_divides isNameChar
  obtain ⟨hsign, -, -⟩ := (start.takeWhile isNameChar).2.takeWhile_divides isSignChar
  unfold read at h
  dsimp only at h
  split at h
  · cases h
  · next hsolid =>
    rw [isEmpty_trim, Bool.not_eq_true] at hsolid
    split at h
    · cases h
    · next comparison hcomparison =>
      cases hliteral : readLiteral definition
          ((start.takeWhile isNameChar).2.takeWhile isSignChar).2 with
      | error fault =>
        rw [hliteral] at h
        cases h
      | ok literal =>
        obtain ⟨gap, run, hrest, hgap, hbegins, hrun⟩ := readLiteral_eq_ok hliteral
        refine ⟨⟨_, comparison, gap, run, hchars, hsolid, hgap, hbegins, hrun⟩, ?_⟩
        rw [hrest, ← Comparison.keyword_of_ofKeyword? hcomparison] at hsign
        rw [ConditionParts.text, ← hsign, ← hname]
        rfl

/-- A definition is read as a condition if and only if it has the parts of one.  It has
them in one way only, and the condition is made of them. -/
theorem read_iff_conditionParts (definition : Text) :
    ((∃ c, read definition = .ok c) ↔ ∃! p : ConditionParts, p.text = trim definition) ∧
      ∀ c, read definition = .ok c ↔
        ∃ p : ConditionParts, p.text = trim definition ∧ p.condition = c :=
  read_iff_of_parts ConditionParts.text_injective (fun p => read_parts p)
    fun _ => exists_parts_of_read

/-- Hyphens, commas and blanks in the name, and a literal that ends in a hyphen. -/
example : read " net - 2,\tx>=7 .a- " = .ok ⟨"NET - 2,\tX", .greaterOrEqual, "7 .a-"⟩ := by
  decide +kernel

end WrittenCondition

end PlainReport
