import PlainReport.Proofs.Pattern.GroupText
import PlainReport.Proofs.Text.Keywords

/-!
# The grammar of groupings

A grouping is defined by `fields|`, the fields, `data|`, the function, blanks, a semicolon
and the target, one after the other.  A text is such a definition exactly when it is read,
it has these parts in one way only, and the grouping that is read is made of them
(`read_iff_groupParts`).

The word `data` may stand in a field, but a bar stands in no part.  So the bar of the last
`data|` is the only one after the first word, and it divides the fields from the rest
wherever the definition has parts at all (`GroupParts.cutLast?_fields`).
-/

namespace PlainReport

open Text

/-! ## The function -/

namespace Aggregate

/-- A function is named by its keyword in any case of the letters. -/
theorem ofKeyword?_eq_some_iff {word : Text} {function : Aggregate} :
    ofKeyword? word = some function ↔ word.map Char.toLower = function.keyword := by
  refine find?_eqIgnoringCase_iff (fun f => ?_) (fun f g h => ?_) fun f => ?_
  · cases f <;> decide
  · have hsame := congrArg ofKeyword? h
    rw [ofKeyword?_keyword, ofKeyword?_keyword] at hsame
    exact Option.some.inj hsame
  · cases f <;> rfl

theorem isWordChar_of_mem {word : Text} {function : Aggregate}
    (h : word.map Char.toLower = function.keyword) {c : Char} (hc : c ∈ word) :
    isWordChar c = true :=
  isWordChar_of_map_toLower (fun _ => isWordChar_of_mem_keyword) h hc

end Aggregate

/-! ## Parts -/

/-- The parts of the definition of a grouping. -/
@[ext]
structure GroupParts where
  /-- The fields with semicolons and blanks between them. -/
  fields : Text
  /-- The function as it is written. -/
  word : Text
  /-- The function. -/
  aggregate : Aggregate
  /-- The blanks after the function. -/
  gap : Text
  /-- The target. -/
  target : Text
  /-- The fields are made of word characters, semicolons and blanks. -/
  fields_chars : ∀ c ∈ fields, (isWordChar c || c == ';' || isBlank c) = true
  /-- One of the fields is not blank. -/
  fields_solid : ∃ field ∈ pieces ';' fields, isAllBlank field = false
  /-- The function is written in any case of its letters. -/
  word_eq : word.map Char.toLower = aggregate.keyword
  /-- The gap is blank. -/
  gap_blank : ∀ c ∈ gap, isBlank c = true
  /-- The target is made of the characters of names. -/
  target_chars : ∀ c ∈ target, isNameChar c = true
  /-- The target is not blank. -/
  target_solid : isAllBlank target = false

namespace GroupParts

/-- The parts after the second keyword. -/
def dataText (p : GroupParts) : Text := p.word ++ (p.gap ++ ';' :: p.target)

/-- The parts one after the other. -/
def text (p : GroupParts) : Text := "fields|" ++ (p.fields ++ "data|" ++ p.dataText)

/-- The grouping that is made of the parts.  The blank fields are left out. -/
def grouping (p : GroupParts) : Grouping :=
  ⟨((pieces ';' p.fields).filter (!isAllBlank ·)).map fun field => toUpper (trim field),
    p.aggregate, toUpper (trim p.target)⟩

variable (p : GroupParts)

/-! ## Borders -/

theorem bar_not_mem_fields : '|' ∉ p.fields :=
  not_mem_of_class p.fields_chars (by decide +kernel)

theorem bar_not_mem_dataText : '|' ∉ p.dataText := by
  have hword : '|' ∉ p.word :=
    not_mem_of_class (fun _ => Aggregate.isWordChar_of_mem p.word_eq) (by decide +kernel)
  have hgap : '|' ∉ p.gap := not_mem_of_class p.gap_blank (by decide)
  have htarget : '|' ∉ p.target := not_mem_of_class p.target_chars (by decide +kernel)
  simp [dataText, hword, hgap, htarget]

theorem stops_gap : Stops isWordChar (p.gap ++ ';' :: p.target) := by
  have hsep : isWordChar ';' = false := isWordChar_of_mem_dividers (by decide)
  have hgap := stops_of_forall fun c hc => isWordChar_of_isBlank (p.gap_blank c hc)
  exact hgap.append (stops_cons hsep _)

theorem stops_semicolon : Stops isBlank (';' :: p.target) := stops_cons (by decide) _

/-- The second keyword is found behind the fields, whatever words stand in them. -/
theorem cutLast?_fields :
    cutLast? "data|" (p.fields ++ "data|" ++ p.dataText) = some (p.fields, p.dataText) := by
  have hword : ("data|" : Text) = ['d', 'a', 't', 'a'] ++ ['|'] := rfl
  rw [hword]
  exact cutLast?_of_once p.bar_not_mem_fields (by decide) p.bar_not_mem_dataText

/-- A text has parts in one way only. -/
theorem text_injective : Function.Injective text := by
  intro p q h
  have hcut := congrArg (cutLast? "data|") (List.append_cancel_left h)
  rw [p.cutLast?_fields, q.cutLast?_fields] at hcut
  obtain ⟨hfields, hdata⟩ := Prod.mk.inj (Option.some.inj hcut)
  obtain ⟨hword, hafter⟩ := append_inj_of_stops (fun _ => Aggregate.isWordChar_of_mem p.word_eq)
    (fun _ => Aggregate.isWordChar_of_mem q.word_eq) p.stops_gap q.stops_gap hdata
  obtain ⟨hgap, hsep⟩ := append_inj_of_stops p.gap_blank q.gap_blank p.stops_semicolon
    q.stops_semicolon hafter
  have haggregate : p.aggregate = q.aggregate := by
    have hp := Aggregate.ofKeyword?_eq_some_iff.2 p.word_eq
    have hq := Aggregate.ofKeyword?_eq_some_iff.2 q.word_eq
    rw [hword, hq] at hp
    exact Option.some.inj hp.symm
  exact GroupParts.ext hfields hword haggregate hgap (List.cons.inj hsep).2

end GroupParts

/-! ## Reading -/

namespace Grouping

/-- The fields are those of the parts that are not blank. -/
theorem fieldsOf_eq (part : Text) : fieldsOf part =
    ((pieces ';' part).filter (!isAllBlank ·)).map fun field => toUpper (trim field) := by
  rw [fieldsOf, List.filter_map, List.map_map]
  exact congrArg _ (List.filter_congr fun field _ => congrArg not (isEmpty_trim field))

/-- There is a field if and only if a part between semicolons is not blank. -/
theorem isEmpty_fieldsOf_iff {part : Text} :
    (fieldsOf part).isEmpty = false ↔ ∃ field ∈ pieces ';' part, isAllBlank field = false := by
  rw [List.isEmpty_eq_false_iff, fieldsOf_eq, ne_eq, List.map_eq_nil_iff, List.filter_eq_nil_iff]
  simp

theorem readData_parts (p : GroupParts) (definition : Text) (fields : List Text) :
    readData definition fields p.dataText = .ok ⟨fields, p.aggregate, toUpper (trim p.target)⟩ := by
  rw [readData, GroupParts.dataText, Cursor.ofText,
    Cursor.takeWhile_append (fun _ => Aggregate.isWordChar_of_mem p.word_eq) p.stops_gap]
  simp only [Aggregate.ofKeyword?_eq_some_iff.2 p.word_eq]
  rw [Cursor.skipBlanks_append p.gap_blank p.stops_semicolon, Cursor.eat?_cons]
  simp only [Cursor.takeWhile_all p.target_chars, isEmpty_trim, p.target_solid]
  rfl

/-- A text that has parts is read as the grouping that is made of them. -/
theorem read_parts (p : GroupParts) {definition : Text} (hd : p.text = trim definition) :
    read definition = .ok p.grouping := by
  have hchars : p.fields.all isFieldsChar = true := List.all_eq_true.2 p.fields_chars
  have hsome := isEmpty_fieldsOf_iff.2 p.fields_solid
  unfold read
  rw [← hd]
  unfold GroupParts.text
  simp only [Cursor.ofText, Cursor.eatText?_append, p.cutLast?_fields, hchars, hsome]
  rw [GroupParts.grouping, ← fieldsOf_eq]
  exact readData_parts p definition (fieldsOf p.fields)

/-- The second part of a definition that is read has a function and a target. -/
theorem readData_eq_ok {definition part : Text} {fields : List Text} {g : Grouping}
    (h : readData definition fields part = .ok g) :
    ∃ word aggregate gap target, part = word ++ (gap ++ ';' :: target) ∧
      Aggregate.ofKeyword? word = some aggregate ∧ (∀ c ∈ gap, isBlank c = true) ∧
      (∀ c ∈ target, isNameChar c = true) ∧ isAllBlank target = false := by
  let afterWord := ((Cursor.ofText part).takeWhile isWordChar).2
  obtain ⟨hword, -, -⟩ := (Cursor.ofText part).takeWhile_divides isWordChar
  obtain ⟨gap, hgap, hrest, -⟩ := afterWord.skipBlanks_divides
  unfold readData at h
  dsimp only at h
  split at h
  · cases h
  · next aggregate hfunction =>
    split at h
    · cases h
    · next c hsep =>
      obtain ⟨hrun, hchars, -⟩ := c.takeWhile_divides isNameChar
      split at h
      · cases h
      · next hwhole =>
        rw [Bool.or_eq_true, not_or, isEmpty_trim, Bool.not_eq_true, Bool.not_eq_true',
          Bool.not_eq_false] at hwhole
        obtain ⟨hsolid, hend⟩ := hwhole
        rw [List.isEmpty_iff.1 hend, List.append_nil] at hrun
        rw [← hrun] at hchars hsolid
        refine ⟨_, aggregate, gap, c.rest, ?_, hfunction, hgap, hchars, hsolid⟩
        rw [← Cursor.rest_of_eat? hsep, ← hrest]
        exact hword

/-- A definition that is read has parts. -/
theorem exists_parts_of_read {definition : Text} {g : Grouping} (h : read definition = .ok g) :
    ∃ p : GroupParts, p.text = trim definition := by
  unfold read at h
  split at h
  · cases h
  · next c heat =>
    split at h
    · cases h
    · next part data hcut =>
      split at h
      · cases h
      · next hchars =>
        split at h
        · cases h
        · next hsome =>
          obtain ⟨word, aggregate, gap, target, hdata, hfunction, hgap, htarget, hsolid⟩ :=
            readData_eq_ok h
          rw [Bool.not_eq_true', Bool.not_eq_false, List.all_eq_true] at hchars
          rw [Bool.not_eq_true] at hsome
          refine ⟨⟨part, word, aggregate, gap, target, hchars, isEmpty_fieldsOf_iff.1 hsome,
            Aggregate.ofKeyword?_eq_some_iff.1 hfunction, hgap, htarget, hsolid⟩, ?_⟩
          unfold GroupParts.text
          rw [GroupParts.dataText, ← hdata, ← cutLast?_eq hcut]
          exact (Cursor.rest_of_eatText? heat).symm

/-- A definition is read as a grouping if and only if it has the parts of one.  It has them
in one way only, and the grouping is made of them. -/
theorem read_iff_groupParts (definition : Text) :
    ((∃ g, read definition = .ok g) ↔ ∃! p : GroupParts, p.text = trim definition) ∧
      ∀ g, read definition = .ok g ↔
        ∃ p : GroupParts, p.text = trim definition ∧ p.grouping = g :=
  read_iff_of_parts GroupParts.text_injective (fun p => read_parts p)
    fun _ => exists_parts_of_read

/-- The word `data` is a field and an ending of another one, and some fields are blank. -/
example : read "fields|; data;my data;;data|Avg ;net, x" =
    .ok ⟨["DATA", "MY DATA"], .average, "NET, X"⟩ := by
  decide +kernel

end Grouping

end PlainReport
