import PlainReport.Pattern.Fields
import PlainReport.Proofs.Collected
import PlainReport.Proofs.Text.Names
import PlainReport.Proofs.Text.Scanning

/-!
# Fields as text

A segment is read as a field if it is a name, the separator and a value, with any blanks
around the name and the value (`Field.read_iff_isRead`).

A field of definitions is written as `name: value`, and a block of fields with a
number sign between each two.  Reading a block gives its fields with their names in
capitals, and no segment is reported (`Fields.ofText_join`).
-/

namespace PlainReport

open Text

namespace Field

/-! ## What a segment is read as -/

/-- The value that is read from the text after the separator. -/
inductive ValueIn : FieldSyntax → Text → Text → Prop
  /-- An assignment takes the longest run of the characters of names, if it is not blank. -/
  | assignment {run rest : Text} (hrun : ∀ c ∈ run, isNameChar c = true)
      (hrest : Stops isNameChar rest) (hne : trim run ≠ []) :
      ValueIn .assignment (run ++ rest) (trim run)
  /-- A definition takes all of the text. -/
  | definition (after : Text) : ValueIn .definition after (trim after)

/-- The field that is read from a segment: a name, the separator and a value. -/
inductive IsRead (form : FieldSyntax) : Text → Field → Prop
  | parts {name after value : Text} (hchars : ∀ c ∈ name, isNameChar c = true)
      (hname : trim name ≠ []) (hvalue : ValueIn form after value) :
      IsRead form (name ++ form.separator :: after) ⟨toUpper (trim name), value⟩

/-- The blanks before a run of the characters of names belong to it. -/
theorem exists_run (c : Cursor) : ∃ run rest, c.rest = run ++ rest ∧
    (∀ x ∈ run, isNameChar x = true) ∧ Stops isNameChar rest ∧
      trim (c.skipBlanks.takeWhile isNameChar).1 = trim run := by
  obtain ⟨b, hblank, hskip, -⟩ := c.skipBlanks_divides
  obtain ⟨htake, hchars, hstops⟩ := c.skipBlanks.takeWhile_divides isNameChar
  refine ⟨b ++ (c.skipBlanks.takeWhile isNameChar).1, _, ?_, ?_, hstops, ?_⟩
  · rw [List.append_assoc, ← htake, hskip]
  · intro x hx
    exact (List.mem_append.1 hx).elim (fun hb => isNameChar_of_isBlank (hblank x hb)) (hchars x)
  · exact (trim_append_of_blanks hblank _).symm

theorem readValue?_eq_some_iff {form : FieldSyntax} {c : Cursor} {value : Text} :
    readValue? form c = some value ↔ ValueIn form c.rest value := by
  cases form with
  | definition =>
    constructor
    · intro h
      cases h
      exact .definition c.rest
    · intro h
      cases h
      rfl
  | assignment =>
    obtain ⟨run, rest, hrest, hrun, hstops, htrim⟩ := exists_run c
    simp only [readValue?, htrim, Option.ite_none_left_eq_some, Option.some.injEq,
      List.isEmpty_iff]
    rw [hrest]
    constructor
    · rintro ⟨hne, rfl⟩
      exact .assignment hrun hstops hne
    · generalize htext : run ++ rest = text
      intro h
      cases h with
      | assignment hrun' hstops' hne =>
        obtain ⟨rfl, -⟩ := append_inj_of_stops hrun hrun' hstops hstops' htext
        exact ⟨hne, rfl⟩

/-- A segment is read as what its parts make up, and only as this. -/
theorem read_iff_isRead {form : FieldSyntax} {segment : Text} {field : Field} :
    Field.read form segment = .ok field ↔ IsRead form segment field := by
  constructor
  · intro h
    unfold Field.read at h
    dsimp only at h
    split at h
    · cases h
    · next hname =>
      split at h
      · cases h
      · next c hsign =>
        split at h
        · cases h
        · next value hvalue =>
          cases h
          obtain ⟨hsegment, hchars, -⟩ := (Cursor.ofText segment).takeWhile_divides isNameChar
          rw [Cursor.rest_of_eat? hsign] at hsegment
          have hparts : IsRead form _ _ := .parts hchars (mt List.isEmpty_iff.2 hname)
            (readValue?_eq_some_iff.1 hvalue)
          rwa [← hsegment] at hparts
  · intro h
    cases h with
    | parts hchars hname hvalue =>
      have hsign : isNameChar form.separator = false :=
        isNameChar_of_mem_dividers (by cases form <;> decide)
      have hempty := List.isEmpty_eq_false_iff.2 hname
      rw [Field.read, Cursor.ofText, Cursor.takeWhile_append hchars (stops_cons hsign _)]
      simp only [hempty, Cursor.eat?_cons, Bool.false_eq_true, if_false]
      rw [readValue?_eq_some_iff.2 hvalue]

/-- A blank segment is no field. -/
theorem toOption_read_of_blank {form : FieldSyntax} {segment : Text}
    (h : isAllBlank segment = true) : (Field.read form segment).toOption = none := by
  cases hread : Field.read form segment with
  | error fault => rfl
  | ok field =>
    -- the separator would be blank
    cases read_iff_isRead.1 hread with
    | parts hchars hname hvalue =>
      have hsign := List.all_eq_true.1 h form.separator (by simp)
      cases form <;> cases hsign

/-! ## Writing -/

/-- The field as a segment. -/
def text (f : Field) : Text := f.name ++ ':' :: ' ' :: f.value

/-- The field with its name in capitals. -/
def capital (f : Field) : Field := ⟨toUpper f.name, f.value⟩

/-- The field can be written. -/
structure Writable (f : Field) : Prop where
  /-- Its name is a label. -/
  name : f.name.IsLabel
  /-- Its value has no blanks at its ends. -/
  trim_value : trim f.value = f.value
  /-- Its value has no number sign. -/
  value : '#' ∉ f.value

/-- A value that is a label can be written. -/
theorem Writable.of_labels {f : Field} (hname : f.name.IsLabel) (hvalue : f.value.IsLabel) :
    f.Writable :=
  ⟨hname, hvalue.trim_eq, hvalue.not_mem (by decide)⟩

/-- A field is read as it was written, with its name in capitals. -/
theorem read_text {f : Field} (h : f.Writable) : read .definition f.text = .ok f.capital := by
  have hname : trim f.name ≠ [] := by
    rw [h.name.trim_eq]
    exact h.name.ne_nil
  have hparts : IsRead .definition _ _ :=
    .parts h.name.chars hname (.definition (' ' :: f.value))
  rw [h.name.trim_eq, trim_space, h.trim_value] at hparts
  exact read_iff_isRead.2 hparts

theorem numberSign_not_mem_text {f : Field} (h : f.Writable) : '#' ∉ f.text := by
  have hname := h.name.not_mem (x := '#') (by decide)
  simp [text, hname, h.value]

theorem isAllBlank_text {f : Field} (h : f.Writable) : isAllBlank f.text = false :=
  isAllBlank_of_beginsSolid (h.name.begins.append _) []

/-- The fields of names with values, without the names that have none. -/
def given (values : List (Text × Option Text)) : List Field :=
  values.filterMap fun (name, value) => value.map (Field.mk name)

theorem mem_given {values : List (Text × Option Text)} {f : Field} :
    f ∈ given values ↔ (f.name, some f.value) ∈ values := by
  rw [given, List.mem_filterMap]
  constructor
  · intro h
    obtain ⟨⟨name, value⟩, hmem, hf⟩ := h
    obtain ⟨v, rfl, rfl⟩ := Option.map_eq_some_iff.1 hf
    exact hmem
  · intro h
    exact ⟨(f.name, some f.value), h, rfl⟩

theorem given_cons (name : Text) (value : Option Text) (values : List (Text × Option Text)) :
    given ((name, value) :: values) = (value.map (Field.mk name)).toList ++ given values := by
  cases value with
  | none => rfl
  | some v => rfl

end Field

namespace Fields

theorem segments_join {fields : List Field} (hne : fields ≠ [])
    (h : ∀ f ∈ fields, f.Writable) :
    segments (join ['#'] (fields.map Field.text)) = fields.map Field.text := by
  have hpieces : pieces '#' (join ['#'] (fields.map Field.text)) = fields.map Field.text := by
    refine pieces_join (mt List.map_eq_nil_iff.1 hne) ?_
    intro t ht
    obtain ⟨f, hf, rfl⟩ := List.mem_map.1 ht
    exact Field.numberSign_not_mem_text (h f hf)
  rw [segments, hpieces, List.filter_eq_self]
  intro t ht
  obtain ⟨f, hf, rfl⟩ := List.mem_map.1 ht
  rw [Field.isAllBlank_text (h f hf)]
  rfl

theorem readInto_text {fields : List Field} (h : ∀ f ∈ fields, f.Writable) (before : Fields) :
    readInto .definition before (fields.map Field.text) =
      ⟨(fields.map Field.capital).foldl Keyed.put before, []⟩ := by
  induction fields generalizing before with
  | nil => rfl
  | cons f fields ih =>
    have hrest : ∀ g ∈ fields, g.Writable := fun g hg => h g (List.mem_cons_of_mem f hg)
    rw [List.map_cons, readInto, Field.read_text (h f List.mem_cons_self)]
    exact ih hrest (before.put f.capital)

/-- A block of fields is read as it was written. -/
theorem ofText_join {fields : List Field} (hne : fields ≠ []) (h : ∀ f ∈ fields, f.Writable) :
    ofText .definition (join ['#'] (fields.map Field.text)) =
      ⟨Keyed.ofList (fields.map Field.capital), []⟩ := by
  rw [ofText, segments_join hne h, readInto_text h Keyed.empty]
  rfl

theorem names_given_sublist (values : List (Text × Option Text)) :
    (((Field.given values).map Field.capital).map Field.name).Sublist
      (values.map (toUpper ·.1)) := by
  induction values with
  | nil => exact .slnil
  | cons first rest ih =>
    obtain ⟨name, value⟩ := first
    rw [Field.given_cons]
    cases value with
    | none => exact ih.cons (toUpper name)
    | some v => exact ih.cons_cons (toUpper name)

/-- In a block of distinct names, each name has the value that was given for it. -/
theorem value?_given {values : List (Text × Option Text)}
    (hdistinct : (values.map (toUpper ·.1)).Nodup) {name : Text} {value : Option Text}
    (h : (name, value) ∈ values) :
    value? (Keyed.ofList ((Field.given values).map Field.capital)) (toUpper name) = value := by
  have hentries := Keyed.entries_ofList (hdistinct.sublist (names_given_sublist values))
  cases value with
  | some v =>
    have hmem : Field.mk (toUpper name) v ∈ (Field.given values).map Field.capital :=
      List.mem_map.2 ⟨⟨name, v⟩, Field.mem_given.2 h, rfl⟩
    have hfind := Keyed.find?_of_mem (hentries.symm ▸ hmem)
    rw [value?, hfind]
    rfl
  | none =>
    have hfind : (Keyed.ofList ((Field.given values).map Field.capital) : Fields).find?
        (toUpper name) = none := by
      rw [Keyed.find?_eq_none_iff, Keyed.keys, hentries]
      intro hkey
      obtain ⟨f, hf, hname⟩ := List.mem_map.1 hkey
      obtain ⟨g, hg, rfl⟩ := List.mem_map.1 hf
      have hsame := List.inj_on_of_nodup_map hdistinct h (Field.mem_given.1 hg) hname.symm
      cases hsame
    rw [value?, hfind]
    rfl

end Fields

end PlainReport
