import PlainReport.Proofs.Pattern.Segments

/-!
# Blocks of written fields

A field is written as its name, the separator and its value, with any blanks around each of the
three.  A segment that is written so is read as its field (`WrittenField.isRead`).

Reading goes along with joining.  The fields of what stands after a number sign are laid over
those of what stands before it, and the notices follow one another (`Fields.ofText_append`).
So in a block of written fields, blanks and other segments, the names come in the order in
which they are first written, each with the value that is written last
(`Fields.ofText_composes_and_reads_back`).
-/

namespace PlainReport

open Text

/-- A field as it can be written, with the blanks around its parts. -/
structure WrittenField (form : FieldSyntax) where
  /-- The name and the value. -/
  field : Field
  /-- The blanks before the name. -/
  start : Text
  /-- The blanks between the name and the separator. -/
  beforeSign : Text
  /-- The blanks between the separator and the value. -/
  afterSign : Text
  /-- The blanks after the value. -/
  finish : Text
  /-- The name is a label, and the value has neither blanks at its ends nor a number sign. -/
  writable : field.Writable
  /-- The value of an assignment is a label too. -/
  value_label : form = .assignment → field.value.IsLabel
  start_blank : ∀ c ∈ start, isBlank c = true
  beforeSign_blank : ∀ c ∈ beforeSign, isBlank c = true
  afterSign_blank : ∀ c ∈ afterSign, isBlank c = true
  finish_blank : ∀ c ∈ finish, isBlank c = true

namespace WrittenField

variable {form : FieldSyntax} (w : WrittenField form)

/-- The field as a segment. -/
def text : Text :=
  (w.start ++ w.field.name ++ w.beforeSign) ++
    form.separator :: (w.afterSign ++ w.field.value ++ w.finish)

theorem chars_among_blanks {a t b : Text} (ha : ∀ c ∈ a, isBlank c = true) (ht : t.IsLabel)
    (hb : ∀ c ∈ b, isBlank c = true) : ∀ c ∈ a ++ t ++ b, isNameChar c = true := by
  simp only [List.forall_mem_append]
  exact ⟨⟨fun c hc => isNameChar_of_isBlank (ha c hc), ht.chars⟩,
    fun c hc => isNameChar_of_isBlank (hb c hc)⟩

theorem valueIn :
    Field.ValueIn form (w.afterSign ++ w.field.value ++ w.finish) w.field.value := by
  have htrim : trim (w.afterSign ++ w.field.value ++ w.finish) = w.field.value :=
    (trim_among_blanks w.afterSign_blank w.finish_blank _).trans w.writable.trim_value
  cases form with
  | definition =>
    have hvalue := Field.ValueIn.definition (w.afterSign ++ w.field.value ++ w.finish)
    rwa [htrim] at hvalue
  | assignment =>
    -- the run of the characters of names goes to the end
    have hlabel := w.value_label rfl
    have hvalue := Field.ValueIn.assignment
      (chars_among_blanks w.afterSign_blank hlabel w.finish_blank) (stops_nil isNameChar)
      (by rw [htrim]; exact hlabel.ne_nil)
    rwa [List.append_nil, htrim] at hvalue

/-- A written field is read as the field with its name in capitals. -/
theorem isRead : Field.IsRead form w.text w.field.capital := by
  have hlabel := w.writable.name
  have htrim : trim (w.start ++ w.field.name ++ w.beforeSign) = w.field.name :=
    (trim_among_blanks w.start_blank w.beforeSign_blank _).trans hlabel.trim_eq
  have hparts : Field.IsRead form _ _ :=
    .parts (chars_among_blanks w.start_blank hlabel w.beforeSign_blank)
      (by rw [htrim]; exact hlabel.ne_nil) w.valueIn
  rwa [htrim] at hparts

theorem numberSign_not_mem_text : '#' ∉ w.text := by
  have hblank {b : Text} (hb : ∀ c ∈ b, isBlank c = true) : '#' ∉ b :=
    not_mem_of_class hb (by decide)
  have hname := w.writable.name.not_mem (x := '#') (by decide)
  have hsign : '#' ≠ form.separator := by cases form <;> decide
  simp [text, hblank w.start_blank, hblank w.beforeSign_blank, hblank w.afterSign_blank,
    hblank w.finish_blank, hname, hsign, w.writable.value]

theorem isAllBlank_text : isAllBlank w.text = false := by
  rw [text, List.append_assoc, List.append_assoc]
  exact isAllBlank_of_beginsSolid (w.writable.name.begins.append _) w.start

theorem clause : Fields.Clause form w.text w.field.capital where
  segment := Fields.segments_of_not_mem w.numberSign_not_mem_text w.isAllBlank_text
  read := Field.read_iff_isRead.2 w.isRead

end WrittenField

theorem Field.not_isRead_of_isOk {form : FieldSyntax} {t : Text}
    (h : (Field.read form t).isOk = false) (field : Field) : ¬ Field.IsRead form t field := by
  intro hread
  rw [Field.read_iff_isRead.2 hread] at h
  cases h

namespace Fields

/-! ## Segments among others -/

/-- A segment of a block. -/
inductive Segment (form : FieldSyntax) where
  /-- A field. -/
  | field (written : WrittenField form)
  /-- Nothing but blanks. -/
  | blank (t : Text) (hblank : isAllBlank t = true)
  /-- A text that is not made up of a name, the separator and a value. -/
  | malformed (t : Text) (hsign : '#' ∉ t) (hnone : ∀ field, ¬ Field.IsRead form t field)

namespace Segment

variable {form : FieldSyntax}

/-- The text of the segment. -/
def text : Segment form → Text
  | field written => written.text
  | blank t _ => t
  | malformed t _ _ => t

/-- The field that is written, with its name in capitals. -/
def field? : Segment form → Option Field
  | field written => some written.field.capital
  | blank _ _ => none
  | malformed _ _ _ => none

theorem numberSign_not_mem_text (s : Segment form) : '#' ∉ s.text := by
  cases s with
  | field written => exact written.numberSign_not_mem_text
  | blank t hblank => exact not_mem_of_class (List.all_eq_true.1 hblank) (by decide)
  | malformed t hsign hnone => exact hsign

/-- A segment gives the field that is written, if any. -/
theorem toOption_read (s : Segment form) : (Field.read form s.text).toOption = s.field? := by
  cases s with
  | field written =>
    rw [text, written.clause.read]
    rfl
  | blank t hblank => exact Field.toOption_read_of_blank hblank
  | malformed t hsign hnone =>
    rw [text, field?]
    cases hread : Field.read form t with
    | ok field => exact absurd (Field.read_iff_isRead.1 hread) (hnone field)
    | error fault => rfl

end Segment

variable {form : FieldSyntax}

/-- The segments with a number sign between each two. -/
def blockText (block : List (Segment form)) : Text := join ['#'] (block.map Segment.text)

/-- The fields that are written in a block. -/
def written (block : List (Segment form)) : List Field := block.filterMap Segment.field?

theorem readable_blockText (block : List (Segment form)) :
    readable form (segments (blockText block)) = written block := by
  have hsigns : ∀ t ∈ block.map Segment.text, '#' ∉ t := by
    intro t ht
    obtain ⟨s, -, rfl⟩ := List.mem_map.1 ht
    exact s.numberSign_not_mem_text
  rw [readable_segments, accepted, blockText,
    filterMap_pieces_join (Field.toOption_read_of_blank rfl) hsigns, List.filterMap_map]
  exact List.filterMap_congr fun s _ => s.toOption_read

/-! ## Joined blocks -/

theorem segments_append (a b : Text) : segments (a ++ '#' :: b) = segments a ++ segments b := by
  rw [segments, pieces_append_sep, List.filter_append]
  rfl

theorem ofText_append (form : FieldSyntax) (a b : Text) : ofText form (a ++ '#' :: b) =
    ⟨(ofText form a).result.overlay (ofText form b).result,
      (ofText form a).notices ++ (ofText form b).notices⟩ := by
  simp only [ofText_eq, segments_append, readable, faults, List.filterMap_append,
    Keyed.ofList_append]

theorem Clause.ofText_eq {clause : Text} {field : Field} (h : Clause form clause field) :
    ofText form clause = ⟨Keyed.ofList [field], []⟩ := by
  rw [Fields.ofText_eq, h.segment, readable, faults, List.filterMap_cons_some (by rw [h.read]; rfl),
    List.filterMap_cons_none (by rw [h.read])]
  rfl

/-- The fields after a number sign are laid over those before it.  A written field is read
without a notice.  Among any other segments, the names that are written come in their order,
each with its last value. -/
theorem ofText_composes_and_reads_back (form : FieldSyntax) :
    (∀ a b : Text,
      (ofText form (a ++ '#' :: b)).result =
          (ofText form a).result.overlay (ofText form b).result ∧
        (ofText form (a ++ '#' :: b)).notices =
          (ofText form a).notices ++ (ofText form b).notices) ∧
      (∀ w : WrittenField form,
        (ofText form w.text).result.entries = [⟨toUpper w.field.name, w.field.value⟩] ∧
          (ofText form w.text).notices = []) ∧
      ∀ block : List (Segment form),
        (ofText form (blockText block)).result.keys =
            ((written block).map Field.name).eraseDups ∧
          ∀ name, value? (ofText form (blockText block)).result name =
            ((written block).filter (·.name = name)).getLast?.map Field.value := by
  refine ⟨fun a b => ?_, fun w => ?_, fun block => ⟨?_, fun name => ?_⟩⟩
  · rw [ofText_append]
    exact ⟨rfl, rfl⟩
  · rw [w.clause.ofText_eq]
    exact ⟨rfl, rfl⟩
  · rw [ofText_eq, Keyed.keys_ofList, readable_blockText]
  · rw [value?_eq_last, readable_blockText]

/-- A name that is written twice, with a blank segment and two malformed ones. -/
theorem ofText_composes_and_reads_back_of_repeated :
    (ofText .assignment " a = 1\n# #just text#b=#A=3").result.keys = [("A" : Text)] ∧
      value? (ofText .assignment " a = 1\n# #just text#b=#A=3").result "A" =
        some ("3" : Text) := by
  let first : WrittenField .assignment :=
    { field := ⟨"a", "1"⟩, start := " ", beforeSign := " ", afterSign := " ", finish := "\n"
      writable := .of_labels (by decide +kernel) (by decide +kernel)
      value_label := fun _ => by decide +kernel
      start_blank := List.all_eq_true.1 (by decide +kernel)
      beforeSign_blank := List.all_eq_true.1 (by decide +kernel)
      afterSign_blank := List.all_eq_true.1 (by decide +kernel)
      finish_blank := List.all_eq_true.1 (by decide +kernel) }
  let last : WrittenField .assignment :=
    { field := ⟨"A", "3"⟩, start := [], beforeSign := [], afterSign := [], finish := []
      writable := .of_labels (by decide +kernel) (by decide +kernel)
      value_label := fun _ => by decide +kernel
      start_blank := nofun
      beforeSign_blank := nofun
      afterSign_blank := nofun
      finish_blank := nofun }
  obtain ⟨hkeys, hvalue⟩ := (ofText_composes_and_reads_back .assignment).2.2
    [.field first, .blank " " (by decide +kernel),
      .malformed "just text" (by decide +kernel) (Field.not_isRead_of_isOk (by decide +kernel)),
      .malformed "b=" (by decide +kernel) (Field.not_isRead_of_isOk (by decide +kernel)),
      .field last]
  exact ⟨hkeys.trans (by decide +kernel), (hvalue "A").trans (by decide +kernel)⟩

end Fields

end PlainReport
