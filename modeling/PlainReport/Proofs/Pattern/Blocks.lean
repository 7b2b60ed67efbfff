import PlainReport.Proofs.Pattern.FieldText

/-!
# Blocks segment by segment

Every segment of a block is read by itself.  The fields of the block are those that were
read, put in one after the other, and its notices are the faults of the others
(`Fields.ofText_eq`).

So a clause that is read as a field says what its name stands for unless a later one of
that name does (`Fields.value?_clause`).  It has no effect on the other names and on the
notices (`Fields.value?_clause_of_ne`, `Fields.notices_clause`).
-/

namespace PlainReport.Fields

open Text

variable {form : FieldSyntax}

/-! ## Reading each segment by itself -/

/-- The fields of the segments that are read. -/
def readable (form : FieldSyntax) (segments : List Text) : List Field :=
  segments.filterMap fun segment => (Field.read form segment).toOption

/-- The faults of the other segments. -/
def faults (form : FieldSyntax) (segments : List Text) : List FieldFault :=
  segments.filterMap fun segment =>
    match Field.read form segment with
    | .ok _ => none
    | .error fault => some fault

theorem readInto_eq (fields : Fields) (segments : List Text) :
    readInto form fields segments =
      ⟨(readable form segments).foldl Keyed.put fields, faults form segments⟩ := by
  induction segments generalizing fields with
  | nil => rfl
  | cons segment rest ih =>
    unfold readInto readable faults
    cases hread : Field.read form segment with
    | ok field =>
      rw [List.filterMap_cons_some (by rw [hread]; rfl), List.filterMap_cons_none (by rw [hread])]
      exact ih (fields.put field)
    | error fault =>
      rw [List.filterMap_cons_none (by rw [hread]; rfl), List.filterMap_cons_some (by rw [hread])]
      simp only [ih, readable, faults]

/-- A block is read segment by segment. -/
theorem ofText_eq (form : FieldSyntax) (t : Text) :
    ofText form t = ⟨Keyed.ofList (readable form (segments t)), faults form (segments t)⟩ :=
  readInto_eq Keyed.empty (segments t)

/-- The value of a name is the one that was given last. -/
theorem value?_ofText (form : FieldSyntax) (t name : Text) :
    value? (ofText form t).result name =
      ((readable form (segments t)).reverse.find? (·.name = name)).map Field.value := by
  rw [ofText_eq, value?, Keyed.find?_ofList]

/-! ## Segments of joined blocks -/

theorem segments_join_eq_flatMap (ts : List Text) :
    segments (join ['#'] ts) = ts.flatMap segments := by
  cases ts with
  | nil => rfl
  | cons t ts =>
    rw [segments, pieces_join_eq_flatMap '#' (List.cons_ne_nil t ts), List.filter_flatMap]
    rfl

theorem segments_of_not_mem {t : Text} (h : '#' ∉ t) (hsolid : isAllBlank t = false) :
    segments t = [t] := by
  rw [segments, pieces_of_not_mem h, List.filter_singleton, hsolid]
  rfl

/-! ## One clause of a block -/

/-- A text that is one segment and is read as a field. -/
structure Clause (form : FieldSyntax) (clause : Text) (field : Field) : Prop where
  /-- It is a segment by itself. -/
  segment : segments clause = [clause]
  /-- It is read as the field. -/
  read : Field.read form clause = .ok field

/-- A field that can be written is a clause. -/
theorem clause_text {f : Field} (h : f.Writable) : Clause .definition f.text f.capital where
  segment := segments_of_not_mem (Field.numberSign_not_mem_text h) (Field.isAllBlank_text h)
  read := Field.read_text h

section

variable {clause : Text} {field : Field} (h : Clause form clause field) (before after : List Text)

include h

theorem readable_clause : readable form (segments (join ['#'] (before ++ clause :: after))) =
    readable form (segments (join ['#'] before)) ++
      field :: readable form (segments (join ['#'] after)) := by
  simp [readable, segments_join_eq_flatMap, List.filterMap_append, h.segment, h.read,
    Except.toOption]

/-- The clause gives its name the value that it has, unless the name comes again. -/
theorem value?_clause (hlast : value? (ofText form (join ['#'] after)).result field.name = none) :
    value? (ofText form (join ['#'] (before ++ clause :: after))).result field.name =
      some field.value := by
  rw [value?_ofText, Option.map_eq_none_iff] at hlast
  rw [value?_ofText, readable_clause h, List.reverse_append, List.reverse_cons,
    List.append_assoc, List.find?_append, hlast, Option.none_or, List.singleton_append,
    List.find?_cons_of_pos (by simp), Option.map_some]

/-- All other names have the values that they have without the clause. -/
theorem value?_clause_of_ne {name : Text} (hname : field.name ≠ name) :
    value? (ofText form (join ['#'] (before ++ clause :: after))).result name =
      value? (ofText form (join ['#'] (before ++ after))).result name := by
  have hrest : readable form (segments (join ['#'] (before ++ after))) =
      readable form (segments (join ['#'] before)) ++
        readable form (segments (join ['#'] after)) := by
    simp [readable, segments_join_eq_flatMap, List.filterMap_append]
  rw [value?_ofText, value?_ofText, readable_clause h, hrest]
  simp [List.find?_append, hname]

theorem notices_clause :
    (ofText form (join ['#'] (before ++ clause :: after))).notices =
      (ofText form (join ['#'] (before ++ after))).notices := by
  rw [ofText_eq, ofText_eq]
  simp [faults, segments_join_eq_flatMap, List.filterMap_append, h.segment, h.read]

end

end PlainReport.Fields
