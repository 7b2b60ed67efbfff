import PlainReport.Proofs.Pattern.Accepted
import PlainReport.Proofs.Pattern.Blocks

/-!
# Segments and the values of names

A segment of a pattern is a field if it is a name, a colon and a value (`Field.read_eq_ok_iff`).
In a block each name has the last of the values that its segments give it
(`Fields.value?_eq_getLast?`).
-/

namespace PlainReport

open Text

namespace Field

/-- A field of a pattern is a name, a colon and a value. -/
theorem read_eq_ok_iff {segment : Text} {field : Field} :
    Field.read .definition segment = .ok field ↔
      ∃ name value, segment = name ++ ':' :: value ∧ (∀ c ∈ name, isNameChar c = true) ∧
        trim name ≠ [] ∧ field = ⟨toUpper (trim name), trim value⟩ := by
  rw [read_iff_isRead]
  constructor
  · intro h
    cases h with
    | parts hchars hname hvalue =>
      cases hvalue
      exact ⟨_, _, rfl, hchars, hname, rfl⟩
  · rintro ⟨name, value, rfl, hchars, hname, rfl⟩
    exact .parts hchars hname (.definition value)

/-- The value that a segment gives to a name. -/
def valueOf? (form : FieldSyntax) (name segment : Text) : Option Text :=
  (Field.read form segment).toOption.bind fun field =>
    if field.name = name then some field.value else none

theorem valueOf?_eq {segment name value : Text}
    (hsegment : segment = name ++ ':' :: value) (hchars : ∀ c ∈ name, isNameChar c = true)
    (hname : trim name ≠ []) (key : Text) : valueOf? .definition key segment =
      if toUpper (trim name) = key then some (trim value) else none := by
  have hread := read_eq_ok_iff.2 ⟨name, value, hsegment, hchars, hname, rfl⟩
  rw [valueOf?, hread]
  rfl

end Field

namespace Fields

variable (form : FieldSyntax)

theorem readable_segments (t : Text) :
    readable form (segments t) = accepted (Field.read form) (pieces '#' t) := by
  rw [readable, accepted, segments, List.filterMap_filter]
  refine List.filterMap_congr fun segment _ => ?_
  cases hblank : isAllBlank segment with
  | true => exact (Field.toOption_read_of_blank hblank).symm
  | false => rfl

theorem faults_eq (segments : List Text) :
    faults form segments = rejections (Field.read form) segments := by
  refine List.filterMap_congr fun segment _ => ?_
  cases Field.read form segment with
  | ok field => rfl
  | error fault => rfl

/-- A name has the value of the last field of that name. -/
theorem value?_eq_last (t name : Text) :
    value? (ofText form t).result name =
      ((readable form (segments t)).filter (·.name = name)).getLast?.map Field.value := by
  rw [value?_ofText, ← List.head?_filter, List.filter_reverse, List.head?_reverse]

/-- A name has the last of the values that the segments give it. -/
theorem value?_eq_getLast? (t name : Text) :
    value? (ofText form t).result name =
      ((pieces '#' t).filterMap (Field.valueOf? form name)).getLast? := by
  have hvalues : (pieces '#' t).filterMap (Field.valueOf? form name) =
      ((readable form (segments t)).filter (·.name = name)).map Field.value := by
    rw [readable_segments, accepted, List.filter_filterMap, List.map_filterMap]
    refine List.filterMap_congr fun segment _ => ?_
    unfold Field.valueOf?
    cases (Field.read form segment).toOption with
    | none => rfl
    | some field => by_cases hname : field.name = name <;> simp [Option.filter, hname]
  rw [hvalues, List.getLast?_map, value?_eq_last]

end Fields

end PlainReport
