import PlainReport.Proofs.Casting
import PlainReport.Proofs.Pattern.Accepted

/-!
# Patterns that fit their columns

Reading a pattern checks its grouping and its conditions against the columns that
were read before.  What passes speaks of declared columns only: the target of a
grouping is a column of numbers, and the value of a condition has the type of its
column (`checked_ofText`).
-/

namespace PlainReport.TablePattern

/-- The grouping and the conditions fit the columns. -/
structure Checked (p : TablePattern) : Prop where
  /-- The grouping fields are columns. -/
  fields : ∀ g, p.grouping = some g →
    ∀ field ∈ g.fields, ∃ column, p.schema.find? field = some column
  /-- The target is a column of numbers. -/
  target : ∀ g, p.grouping = some g →
    ∃ column, p.schema.find? g.target = some column ∧ column.type.isNumeric = true
  /-- The value of a condition has the type of the column. -/
  conditions : ∀ c ∈ p.conditions,
    ∃ column, p.schema.find? c.field = some column ∧ c.value.type = column.type

theorem find?_of_contains {schema : Schema} {name : Text} (h : schema.contains name = true) :
    ∃ column, schema.find? name = some column := Option.isSome_iff_exists.1 h

/-- A grouping passes unchanged if all its names are columns and its target is one of
numbers. -/
theorem checkGrouping_eq_ok {schema : Schema} {g g' : Grouping}
    (h : checkGrouping schema g = .ok g') :
    g' = g ∧ (∀ field ∈ g.fields, ∃ column, schema.find? field = some column) ∧
      ∃ column, schema.find? g.target = some column ∧ column.type.isNumeric = true := by
  unfold checkGrouping at h
  cases hf : (g.fields ++ [g.target]).find? (!schema.contains ·) with
  | some name => simp [hf] at h
  | none =>
    have hall : ∀ name ∈ g.fields ++ [g.target], schema.contains name = true := by
      simpa using List.find?_eq_none.1 hf
    obtain ⟨column, hc⟩ := find?_of_contains (hall g.target (by simp))
    simp only [hf, hc] at h
    split at h
    · next hn =>
      cases h
      refine ⟨rfl, fun field hfield => ?_, column, hc, hn⟩
      exact find?_of_contains (hall field (List.mem_append_left _ hfield))
    · cases h

/-- A grouping was read from its definition and passed the check. -/
theorem readGrouping_eq_some {schema : Schema} {definition : Option Text} {g : Grouping}
    (h : (readGrouping schema definition).result = some g) :
    ∃ text, definition = some text ∧ Grouping.read text = .ok g ∧
      checkGrouping schema g = .ok g := by
  cases definition with
  | none => cases h
  | some text =>
    unfold readGrouping at h
    cases hr : Grouping.read text with
    | error fault => simp [hr] at h
    | ok written =>
      cases hc : checkGrouping schema written with
      | error notice => simp [hr, hc] at h
      | ok checked =>
        simp only [hr, hc, Option.some.injEq] at h
        subst h
        obtain ⟨rfl, -⟩ := checkGrouping_eq_ok hc
        exact ⟨text, rfl, hr, hc⟩

/-- The literal of a condition is read as a value of the type of its column. -/
theorem readCondition_eq_ok {schema : Schema} {definition : Text} {c : Condition}
    (h : readCondition schema definition = .ok c) :
    ∃ column, schema.find? c.field = some column ∧ c.value.type = column.type := by
  unfold readCondition at h
  cases hr : WrittenCondition.read definition with
  | error fault => simp [hr] at h
  | ok written =>
    cases hc : schema.find? written.field with
    | none => simp [hr, hc] at h
    | some column =>
      cases hv : column.type.cast written.literal with
      | error error => simp [hr, hc, hv] at h
      | ok value =>
        simp only [hr, hc, hv, Except.ok.injEq] at h
        subst h
        exact ⟨column, hc, DataType.type_of_cast hv⟩

theorem mem_readConditions {schema : Schema} {definitions : List Text} {c : Condition}
    (h : c ∈ (readConditions schema definitions).result) :
    ∃ definition ∈ definitions, readCondition schema definition = .ok c := by
  rw [readConditions_eq] at h
  exact mem_accepted_iff.1 h

/-- The grouping and the conditions of every pattern that was read fit its columns. -/
theorem checked_ofText (defaultWidth : Nat) (t : Text) :
    (ofText defaultWidth t).result.Checked where
  fields _ hg := by
    obtain ⟨_, -, -, hcheck⟩ := readGrouping_eq_some hg
    exact (checkGrouping_eq_ok hcheck).2.1
  target _ hg := by
    obtain ⟨_, -, -, hcheck⟩ := readGrouping_eq_some hg
    exact (checkGrouping_eq_ok hcheck).2.2
  conditions c hc := by
    obtain ⟨_, -, hr⟩ := mem_readConditions hc
    exact readCondition_eq_ok hr

end PlainReport.TablePattern
