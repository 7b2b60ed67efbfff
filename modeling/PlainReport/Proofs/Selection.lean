import PlainReport.Table.Selected

/-!
# Selecting keeps rows in place

Conditions only leave rows out (`select_sublist`), and from rows with the same columns
they leave those in which all hold whose fields are there (`select_eq_filter`).  A
comparison of two texts or of two numbers has an order unless one of the numbers is not a
number (`compare?_eq_none_iff`).
-/

namespace PlainReport

/-! ## Comparing values of one kind -/

namespace Binary64

theorem ofInt_ne_nan (i : Int) : ofInt i ≠ nan := by
  unfold ofInt ofUnits
  split <;> nofun

theorem rank?_eq_none_iff {x : Binary64} : x.rank? = none ↔ x = nan := by
  cases x <;> simp [rank?]

theorem compare?_eq_none_iff {x y : Binary64} : x.compare? y = none ↔ x = nan ∨ y = nan := by
  rw [← rank?_eq_none_iff, ← rank?_eq_none_iff, compare?]
  cases x.rank? with
  | none => simp
  | some i => cases y.rank? <;> simp

end Binary64

namespace Value

/-- The value that is not a number. -/
def IsNan (v : Value) : Prop := v = .float .nan

/-- Both values are texts, or both are numbers. -/
def SameKind (v w : Value) : Prop :=
  v.type = .text ∧ w.type = .text ∨ v.type.isNumeric = true ∧ w.type.isNumeric = true

theorem sameKind_of_type_eq {v w : Value} (h : v.type = w.type) : v.SameKind w := by
  rw [SameKind, h]
  cases w.type with
  | int => exact .inr ⟨rfl, rfl⟩
  | float => exact .inr ⟨rfl, rfl⟩
  | text => exact .inl ⟨rfl, rfl⟩

theorem exists_toBinary64? {v : Value} (h : v.type.isNumeric = true) :
    ∃ x, v.toBinary64? = some x := by
  cases v with
  | int i => exact ⟨_, rfl⟩
  | float x => exact ⟨x, rfl⟩
  | text t => cases h

theorem isNan_iff {v : Value} {x : Binary64} (h : v.toBinary64? = some x) :
    v.IsNan ↔ x = .nan := by
  cases v with
  | int i =>
    have hx : x ≠ .nan := Option.some.inj h ▸ Binary64.ofInt_ne_nan i.toInt
    exact iff_of_false nofun hx
  | float y =>
    cases h
    rw [IsNan, float.injEq]
  | text t => cases h

/-- Two numbers that are not both integers are compared as binary numbers. -/
theorem compare?_of_toBinary64? {v w : Value} {x y : Binary64} (hv : v.toBinary64? = some x)
    (hw : w.toBinary64? = some y) (h : ¬(v.type = .int ∧ w.type = .int)) :
    v.compare? w = x.compare? y := by
  unfold compare?
  split
  · exact absurd ⟨rfl, rfl⟩ h
  · cases hv
  · rw [hv, hw]
    rfl

/-- Values of one kind are comparable unless one of them is not a number. -/
theorem compare?_eq_none_iff {v w : Value} (h : v.SameKind w) :
    v.compare? w = none ↔ v.IsNan ∨ w.IsNan := by
  cases h with
  | inl htext =>
    obtain ⟨hv, hw⟩ := htext
    cases v <;> cases hv
    cases w <;> cases hw
    simp [compare?, IsNan]
  | inr hnumeric =>
    obtain ⟨x, hx⟩ := exists_toBinary64? hnumeric.1
    obtain ⟨y, hy⟩ := exists_toBinary64? hnumeric.2
    by_cases hint : v.type = .int ∧ w.type = .int
    · obtain ⟨hv, hw⟩ := hint
      cases v <;> cases hv
      cases w <;> cases hw
      simp [compare?, IsNan]
    · rw [compare?_of_toBinary64? hx hy hint, Binary64.compare?_eq_none_iff, isNan_iff hx,
        isNan_iff hy]

end Value

/-! ## Selecting -/

/-- The names of a row are some names, in any order. -/
def Row.HasColumns (row : Row) (names : List Text) : Prop :=
  ∀ name, name ∈ row.keys ↔ name ∈ names

theorem Row.hasColumns_of_keys {row : Row} {names : List Text} (h : row.keys = names) :
    Row.HasColumns row names := fun name => by rw [h]

namespace Condition

/-- Conditions leave rows out and keep the others in their order. -/
theorem select_sublist (conditions : List Condition) (rows : List Row) :
    (select conditions rows).Sublist rows := by
  induction conditions generalizing rows with
  | nil => exact List.Sublist.refl _
  | cons c conditions ih =>
    cases rows with
    | nil => exact List.Sublist.refl _
    | cons first rows =>
      rw [select]
      split
      · exact (ih _).trans List.filter_sublist
      · exact ih _

theorem select_nil (conditions : List Condition) : select conditions [] = [] := by
  cases conditions with
  | nil => rfl
  | cons c conditions => rfl

/-- On rows with the same columns a condition keeps the rows in which it holds, or all if
its field is not among the columns. -/
theorem select_cons {names : List Text} {rows : List Row}
    (h : ∀ row ∈ rows, Row.HasColumns row names) (c : Condition) (conditions : List Condition) :
    select (c :: conditions) rows =
      select conditions (rows.filter fun row => !names.contains c.field || c.holds row) := by
  cases rows with
  | nil => rw [select_nil, List.filter_nil, select_nil]
  | cons first rows =>
    have hfirst : first.contains c.field = names.contains c.field := by
      rw [Bool.eq_iff_iff, ← Keyed.mem_keys_iff_contains, h first List.mem_cons_self,
        List.contains_iff_mem]
    rw [select, hfirst]
    cases names.contains c.field with
    | true => rfl
    | false =>
      have hall : (first :: rows).filter (fun row => !false || c.holds row) = first :: rows :=
        List.filter_eq_self.2 fun _ _ => rfl
      rw [hall]
      rfl

/-- Conditions on rows with the same columns keep the rows in which all of them hold whose
fields are among the columns. -/
theorem select_eq_filter {names : List Text} {rows : List Row}
    (h : ∀ row ∈ rows, Row.HasColumns row names) (conditions : List Condition) :
    select conditions rows = rows.filter fun row =>
      conditions.all fun c => !names.contains c.field || c.holds row := by
  induction conditions generalizing rows with
  | nil => exact (List.filter_eq_self.2 fun _ _ => rfl).symm
  | cons c conditions ih =>
    have hkept : ∀ row ∈ rows.filter fun row => !names.contains c.field || c.holds row,
        Row.HasColumns row names := fun row hrow => h row (List.mem_filter.1 hrow).1
    rw [select_cons h, ih hkept, List.filter_filter]
    simp only [List.all_cons, Bool.and_comm]

theorem select_eq_filter_all {names : List Text} {rows : List Row}
    (h : ∀ row ∈ rows, Row.HasColumns row names) {conditions : List Condition}
    (hfields : ∀ c ∈ conditions, c.field ∈ names) :
    select conditions rows = rows.filter fun row => conditions.all fun c => c.holds row := by
  rw [select_eq_filter h]
  refine List.filter_congr fun row _ => ?_
  rw [Bool.eq_iff_iff, List.all_eq_true, List.all_eq_true]
  refine forall₂_congr fun c hc => ?_
  rw [List.contains_iff_mem.2 (hfields c hc), Bool.not_true, Bool.false_or]

end Condition

end PlainReport
