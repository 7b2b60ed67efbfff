import PlainReport.Proofs.Selection

/-!
# Conditions together

From rows with the same columns the conditions keep those in which all hold whose fields
are there, whatever their order (`select_conjunction`).  A condition compares integers by
size over their whole range and texts by code points (`holds_int_iff`, `holds_text_iff`).
-/

namespace PlainReport

/-! ## What a comparison means -/

namespace Comparison

/-- How a comparison relates two elements of an order. -/
def Relates {α : Type} (before : α → α → Prop) : Comparison → α → α → Prop
  | equal, x, y => x = y
  | notEqual, x, y => x ≠ y
  | greater, x, y => before y x
  | less, x, y => before x y
  | greaterOrEqual, x, y => ¬before x y
  | lessOrEqual, x, y => ¬before y x

/-- A comparison holds for the order of two elements if it relates them. -/
theorem holds_iff_relates {α : Type} {before : α → α → Prop} {x y : α} {order : Ordering}
    (hless : order = .lt ↔ before x y) (hequal : order = .eq ↔ x = y)
    (hgreater : order = .gt ↔ before y x) (c : Comparison) :
    c.holds (some order) = true ↔ c.Relates before x y := by
  cases c with
  | equal => exact beq_iff_eq.trans hequal
  | notEqual => exact bne_iff_ne.trans (not_congr (Option.some_inj.trans hequal))
  | greater => exact beq_iff_eq.trans hgreater
  | less => exact beq_iff_eq.trans hless
  | greaterOrEqual => exact bne_iff_ne.trans (not_congr hless)
  | lessOrEqual => exact bne_iff_ne.trans (not_congr hgreater)

theorem holds_notEqual (order : Option Ordering) : notEqual.holds order = !equal.holds order := by
  cases order with
  | none => rfl
  | some order => cases order <;> rfl

end Comparison

namespace Value

/-- The lexicographic order of texts by code points. -/
def PrecedesText (t u : Text) : Prop := List.Lex (fun c d => c.toNat < d.toNat) t u

/-- The first characters decide, and if they are equal the rest does. -/
theorem compareText_cons (c d : Char) (t u : Text) :
    compareText (c :: t) (d :: u) = (compare c.toNat d.toNat).then (compareText t u) := by
  rw [compareText, Nat.compare_eq_ite_lt]
  split
  · rfl
  · split
    · rfl
    · rfl

theorem compareText_swap (t u : Text) : (compareText t u).swap = compareText u t := by
  induction t generalizing u with
  | nil => cases u <;> rfl
  | cons c t ih =>
    cases u with
    | nil => rfl
    | cons d u => rw [compareText_cons, compareText_cons, Ordering.swap_then, Nat.compare_swap, ih]

theorem compareText_eq_eq_iff {t u : Text} : compareText t u = .eq ↔ t = u := by
  induction t generalizing u with
  | nil => cases u <;> simp [compareText]
  | cons c t ih =>
    cases u with
    | nil => simp [compareText]
    | cons d u =>
      rw [compareText_cons, Ordering.then_eq_eq, Nat.compare_eq_eq, Char.toNat_inj, ih,
        List.cons.injEq]

theorem compareText_eq_lt_iff {t u : Text} : compareText t u = .lt ↔ PrecedesText t u := by
  induction t generalizing u with
  | nil => cases u <;> simp [compareText, PrecedesText]
  | cons c t ih =>
    cases u with
    | nil => simp [compareText, PrecedesText]
    | cons d u =>
      rw [compareText_cons, Ordering.then_eq_lt, Nat.compare_eq_lt, Nat.compare_eq_eq,
        Char.toNat_inj, ih, PrecedesText, PrecedesText, List.cons_lex_cons_iff]

theorem compareText_eq_gt_iff {t u : Text} : compareText t u = .gt ↔ PrecedesText u t := by
  rw [← compareText_eq_lt_iff, ← compareText_swap t u]
  cases compareText t u <;> simp

end Value

namespace Condition

variable {row : Row} {c : Condition}

theorem holds_of_value? {v : Value} (h : Row.value? row c.field = some v) :
    c.holds row = c.comparison.holds (v.compare? c.value) := by
  rw [holds, h, Option.any_some]

/-- Integers are compared by size. -/
theorem holds_int_iff {i j : Int64} (hcell : Row.value? row c.field = some (.int i))
    (hvalue : c.value = .int j) :
    c.holds row = true ↔ c.comparison.Relates (· < ·) i.toInt j.toInt := by
  rw [holds_of_value? hcell, hvalue]
  exact Comparison.holds_iff_relates Int.compare_eq_lt Int.compare_eq_eq Int.compare_eq_gt
    c.comparison

/-- Texts are compared by code points. -/
theorem holds_text_iff {t u : Text} (hcell : Row.value? row c.field = some (.text t))
    (hvalue : c.value = .text u) :
    c.holds row = true ↔ c.comparison.Relates Value.PrecedesText t u := by
  rw [holds_of_value? hcell, hvalue]
  exact Comparison.holds_iff_relates Value.compareText_eq_lt_iff Value.compareText_eq_eq_iff
    Value.compareText_eq_gt_iff c.comparison

/-- In a row with the field a condition of inequality is the opposite of one of equality. -/
theorem holds_notEqual {name : Text} (h : name ∈ row.keys) (value : Value) :
    (Condition.mk name .notEqual value).holds row =
      !(Condition.mk name .equal value).holds row := by
  obtain ⟨cell, hcell⟩ := Option.isSome_iff_exists.1 ((Keyed.mem_keys_iff_contains row name).1 h)
  have hvalue : Row.value? row name = some cell.value := congrArg (Option.map Cell.value) hcell
  rw [holds_of_value? hvalue, holds_of_value? hvalue, Comparison.holds_notEqual]

/-! ## All conditions -/

variable {names : List Text} {rows : List Row}

/-- Only the set of the conditions counts. -/
theorem select_congr (h : ∀ row ∈ rows, Row.HasColumns row names)
    {conditions others : List Condition} (hmem : ∀ c, c ∈ others ↔ c ∈ conditions) :
    select others rows = select conditions rows := by
  rw [select_eq_filter h, select_eq_filter h]
  refine List.filter_congr fun row _ => ?_
  rw [Bool.eq_iff_iff, List.all_eq_true, List.all_eq_true]
  exact forall_congr' fun c => imp_congr_left (hmem c)

theorem select_select (h : ∀ row ∈ rows, Row.HasColumns row names) (conditions : List Condition) :
    select conditions (select conditions rows) = select conditions rows := by
  have hkept : ∀ row ∈ select conditions rows, Row.HasColumns row names := fun row hrow =>
    h row ((select_sublist conditions rows).mem hrow)
  rw [select_eq_filter hkept, select_eq_filter h, List.filter_filter]
  simp only [Bool.and_self]

/-- From rows with the same columns the conditions keep, in their order, those in which all
conditions hold whose fields are among the columns.  On integers a comparison is the one by
size, on texts the one by code points, and inequality is the opposite of equality.  Order
and repetition of the conditions do not count, and to select again changes nothing. -/
theorem select_conjunction (h : ∀ row ∈ rows, Row.HasColumns row names)
    (conditions : List Condition) :
    select conditions rows = (rows.filter fun row =>
      conditions.all fun c => !names.contains c.field || c.holds row) ∧
    (∀ row ∈ rows, ∀ c ∈ conditions, ∀ i j : Int64, Row.value? row c.field = some (.int i) →
      c.value = .int j → (c.holds row = true ↔ c.comparison.Relates (· < ·) i.toInt j.toInt)) ∧
    (∀ row ∈ rows, ∀ c ∈ conditions, ∀ t u : Text, Row.value? row c.field = some (.text t) →
      c.value = .text u → (c.holds row = true ↔ c.comparison.Relates Value.PrecedesText t u)) ∧
    (∀ row ∈ rows, ∀ name ∈ names, ∀ value, (Condition.mk name .notEqual value).holds row =
      !(Condition.mk name .equal value).holds row) ∧
    (∀ others : List Condition, (∀ c, c ∈ others ↔ c ∈ conditions) →
      select others rows = select conditions rows) ∧
    select conditions (select conditions rows) = select conditions rows :=
  ⟨select_eq_filter h conditions, fun _ _ _ _ _ _ => holds_int_iff,
    fun _ _ _ _ _ _ => holds_text_iff,
    fun row hrow name hname => holds_notEqual ((h row hrow name).2 hname),
    fun _ => select_congr h, select_select h conditions⟩

/-- The same columns in two orders, and a condition on a column that is not there. -/
theorem select_conjunction_of_orders :
    let first : Row := Keyed.ofList [⟨"N", .int 3⟩, ⟨"T", .text "b"⟩]
    let second : Row := Keyed.ofList [⟨"T", .text "a"⟩, ⟨"N", .int (-1)⟩]
    let conditions : List Condition :=
      [⟨"N", .greaterOrEqual, .int 0⟩, ⟨"X", .equal, .int 7⟩, ⟨"T", .less, .text "c"⟩]
    (∀ row ∈ [first, second], Row.HasColumns row ["N", "T"]) ∧
      select conditions [first, second] = [first] := by
  intro first second conditions
  have hcolumns : ∀ row ∈ [first, second], Row.HasColumns row ["N", "T"] :=
    List.forall_mem_cons.2 ⟨fun _ => List.Perm.mem_iff (by decide),
      List.forall_mem_singleton.2 fun _ => List.Perm.mem_iff (by decide)⟩
  exact ⟨hcolumns, (select_conjunction hcolumns conditions).1.trans (by decide)⟩

end Condition

end PlainReport
