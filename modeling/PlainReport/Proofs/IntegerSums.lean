import Mathlib.Algebra.Order.BigOperators.Group.List
import Mathlib.Algebra.Order.Ring.Int
import Mathlib.Data.List.Induction
import PlainReport.Table.Grouped

/-!
# Sums of integers

A sum of integers of 64 bits is made from left to right, and each sum on the way is held in
the range.  So it is the mathematical sum, held between the sums that begin at the two ends
of the range (`toInt_addAll`), and it is exact if all sums on the way fit (`addAll_exact`).

Integers of one sign leave the range at most once, and then for good
(`addAll_of_sameSign`).  With both signs the order counts as soon as the integers of one
sign leave the range by themselves (`sum_of_integers`).
-/

namespace PlainReport

theorem toInt_clampInt64 (i : Int) :
    (clampInt64 i).toInt = max leastInt64 (min greatestInt64 i) := by
  rw [clampInt64, leastInt64, greatestInt64]
  split
  · rw [Int64.toInt_ofInt_of_le (by omega) (by omega)]
    omega
  · split
    · rw [Int64.toInt_ofInt_of_le (by omega) (by omega)]
      omega
    · rw [Int64.toInt_ofInt_of_le (by omega) (by omega)]
      omega

theorem toInt_bounds (i : Int64) : leastInt64 ≤ i.toInt ∧ i.toInt ≤ greatestInt64 :=
  ⟨i.le_toInt, Int.le_of_lt_add_one i.toInt_lt⟩

theorem clampInt64_toInt (i : Int64) : clampInt64 i.toInt = i := by
  have hi := toInt_bounds i
  rw [← Int64.toInt_inj, toInt_clampInt64]
  omega

namespace Aggregate

/-! ## The mathematical sum -/

/-- The sum of integers without bounds. -/
def total (is : List Int64) : Int := (is.map Int64.toInt).sum

/-- The sum of the positive integers. -/
def gains (is : List Int64) : Int := total (is.filter fun i => 0 < i.toInt)

/-- The sum of the other integers. -/
def losses (is : List Int64) : Int := total (is.filter fun i => !decide (0 < i.toInt))

theorem total_cons (i : Int64) (is : List Int64) : total (i :: is) = i.toInt + total is := by
  rw [total, List.map_cons, List.sum_cons, total]

theorem total_append (is js : List Int64) : total (is ++ js) = total is + total js := by
  rw [total, List.map_append, List.sum_append, total, total]

theorem total_perm {is js : List Int64} (h : is.Perm js) : total is = total js :=
  (h.map Int64.toInt).sum_eq

theorem total_eq (is : List Int64) : total is = gains is + losses is := by
  rw [gains, losses, ← total_append]
  exact total_perm (List.filter_append_perm _ is).symm

/-- Integers that are not negative add up to at least each of them. -/
theorem le_total {is : List Int64} (h : ∀ i ∈ is, 0 ≤ i.toInt) :
    0 ≤ total is ∧ ∀ i ∈ is, i.toInt ≤ total is := by
  have hmap : ∀ x ∈ is.map Int64.toInt, 0 ≤ x := List.forall_mem_map.2 h
  exact ⟨List.sum_nonneg hmap, fun i hi => List.single_le_sum hmap _ (List.mem_map_of_mem hi)⟩

/-- Integers that are not positive add up to at most each of them. -/
theorem total_le {is : List Int64} (h : ∀ i ∈ is, i.toInt ≤ 0) :
    total is ≤ 0 ∧ ∀ i ∈ is, total is ≤ i.toInt := by
  induction is with
  | nil => exact ⟨le_refl 0, nofun⟩
  | cons i is ih =>
    obtain ⟨hi, his⟩ := List.forall_mem_cons.1 h
    obtain ⟨htotal, hall⟩ := ih his
    rw [total_cons]
    refine ⟨by omega, List.forall_mem_cons.2 ⟨by omega, fun j hj => ?_⟩⟩
    have hj := hall j hj
    omega

theorem gains_append (is js : List Int64) : gains (is ++ js) = gains is + gains js := by
  rw [gains, List.filter_append, total_append, gains, gains]

theorem losses_append (is js : List Int64) : losses (is ++ js) = losses is + losses js := by
  rw [losses, List.filter_append, total_append, losses, losses]

theorem nonneg_of_mem_gains (is : List Int64) :
    ∀ i ∈ is.filter fun i => 0 < i.toInt, 0 ≤ i.toInt := fun _ hi =>
  Int.le_of_lt (of_decide_eq_true (List.mem_filter.1 hi).2)

theorem nonpos_of_mem_losses (is : List Int64) :
    ∀ i ∈ is.filter fun i => !decide (0 < i.toInt), i.toInt ≤ 0 := fun i hi => by
  have hsign := (List.mem_filter.1 hi).2
  simpa using hsign

theorem gains_nonneg (is : List Int64) : 0 ≤ gains is :=
  (le_total (nonneg_of_mem_gains is)).1

theorem losses_nonpos (is : List Int64) : losses is ≤ 0 :=
  (total_le (nonpos_of_mem_losses is)).1

theorem gains_pos {is : List Int64} {i : Int64} (hi : i ∈ is) (hpos : 0 < i.toInt) :
    0 < gains is :=
  hpos.trans_le ((le_total (nonneg_of_mem_gains is)).2 i
    (List.mem_filter.2 ⟨hi, decide_eq_true hpos⟩))

theorem losses_neg {is : List Int64} {i : Int64} (hi : i ∈ is) (hneg : i.toInt < 0) :
    losses is < 0 :=
  ((total_le (nonpos_of_mem_losses is)).2 i
    (List.mem_filter.2 ⟨hi, by rw [decide_eq_false (by omega)]; rfl⟩)).trans_lt hneg

/-! ## Adding within the range -/

/-- Adds integers to a start, each sum held in the range. -/
def addAll (start : Int64) (is : List Int64) : Int64 := is.foldl addClamped start

theorem toInt_addClamped (i j : Int64) :
    (addClamped i j).toInt = max leastInt64 (min greatestInt64 (i.toInt + j.toInt)) :=
  toInt_clampInt64 _

theorem addClamped_zero (i : Int64) : addClamped 0 i = i := by
  rw [addClamped, Int64.toInt_zero, Int.zero_add, clampInt64_toInt]

theorem apply_sum_eq (is : List Int64) :
    apply .sum (is.map Value.int) .int = .int (addAll 0 is) := by
  have hints : (is.map Value.int).filterMap int? = is := by
    rw [List.filterMap_map]
    exact List.filterMap_some
  rw [apply, sumOfInts, hints, addAll]

theorem addAll_append (start : Int64) (is js : List Int64) :
    addAll start (is ++ js) = addAll (addAll start is) js :=
  List.foldl_append

theorem addAll_concat (start : Int64) (is : List Int64) (i : Int64) :
    addAll start (is ++ [i]) = addClamped (addAll start is) i :=
  addAll_append start is [i]

theorem addAll_zero_cons (i : Int64) (is : List Int64) : addAll 0 (i :: is) = addAll i is := by
  rw [addAll, List.foldl_cons, addClamped_zero, addAll]

/-- Holding a number between two others and then in the range comes to holding it between
these two, held in the range. -/
theorem held_held (a b k : Int) :
    max leastInt64 (min greatestInt64 (max a (min b k))) =
      max (max leastInt64 (min greatestInt64 a))
        (min (max leastInt64 (min greatestInt64 b)) k) := by
  have hrange : leastInt64 ≤ greatestInt64 := by decide
  grind

/-- The sum from any start is the mathematical one, held between the sums from the two ends
of the range. -/
theorem toInt_addAll (start : Int64) (is : List Int64) :
    (addAll start is).toInt = max (addAll .minValue is).toInt
      (min (addAll .maxValue is).toInt (start.toInt + total is)) := by
  induction is using List.reverseRecOn with
  | nil =>
    have hstart := toInt_bounds start
    have hleast : Int64.minValue.toInt = leastInt64 := rfl
    have hgreatest : Int64.maxValue.toInt = greatestInt64 := rfl
    simp only [addAll, List.foldl_nil, total, List.map_nil, List.sum_nil]
    omega
  | append_singleton is i ih =>
    have htotal : total [i] = i.toInt := Int.add_zero _
    have hshift (a b k : Int) :
        max a (min b k) + i.toInt = max (a + i.toInt) (min (b + i.toInt) (k + i.toInt)) := by
      omega
    simp only [addAll_concat, toInt_addClamped]
    rw [ih, hshift, held_held, total_append, htotal, Int.add_assoc]

/-- The sum is exact if every sum on the way fits. -/
theorem addAll_exact {start : Int64} {is : List Int64}
    (h : ∀ js, js <+: is → fitsInt64 (start.toInt + total js) = true) :
    (addAll start is).toInt = start.toInt + total is := by
  induction is generalizing start with
  | nil => exact (Int.add_zero _).symm
  | cons i is ih =>
    have hfirst : (addClamped start i).toInt = start.toInt + i.toInt := by
      have hfits := h [i] ⟨is, rfl⟩
      rw [total_cons] at hfits
      simp only [fitsInt64, Bool.and_eq_true, decide_eq_true_eq] at hfits
      rw [toInt_addClamped]
      have hnil : total [] = 0 := rfl
      omega
    rw [total_cons, ← Int.add_assoc, ← hfirst]
    refine ih fun js hjs => ?_
    rw [hfirst, Int.add_assoc, ← total_cons]
    exact h (i :: js) ((List.prefix_cons_inj i).2 hjs)

/-- The integers are all not negative, or all not positive. -/
def SameSign (is : List Int64) : Prop :=
  (∀ i ∈ is, 0 ≤ i.toInt) ∨ ∀ i ∈ is, i.toInt ≤ 0

/-- Integers of one sign add up to the mathematical sum, held in the range at the end. -/
theorem addAll_of_sameSign {start : Int64} {is : List Int64} (h : SameSign is) :
    addAll start is = clampInt64 (start.toInt + total is) := by
  induction is generalizing start with
  | nil =>
    have hnil : start.toInt + total [] = start.toInt := Int.add_zero _
    rw [hnil, clampInt64_toInt]
    rfl
  | cons i is ih =>
    have hrest : SameSign is := h.imp List.forall_mem_of_forall_mem_cons
      List.forall_mem_of_forall_mem_cons
    -- the rest goes on in the direction of the first integer
    have hsigns : 0 ≤ i.toInt ∧ 0 ≤ total is ∨ i.toInt ≤ 0 ∧ total is ≤ 0 := by
      refine h.imp (fun hall => ?_) fun hall => ?_
      · obtain ⟨hi, his⟩ := List.forall_mem_cons.1 hall
        exact ⟨hi, (le_total his).1⟩
      · obtain ⟨hi, his⟩ := List.forall_mem_cons.1 hall
        exact ⟨hi, (total_le his).1⟩
    have hstart := toInt_bounds start
    have hstep : addAll start (i :: is) = addAll (addClamped start i) is := rfl
    rw [hstep, ih hrest, ← Int64.toInt_inj, toInt_clampInt64, toInt_clampInt64, toInt_addClamped,
      total_cons]
    omega

/-! ## The order -/

/-- The integers have one sign, or neither the positive nor the negative ones leave the
range by themselves. -/
def OrderFree (is : List Int64) : Prop :=
  SameSign is ∨ gains is ≤ greatestInt64 ∧ leastInt64 ≤ losses is

theorem OrderFree.perm {is js : List Int64} (hperm : js.Perm is) (h : OrderFree is) :
    OrderFree js := by
  refine h.imp (fun hsign => ?_) fun hbounds => ?_
  · exact hsign.imp (fun hall i hi => hall i (hperm.mem_iff.1 hi))
      fun hall i hi => hall i (hperm.mem_iff.1 hi)
  · rw [gains, losses, total_perm (hperm.filter _), total_perm (hperm.filter _)]
    exact hbounds

theorem OrderFree.addAll_eq {is : List Int64} (h : OrderFree is) :
    addAll 0 is = clampInt64 (total is) := by
  have hzero (k : Int) : (0 : Int64).toInt + k = k := Int.zero_add k
  cases h with
  | inl hsign => rw [addAll_of_sameSign hsign, hzero]
  | inr hbounds =>
    have hexact : (addAll 0 is).toInt = total is := by
      rw [addAll_exact, hzero]
      rintro js ⟨ks, rfl⟩
      rw [gains_append, losses_append] at hbounds
      have hgains := gains_nonneg js
      have hgains' := gains_nonneg ks
      have hlosses := losses_nonpos js
      have hlosses' := losses_nonpos ks
      rw [hzero, total_eq, fitsInt64, Bool.and_eq_true, decide_eq_true_eq, decide_eq_true_eq]
      omega
    rw [← hexact, clampInt64_toInt]

/-- The sums with the positive integers in front and at the end agree only if the order
does not count. -/
theorem orderFree_of_ends {is : List Int64}
    (h : addAll 0 (is.filter (fun i => 0 < i.toInt) ++ is.filter fun i => !decide (0 < i.toInt)) =
      addAll 0 (is.filter (fun i => !decide (0 < i.toInt)) ++ is.filter fun i => 0 < i.toInt)) :
    OrderFree is := by
  by_contra hfree
  obtain ⟨hsign, hbounds⟩ := not_or.1 hfree
  obtain ⟨hneg, hpos⟩ := not_or.1 hsign
  push Not at hneg hpos
  obtain ⟨i, hi, hi'⟩ := hneg
  obtain ⟨j, hj, hj'⟩ := hpos
  have hlosses := losses_neg hi hi'
  have hgains := gains_pos hj hj'
  rw [addAll_append, addAll_append, addAll_of_sameSign (.inl (nonneg_of_mem_gains is)),
    addAll_of_sameSign (.inr (nonpos_of_mem_losses is)),
    addAll_of_sameSign (.inl (nonneg_of_mem_gains is)),
    addAll_of_sameSign (.inr (nonpos_of_mem_losses is)), ← Int64.toInt_inj] at h
  have hzero : (0 : Int64).toInt = 0 := rfl
  simp only [toInt_clampInt64, leastInt64, greatestInt64] at h hbounds
  unfold gains at hbounds hgains
  unfold losses at hbounds hlosses
  omega

/-- The sum of integers is the mathematical one, held between the sums of the same integers
after the least and after the greatest of all.  It is exact if all sums on the way fit.
The order does not count exactly if the integers have one sign or neither those of one sign
nor those of the other leave the range, and then only the final sum is held in it. -/
theorem sum_of_integers (is : List Int64) :
    let sum (js : List Int64) : Value := apply .sum (js.map Value.int) .int
    (∃ least greatest : Int64, sum (.minValue :: is) = .int least ∧
      sum (.maxValue :: is) = .int greatest ∧
      sum is = .int (.ofInt (max least.toInt (min greatest.toInt (total is))))) ∧
    ((∀ js, js <+: is → fitsInt64 (total js) = true) → sum is = .int (.ofInt (total is))) ∧
    ((∀ js, js.Perm is → sum js = sum is) ↔ OrderFree is) ∧
    (OrderFree is → sum is = .int (clampInt64 (total is))) := by
  intro sum
  have hsum (js : List Int64) : sum js = .int (addAll 0 js) := apply_sum_eq js
  have hzero (k : Int) : (0 : Int64).toInt + k = k := Int.zero_add k
  refine ⟨⟨addAll .minValue is, addAll .maxValue is, ?_, ?_, ?_⟩, fun hfits => ?_, ⟨?_, ?_⟩, ?_⟩
  · rw [hsum, addAll_zero_cons]
  · rw [hsum, addAll_zero_cons]
  · have hlaw := toInt_addAll 0 is
    rw [hzero] at hlaw
    rw [hsum, ← hlaw, Int64.ofInt_toInt]
  · have hexact : (addAll 0 is).toInt = total is := by
      rw [addAll_exact fun js hjs => ?_, hzero]
      rw [hzero]
      exact hfits js hjs
    rw [hsum, ← hexact, Int64.ofInt_toInt]
  · intro hperm
    have hfront := List.filter_append_perm (fun i : Int64 => decide (0 < i.toInt)) is
    have hends := (hperm _ hfront).trans (hperm _ (List.perm_append_comm.trans hfront)).symm
    rw [hsum, hsum] at hends
    exact orderFree_of_ends (Value.int.inj hends)
  · intro hfree js hjs
    rw [hsum, hsum, hfree.addAll_eq, (hfree.perm hjs).addAll_eq, total_perm hjs]
  · intro hfree
    rw [hsum, hfree.addAll_eq]

/-- One more than the greatest integer and one less again is less than the greatest, and in
another order it is the greatest. -/
theorem sum_of_greatest_and_units :
    let sum (js : List Int64) : Value := apply .sum (js.map Value.int) .int
    let is : List Int64 := [.maxValue, 1, -1]
    let js : List Int64 := [-1, .maxValue, 1]
    clampInt64 (total is) = .maxValue ∧ sum is ≠ .int (clampInt64 (total is)) ∧
      js.Perm is ∧ sum js ≠ sum is := by
  decide

end Aggregate

end PlainReport
