import PlainReport.Number.Binary64

/-!
# Rounding to a magnitude

Rounding looks at the value of a quotient and not at its two parts
(`ofUnits_mul_right`).  A number of units that a magnitude has is rounded to that
magnitude (`ofUnits_units`).
-/

namespace PlainReport

/-! ## Powers -/

theorem powerOfTwo_pos (e : Nat) : 0 < powerOfTwo e := Nat.pow_pos (by decide)

theorem powerOfTwo_add (d e : Nat) : powerOfTwo (d + e) = powerOfTwo d * powerOfTwo e :=
  Nat.pow_add 2 d e

theorem powerOfTwo_le_powerOfTwo {d e : Nat} (h : d ≤ e) : powerOfTwo d ≤ powerOfTwo e :=
  Nat.pow_le_pow_right (by decide) h

theorem powerOfTen_pos (e : Nat) : 0 < powerOfTen e := Nat.pow_pos (by decide)

theorem powerOfTen_zero : powerOfTen 0 = 1 := rfl

theorem powerOfTen_succ (e : Nat) : powerOfTen (e + 1) = powerOfTen e * 10 := rfl

theorem powerOfTen_add (d e : Nat) : powerOfTen (d + e) = powerOfTen d * powerOfTen e :=
  Nat.pow_add 10 d e

/-! ## Quotients -/

theorem roundQuotient_mul_right (num den : Nat) {k : Nat} (hk : 0 < k) :
    roundQuotient (num * k) (den * k) = roundQuotient num den := by
  have hlow : 2 * (num * k % (den * k)) < den * k ↔ 2 * (num % den) < den := by
    rw [Nat.mul_mod_mul_right, ← Nat.mul_assoc, Nat.mul_lt_mul_right hk]
  have hhigh : den * k < 2 * (num * k % (den * k)) ↔ den < 2 * (num % den) := by
    rw [Nat.mul_mod_mul_right, ← Nat.mul_assoc, Nat.mul_lt_mul_right hk]
  simp only [roundQuotient, hlow, hhigh, Nat.mul_div_mul_right _ _ hk]

/-- A whole quotient is its own rounding. -/
theorem roundQuotient_mul_self (q : Nat) {den : Nat} (h : 0 < den) :
    roundQuotient (q * den) den = q := by
  rw [roundQuotient, Nat.mul_mod_left, if_pos h, Nat.mul_div_cancel q h]

namespace Binary64

/-! ## Magnitudes -/

theorem nearestMagnitude_mul_right (num den : Nat) {k : Nat} (hk : 0 < k) :
    nearestMagnitude (num * k) (den * k) = nearestMagnitude num den := by
  simp only [nearestMagnitude, Nat.mul_div_mul_right _ _ hk, Nat.mul_right_comm den k,
    roundQuotient_mul_right _ _ hk]

/-- The first bit of a magnitude of a binade that is not the first. -/
theorem log2_units {r : Nat} (hr : r < binade) (e : Nat) :
    Nat.log2 ((binade + r) * powerOfTwo e) = 52 + e := by
  have hpos := powerOfTwo_pos e
  have hne : (binade + r) * powerOfTwo e ≠ 0 :=
    Nat.mul_ne_zero (Nat.ne_of_gt (Nat.add_pos_left (by decide) r)) (Nat.ne_of_gt hpos)
  refine (Nat.log2_eq_iff hne).2 ⟨?_, ?_⟩
  · calc 2 ^ (52 + e) = binade * powerOfTwo e := Nat.pow_add 2 52 e
      _ ≤ (binade + r) * powerOfTwo e := Nat.mul_le_mul_right _ (Nat.le_add_right binade r)
  · calc (binade + r) * powerOfTwo e < (binade + binade) * powerOfTwo e :=
          Nat.mul_lt_mul_of_pos_right (Nat.add_lt_add_left hr binade) hpos
      _ = 2 ^ (53 + e) := (Nat.pow_add 2 53 e).symm
      _ = 2 ^ (52 + e + 1) := by rw [Nat.add_right_comm]

/-- A magnitude is the nearest one to its own units. -/
theorem nearestMagnitude_units (m : Nat) : nearestMagnitude (units m) 1 = m := by
  unfold nearestMagnitude units
  split
  · next hm =>
    -- the units of the first binade are the magnitudes themselves
    have hlog : Nat.log2 m ≤ 52 := by
      by_cases hzero : m = 0
      · rw [hzero]; decide
      · exact Nat.le_of_lt_succ ((Nat.log2_lt hzero).2 (Nat.lt_trans hm (by decide)))
    have hround : roundQuotient (m * 1) 1 = m := roundQuotient_mul_self m Nat.one_pos
    rw [Nat.mul_one] at hround
    simp only [Nat.div_one, Nat.sub_eq_zero_of_le hlog, Nat.zero_mul, Nat.zero_add]
    exact hround
  · next hm =>
    have hbinade : 0 < binade := by decide
    have hq : m / binade - 1 + 1 = m / binade :=
      Nat.sub_add_cancel (Nat.div_pos (Nat.not_lt.1 hm) hbinade)
    have hdivides := Nat.div_add_mod' m binade
    simp only [Nat.div_one, log2_units (Nat.mod_lt m hbinade), Nat.add_sub_cancel_left,
      Nat.one_mul, roundQuotient_mul_self _ (powerOfTwo_pos _)]
    rw [← Nat.add_assoc, ← Nat.succ_mul, Nat.succ_eq_add_one, hq, hdivides]

/-! ## Numbers -/

variable {negative : Bool} {num den : Nat}

theorem ofUnits_mul_right {k : Nat} (hk : 0 < k) :
    ofUnits negative (num * k) (den * k) = ofUnits negative num den := by
  simp only [ofUnits, nearestMagnitude_mul_right num den hk]

theorem ofUnits_of_nearest {magnitude : Fin finiteMagnitudes}
    (h : nearestMagnitude num den = magnitude) :
    ofUnits negative num den = .finite negative magnitude := by
  simp only [ofUnits, h, magnitude.isLt, dif_pos]

/-- The units of a magnitude are rounded to it. -/
theorem ofUnits_units (negative : Bool) (magnitude : Fin finiteMagnitudes) :
    ofUnits negative (units magnitude) 1 = .finite negative magnitude :=
  ofUnits_of_nearest (nearestMagnitude_units magnitude)

end Binary64

end PlainReport
