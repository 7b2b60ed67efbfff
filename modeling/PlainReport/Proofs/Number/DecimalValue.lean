import Mathlib.Data.List.TakeWhile
import PlainReport.Number.Shortest
import PlainReport.Proofs.Number.Decimal
import PlainReport.Proofs.Number.Rounding

/-!
# Decimals by their value

A decimal is read as the binary number nearest to its value, whatever zeros stand at its
end (`ofDecimal_mul_powerOfTen`).  So the exact decimal of a magnitude is read as the
magnitude (`ofDecimal_exact`).

The shortest decimal of a magnitude was tried before it was taken, and the exact one
stands behind those that are tried.  Both are read as the magnitude
(`toBinary64_shortest`).
-/

namespace PlainReport

/-! ## Digits -/

/-- Powers of ten add zeros. -/
theorem decimal_mul_powerOfTen {n : Nat} (hn : n ≠ 0) (k : Nat) :
    decimal (n * powerOfTen k) = decimal n ++ List.replicate k '0' := by
  induction k with
  | zero => rw [List.replicate_zero, List.append_nil]; exact congrArg decimal (Nat.mul_one n)
  | succ k ih =>
    have hpos : 0 < n * powerOfTen k := Nat.mul_pos (Nat.pos_of_ne_zero hn) (powerOfTen_pos k)
    have hstep := Nat.toDigits_append_toDigits (b := 10) (d := 0) (by decide) hpos (by decide)
    rw [Nat.toDigits_zero, Nat.add_zero, Nat.mul_comm 10, Nat.mul_assoc, ← powerOfTen_succ]
      at hstep
    rw [decimal, ← hstep, List.replicate_succ', ← List.append_assoc]
    exact congrArg (· ++ ['0']) ih

theorem length_decimal_le_iff {n k : Nat} (hk : 0 < k) :
    (decimal n).length ≤ k ↔ n < powerOfTen k :=
  Nat.length_toDigits_le_iff (by decide) hk

theorem length_decimal_mul_powerOfTen {n : Nat} (hn : n ≠ 0) (k : Nat) :
    (decimal (n * powerOfTen k)).length = (decimal n).length + k := by
  rw [decimal_mul_powerOfTen hn, List.length_append, List.length_replicate]

namespace Binary64

/-! ## Reading by value -/

/-- The exponent after the first digit of `digits * 10 ^ exponent`. -/
def topExponent (digits : Nat) (exponent : Int) : Int := (decimal digits).length + exponent

/-- A decimal is read as a quotient of powers of ten with its exponent, unless it is out
of all bounds. -/
theorem ofDecimal_eq {digits : Nat} (hdigits : digits ≠ 0) (negative : Bool) {exponent : Int}
    {a b : Nat} (hexponent : exponent = a - b) :
    ofDecimal negative digits exponent =
      if 310 < topExponent digits exponent then .infinite negative
      else if topExponent digits exponent < -330 then zero negative
      else ofUnits negative (digits * powerOfTen a * unitsPerOne) (powerOfTen b) := by
  cases exponent with
  | ofNat e =>
    have ha : a = e + b := by rw [Int.ofNat_eq_natCast] at hexponent; omega
    have hquotient : ofUnits negative (digits * powerOfTen a * unitsPerOne) (powerOfTen b) =
        ofUnits negative (digits * powerOfTen e * unitsPerOne) 1 := by
      have hscale : ofUnits negative (digits * powerOfTen e * unitsPerOne * powerOfTen b)
          (1 * powerOfTen b) = ofUnits negative (digits * powerOfTen e * unitsPerOne) 1 :=
        ofUnits_mul_right (powerOfTen_pos b)
      rw [← hscale, ha, powerOfTen_add, ← Nat.mul_assoc, Nat.mul_right_comm _ _ unitsPerOne,
        Nat.one_mul]
    rw [hquotient, ofDecimal, if_neg hdigits]
    rfl
  | negSucc e =>
    have hb : b = e + 1 + a := by rw [Int.negSucc_eq] at hexponent; omega
    have hquotient : ofUnits negative (digits * powerOfTen a * unitsPerOne) (powerOfTen b) =
        ofUnits negative (digits * unitsPerOne) (powerOfTen (e + 1)) := by
      rw [hb, powerOfTen_add, Nat.mul_right_comm, ofUnits_mul_right (powerOfTen_pos a)]
    rw [hquotient, ofDecimal, if_neg hdigits]
    rfl

theorem ofDecimal_zero (negative : Bool) (exponent : Int) :
    ofDecimal negative 0 exponent = zero negative := rfl

/-- Zeros at the end of the digits do not count. -/
theorem ofDecimal_mul_powerOfTen (negative : Bool) (digits k : Nat) (exponent : Int) :
    ofDecimal negative (digits * powerOfTen k) (exponent - k) =
      ofDecimal negative digits exponent := by
  by_cases hdigits : digits = 0
  · rw [hdigits, Nat.zero_mul, ofDecimal_zero, ofDecimal_zero]
  · have hlonger : digits * powerOfTen k ≠ 0 :=
      Nat.mul_ne_zero hdigits (Nat.ne_of_gt (powerOfTen_pos k))
    have hexponent : exponent = exponent.toNat - (-exponent).toNat := by omega
    have hshifted : exponent - k = exponent.toNat - ((-exponent).toNat + k : Nat) := by omega
    have htop : topExponent (digits * powerOfTen k) (exponent - k) =
        topExponent digits exponent := by
      rw [topExponent, topExponent, length_decimal_mul_powerOfTen hdigits]
      omega
    rw [ofDecimal_eq hlonger negative hshifted, ofDecimal_eq hdigits negative hexponent, htop,
      powerOfTen_add, Nat.mul_right_comm digits, Nat.mul_right_comm _ (powerOfTen k),
      ofUnits_mul_right (powerOfTen_pos k)]

/-- The number with another sign. -/
def withSign (negative : Bool) : Binary64 → Binary64
  | nan => nan
  | infinite _ => infinite negative
  | finite _ magnitude => finite negative magnitude

theorem withSign_ofUnits (s t : Bool) (num den : Nat) :
    (ofUnits s num den).withSign t = ofUnits t num den := by
  unfold ofUnits
  split
  · rfl
  · rfl

/-- A sign before a decimal is the sign of the number. -/
theorem withSign_ofDecimal (s t : Bool) (digits : Nat) (exponent : Int) :
    (ofDecimal s digits exponent).withSign t = ofDecimal t digits exponent := by
  by_cases hdigits : digits = 0
  · rw [hdigits]
    rfl
  · have hexponent : exponent = exponent.toNat - (-exponent).toNat := by omega
    rw [ofDecimal_eq hdigits s hexponent, ofDecimal_eq hdigits t hexponent]
    split
    · rfl
    · split
      · rfl
      · exact withSign_ofUnits s t _ _

/-! ## Exact decimals -/

theorem units_pos {m : Nat} (hm : m ≠ 0) : 0 < units m := by
  unfold units
  split
  · exact Nat.pos_of_ne_zero hm
  · exact Nat.mul_pos (Nat.add_pos_left (by decide) _) (powerOfTwo_pos _)

/-- The units of all magnitudes are below a power of two. -/
theorem units_lt (magnitude : Fin finiteMagnitudes) : units magnitude < powerOfTwo 2098 := by
  have hbinade : 0 < binade := by decide
  have hq : magnitude.val / binade < 2047 := (Nat.div_lt_iff_lt_mul hbinade).2 magnitude.isLt
  have hr := Nat.mod_lt magnitude.val hbinade
  unfold units
  split
  · next hm => exact Nat.lt_of_lt_of_le hm (powerOfTwo_le_powerOfTwo (d := 52) (by decide))
  · calc (binade + magnitude.val % binade) * powerOfTwo (magnitude.val / binade - 1)
        < powerOfTwo 53 * powerOfTwo (magnitude.val / binade - 1) :=
          Nat.mul_lt_mul_of_pos_right (Nat.add_lt_add_left hr binade) (powerOfTwo_pos _)
      _ ≤ powerOfTwo 53 * powerOfTwo 2045 :=
          Nat.mul_le_mul_left _ (powerOfTwo_le_powerOfTwo (by omega))
      _ = powerOfTwo 2098 := (powerOfTwo_add 53 2045).symm

section

variable {magnitude : Fin finiteMagnitudes} {scale : Nat}

/-- The exact decimal of a magnitude is read in bounds. -/
theorem length_decimal_exact (hne : magnitude.val ≠ 0)
    (hscale : scale * unitsPerOne = powerOfTen 1074) :
    743 < (decimal (units magnitude * scale)).length ∧
      (decimal (units magnitude * scale)).length ≤ 1384 := by
  have hone : 0 < unitsPerOne := powerOfTwo_pos 1074
  constructor
  · have hlow : powerOfTen 743 * unitsPerOne ≤ scale * unitsPerOne := by
      rw [hscale]; decide +kernel
    rw [← Nat.not_le, length_decimal_le_iff (by decide), Nat.not_lt]
    exact Nat.le_trans (Nat.le_of_mul_le_mul_right hlow hone)
      (Nat.le_mul_of_pos_left scale (units_pos hne))
  · have hhigh : powerOfTwo 2098 * scale * unitsPerOne < powerOfTen 1384 * unitsPerOne := by
      rw [Nat.mul_assoc, hscale]; decide +kernel
    rw [length_decimal_le_iff (by decide)]
    exact Nat.lt_of_le_of_lt (Nat.mul_le_mul_right scale (Nat.le_of_lt (units_lt magnitude)))
      (Nat.lt_of_mul_lt_mul_right hhigh)

/-- The exact decimal of a magnitude is read as the magnitude. -/
theorem ofDecimal_exact (hne : magnitude.val ≠ 0)
    (hscale : scale * unitsPerOne = powerOfTen 1074) (negative : Bool) :
    ofDecimal negative (units magnitude * scale) (-1074) = .finite negative magnitude := by
  obtain ⟨hlong, hshort⟩ := length_decimal_exact hne hscale
  have hdigits : units magnitude * scale ≠ 0 := by
    intro hzero
    rw [hzero] at hlong
    exact absurd hlong (by decide)
  have htop : topExponent (units magnitude * scale) (-1074) =
      (decimal (units magnitude * scale)).length - 1074 := rfl
  have hquotient : units magnitude * scale * powerOfTen 0 * unitsPerOne =
      units magnitude * powerOfTen 1074 := by
    rw [powerOfTen_zero, Nat.mul_one, Nat.mul_assoc, hscale]
  rw [ofDecimal_eq hdigits negative (a := 0) (b := 1074) (by decide), if_neg (by omega),
    if_neg (by omega), hquotient, ← Nat.one_mul (powerOfTen 1074), ← Nat.mul_assoc, Nat.mul_one,
    ofUnits_mul_right (powerOfTen_pos 1074), ofUnits_units]

end

end Binary64

/-! ## Shortest decimals -/

/-- A text of decimal digits, at least one. -/
structure Text.IsDecimal (t : Text) : Prop where
  /-- There is a digit. -/
  ne_nil : t ≠ []
  /-- There is nothing but digits. -/
  digits : ∀ c ∈ t, c.isDigit = true

namespace Decimal

/-- The digits as a number. -/
def number (d : Decimal) : Nat := Nat.ofDigitChars 10 d.digits 0

/-- The exponent of the last digit. -/
def lastExponent (d : Decimal) : Int := d.exponent - (d.digits.length - 1 : Nat)

/-- The number that the decimal is read as, with a sign. -/
def toBinary64 (negative : Bool) (d : Decimal) : Binary64 :=
  .ofDecimal negative d.number d.lastExponent

/-- The digits of a number without the zeros at its end. -/
def keptDigits (n : Nat) : Text := ((decimal n).reverse.dropWhile (· == '0')).reverse

theorem digits_ofNat (n : Nat) (exponent : Int) :
    (ofNat n exponent).digits = if (keptDigits n).isEmpty then ['0'] else keptDigits n := rfl

theorem exponent_ofNat (n : Nat) (exponent : Int) :
    (ofNat n exponent).exponent = exponent + ((decimal n).length - 1 : Nat) := rfl

theorem exists_decimal_eq (n : Nat) : ∃ k, decimal n = keptDigits n ++ List.replicate k '0' := by
  have hzeros : ∀ c ∈ (decimal n).reverse.takeWhile (· == '0'), c = '0' := by
    intro c hc
    have hzero := List.mem_takeWhile_imp hc
    exact beq_iff_eq.1 hzero
  refine ⟨((decimal n).reverse.takeWhile (· == '0')).length, ?_⟩
  rw [keptDigits, ← List.reverse_replicate, ← List.eq_replicate_of_mem hzeros,
    ← List.reverse_append, List.takeWhile_append_dropWhile, List.reverse_reverse]

theorem isDecimal_ofNat (n : Nat) (exponent : Int) : (ofNat n exponent).digits.IsDecimal := by
  rw [digits_ofNat]
  split
  · exact ⟨List.cons_ne_nil _ _, List.forall_mem_singleton.2 rfl⟩
  · next hne =>
    obtain ⟨k, hk⟩ := exists_decimal_eq n
    refine ⟨mt List.isEmpty_iff.2 hne, fun c hc => isDigit_of_mem_decimal (n := n) ?_⟩
    rw [hk]
    exact List.mem_append_left _ hc

/-- The zeros at the end of the digits may be left out. -/
theorem toBinary64_ofNat (negative : Bool) (n : Nat) (exponent : Int) :
    (ofNat n exponent).toBinary64 negative = .ofDecimal negative n exponent := by
  obtain ⟨k, hk⟩ := exists_decimal_eq n
  have hn : n = Nat.ofDigitChars 10 (keptDigits n) 0 * powerOfTen k := by
    have hread := Nat.ofDigitChars_ten_toDigits (n := n)
    rw [← decimal, hk, Nat.ofDigitChars_append, Nat.ofDigitChars_replicate_zero, Nat.mul_comm]
      at hread
    exact hread.symm
  have hlength : (decimal n).length = (keptDigits n).length + k := by
    rw [hk, List.length_append, List.length_replicate]
  rw [toBinary64, number, lastExponent, digits_ofNat, exponent_ofNat, hlength]
  split
  · next hempty =>
    -- without a digit but zeros the number is zero
    rw [List.isEmpty_iff.1 hempty, Nat.ofDigitChars_nil, Nat.zero_mul] at hn
    rw [hn]
    rfl
  · next hne =>
    have hpos : 0 < (keptDigits n).length :=
      List.length_pos_iff.2 (mt List.isEmpty_iff.2 hne)
    have hexponent : exponent + ((keptDigits n).length + k - 1 : Nat) -
        ((keptDigits n).length - 1 : Nat) - k = exponent := by omega
    rw [← Binary64.ofDecimal_mul_powerOfTen negative _ k, ← hn, hexponent]

theorem isDecimal_shortest (magnitude : Fin finiteMagnitudes) :
    (shortest magnitude).digits.IsDecimal := by
  unfold shortest
  split
  · exact ⟨List.cons_ne_nil _ _, List.forall_mem_singleton.2 rfl⟩
  · cases h : (List.range' 1 17).findSome? (ofLength? magnitude) with
    | none => exact isDecimal_ofNat _ _
    | some d =>
      obtain ⟨count, -, hd⟩ := List.exists_of_findSome?_eq_some h
      obtain ⟨n, -, rfl⟩ := Option.map_eq_some_iff.1 hd
      exact isDecimal_ofNat _ _

/-- A decimal of some length was tried before it was taken. -/
theorem toBinary64_of_ofLength? (negative : Bool) {magnitude : Fin finiteMagnitudes} {count : Nat}
    {d : Decimal} (h : ofLength? magnitude count = some d) :
    d.toBinary64 negative = .finite negative magnitude := by
  obtain ⟨n, hn, rfl⟩ := Option.map_eq_some_iff.1 h
  have hread := List.find?_some hn
  rw [decide_eq_true_eq] at hread
  rw [toBinary64_ofNat, ← Binary64.withSign_ofDecimal false negative, hread]
  rfl

/-- The shortest decimal of a magnitude is read as the magnitude. -/
theorem toBinary64_shortest (negative : Bool) (magnitude : Fin finiteMagnitudes) :
    (shortest magnitude).toBinary64 negative = .finite negative magnitude := by
  unfold shortest
  split
  · next hzero =>
    have hmagnitude : magnitude = ⟨0, by decide⟩ := Fin.ext hzero
    rw [hmagnitude]
    rfl
  · next hne =>
    cases h : (List.range' 1 17).findSome? (ofLength? magnitude) with
    | none =>
      rw [Option.getD_none, toBinary64_ofNat]
      exact Binary64.ofDecimal_exact hne (by decide +kernel) negative
    | some d =>
      obtain ⟨count, -, hd⟩ := List.exists_of_findSome?_eq_some h
      exact toBinary64_of_ofLength? negative hd

end Decimal

end PlainReport
