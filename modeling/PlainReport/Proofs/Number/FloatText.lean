import PlainReport.Number.FloatText
import PlainReport.Proofs.Number.DecimalValue
import PlainReport.Proofs.Text.Scanning

/-!
# Written numbers read back

A decimal is written positionally or with an exponent.  In both forms the digits before
and after the point make up its digits, perhaps with zeros around them, and the exponent
makes up for the place of the point (`readMagnitude?_of_point`).  So both forms are read
as the decimal (`readMagnitude?_positional`, `readMagnitude?_scientific`).

A number is written by its shortest decimal, so it is read back as it was, with its sign
(`readBinary64?_write`).
-/

namespace PlainReport

open Text

namespace Text.IsDecimal

variable {t u : Text}

theorem append_digits (ht : t.IsDecimal) (hu : ∀ c ∈ u, c.isDigit = true) : (t ++ u).IsDecimal :=
  ⟨List.append_ne_nil_of_left_ne_nil ht.ne_nil u, List.forall_mem_append.2 ⟨ht.digits, hu⟩⟩

theorem digits_append (ht : ∀ c ∈ t, c.isDigit = true) (hu : u.IsDecimal) : (t ++ u).IsDecimal :=
  ⟨List.append_ne_nil_of_right_ne_nil t hu.ne_nil, List.forall_mem_append.2 ⟨ht, hu.digits⟩⟩

theorem take (ht : t.IsDecimal) (n : Nat) : IsDecimal (t.take (n + 1)) := by
  refine ⟨?_, fun c hc => ht.digits c (List.mem_of_mem_take hc)⟩
  obtain ⟨c, rest, rfl⟩ := List.exists_cons_of_ne_nil ht.ne_nil
  exact List.cons_ne_nil c _

theorem length_pos (ht : t.IsDecimal) : 0 < t.length := List.length_pos_iff.2 ht.ne_nil

end Text.IsDecimal

theorem isDecimal_decimal (n : Nat) : (decimal n).IsDecimal :=
  ⟨decimal_ne_nil n, fun _ => isDigit_of_mem_decimal⟩

/-- Zeros in front do not count. -/
theorem ofDigitChars_zeros_append (n : Nat) (t : Text) :
    Nat.ofDigitChars 10 (List.replicate n '0' ++ t) 0 = Nat.ofDigitChars 10 t 0 := by
  rw [Nat.ofDigitChars_append, Nat.ofDigitChars_replicate_zero, Nat.mul_zero]

/-! ## Exponents -/

theorem readInteger?_minus {t : Text} (ht : t.IsDecimal) :
    readInteger? ('-' :: t) = some (-(Nat.ofDigitChars 10 t 0 : Int)) := by
  simp [readInteger?, readSign, readDecimal?_of_digits ht.ne_nil ht.digits]

theorem readInteger?_plus {t : Text} (ht : t.IsDecimal) :
    readInteger? ('+' :: t) = some (Nat.ofDigitChars 10 t 0 : Int) := by
  simp [readInteger?, readSign, readDecimal?_of_digits ht.ne_nil ht.digits]

/-- A signed exponent is read back, however many zeros fill it up. -/
theorem readInteger?_exponent (exponent : Int) (n : Nat) :
    readInteger? ((if exponent < 0 then ['-'] else ['+']) ++
      (List.replicate n '0' ++ decimal exponent.natAbs)) = some exponent := by
  have hdecimal := (isDecimal_decimal exponent.natAbs).digits_append (isDigit_of_mem_zeros (n := n))
  have hnumber : Nat.ofDigitChars 10 (List.replicate n '0' ++ decimal exponent.natAbs) 0 =
      exponent.natAbs := by
    rw [ofDigitChars_zeros_append, decimal, Nat.ofDigitChars_ten_toDigits]
  split
  · next hneg =>
    rw [List.singleton_append, readInteger?_minus hdecimal, hnumber]
    exact congrArg some (by omega)
  · next hpos =>
    rw [List.singleton_append, readInteger?_plus hdecimal, hnumber]
    exact congrArg some (by omega)

/-! ## Magnitudes -/

section

variable (negative : Bool) {d : Decimal} {whole part rest : Text} {exponent : Int}

/-- Digits with a point among them are read as a decimal if they are its digits, up to zeros,
and the exponent makes up for the digits after the point. -/
theorem readMagnitude?_of_point (hwhole : whole.IsDecimal)
    (hpart : ∀ c ∈ part, c.isDigit = true) (hrest : Stops Char.isDigit rest)
    (hexponent : readExponent? rest = some exponent) {k : Nat}
    (hnumber : Nat.ofDigitChars 10 (whole ++ part) 0 = d.number * powerOfTen k)
    (hlast : exponent - part.length = d.lastExponent - k) :
    readMagnitude? negative (whole ++ '.' :: (part ++ rest)) = some (d.toBinary64 negative) := by
  obtain ⟨htake, hdrop⟩ :=
    takeWhile_eq_of_stops hwhole.digits
      (stops_cons (p := Char.isDigit) (c := '.') rfl (part ++ rest))
  obtain ⟨htake', hdrop'⟩ := takeWhile_eq_of_stops hpart hrest
  have hempty : whole.isEmpty = false := List.isEmpty_eq_false_iff.2 hwhole.ne_nil
  simp only [readMagnitude?, htake, hdrop, htake', hdrop', hempty, Bool.false_and,
    Bool.false_eq_true, if_false, hexponent, Option.map_some, hnumber, hlast,
    Binary64.ofDecimal_mul_powerOfTen]
  rfl

/-- Digits without a point are read as the decimal of these digits. -/
theorem readMagnitude?_of_mark (hwhole : whole.IsDecimal)
    (hexponent : readInteger? rest = some exponent)
    (hnumber : Nat.ofDigitChars 10 whole 0 = d.number)
    (hlast : exponent = d.lastExponent) :
    readMagnitude? negative (whole ++ 'e' :: rest) = some (d.toBinary64 negative) := by
  obtain ⟨htake, hdrop⟩ :=
    takeWhile_eq_of_stops hwhole.digits (stops_cons (p := Char.isDigit) (c := 'e') rfl rest)
  have hempty : whole.isEmpty = false := List.isEmpty_eq_false_iff.2 hwhole.ne_nil
  have hmark : readExponent? ('e' :: rest) = some exponent := hexponent
  simp [readMagnitude?, htake, hdrop, hempty, hmark, hnumber, hlast, Decimal.toBinary64]

end

/-- Digits that end after a point have no exponent. -/
theorem readMagnitude?_of_pointed (negative : Bool) {d : Decimal} {whole part : Text}
    (hwhole : whole.IsDecimal) (hpart : ∀ c ∈ part, c.isDigit = true) {k : Nat}
    (hnumber : Nat.ofDigitChars 10 (whole ++ part) 0 = d.number * powerOfTen k)
    (hlast : -(part.length : Int) = d.lastExponent - k) :
    readMagnitude? negative (whole ++ '.' :: part) = some (d.toBinary64 negative) := by
  have h := readMagnitude?_of_point negative hwhole hpart (stops_nil _) rfl hnumber
    ((Int.zero_sub _).trans hlast)
  rwa [List.append_nil] at h

namespace FloatStyle

/-! ## The two forms -/

theorem fraction_nil : fraction [] = ['0'] := rfl

theorem fraction_of_ne_nil {t : Text} (h : t ≠ []) : fraction t = t :=
  if_neg (mt List.isEmpty_iff.1 h)

theorem readMagnitude?_positional (negative : Bool) {d : Decimal} (hd : d.digits.IsDecimal) :
    readMagnitude? negative (positional d) = some (d.toBinary64 negative) := by
  have hlength := hd.length_pos
  have hlast : d.lastExponent = d.exponent - (d.digits.length - 1 : Nat) := rfl
  unfold positional
  split
  · next e he =>
    have hwhole := (hd.take e).append_digits
      (isDigit_of_mem_zeros (n := e + 1 - d.digits.length))
    rw [List.append_assoc _ ['.'], List.singleton_append]
    by_cases hlong : d.digits.length ≤ e + 1
    · -- all digits stand before the point, perhaps with zeros after them
      rw [List.drop_eq_nil_of_le hlong, fraction_nil]
      refine readMagnitude?_of_pointed negative hwhole (List.forall_mem_singleton.2 rfl)
        (k := e + 1 - d.digits.length + 1) ?_ ?_
      · rw [List.take_of_length_le hlong, List.append_assoc, ← List.replicate_succ',
          Nat.ofDigitChars_append, Nat.ofDigitChars_replicate_zero, Nat.mul_comm]
        rfl
      · rw [hlast, he, Int.ofNat_eq_natCast, List.length_singleton]
        omega
    · -- the point stands among the digits
      rw [fraction_of_ne_nil (mt List.drop_eq_nil_iff.1 hlong)]
      refine readMagnitude?_of_pointed negative hwhole
        (fun c hc => hd.digits c (List.mem_of_mem_drop hc)) (k := 0) ?_ ?_
      · rw [Nat.sub_eq_zero_of_le (by omega), List.replicate_zero, List.append_nil,
          List.take_append_drop, powerOfTen_zero, Nat.mul_one]
        rfl
      · rw [hlast, he, Int.ofNat_eq_natCast, List.length_drop]
        omega
  · next e he =>
    -- the digits stand after the point, behind zeros
    have hpart := hd.digits_append (isDigit_of_mem_zeros (n := e))
    have hzero : Text.IsDecimal ['0'] := ⟨List.cons_ne_nil _ _, List.forall_mem_singleton.2 rfl⟩
    change readMagnitude? negative (['0'] ++ '.' :: (List.replicate e '0' ++ d.digits)) = _
    refine readMagnitude?_of_pointed negative hzero hpart.digits (k := 0) ?_ ?_
    · rw [← List.append_assoc, ← List.replicate_one, List.replicate_append_replicate,
        ofDigitChars_zeros_append, powerOfTen_zero, Nat.mul_one]
      rfl
    · rw [hlast, he, Int.negSucc_eq, List.length_append, List.length_replicate]
      omega

theorem readMagnitude?_scientific (negative : Bool) {d : Decimal} (hd : d.digits.IsDecimal) :
    readMagnitude? negative (report.scientific d) = some (d.toBinary64 negative) := by
  have hlength := hd.length_pos
  have hlast : d.lastExponent = d.exponent - (d.digits.length - 1 : Nat) := rfl
  have hexponent := readInteger?_exponent d.exponent (2 - (decimal d.exponent.natAbs).length)
  have hform : report.scientific d = d.digits.take 1 ++
      ((if d.digits.length ≤ 1 then [] else '.' :: d.digits.drop 1) ++
        'e' :: ((if d.exponent < 0 then ['-'] else ['+']) ++
          (List.replicate (2 - (decimal d.exponent.natAbs).length) '0' ++
            decimal d.exponent.natAbs))) := by
    simp [scientific, report]
  rw [hform]
  split
  · next hone =>
    rw [List.take_of_length_le hone, List.nil_append]
    exact readMagnitude?_of_mark negative hd hexponent rfl (by rw [hlast]; omega)
  · next hmore =>
    refine readMagnitude?_of_point negative (hd.take 0)
      (fun c hc => hd.digits c (List.mem_of_mem_drop hc)) (stops_cons rfl _) hexponent
      (k := 0) ?_ ?_
    · rw [List.take_append_drop, powerOfTen_zero, Nat.mul_one]
      rfl
    · rw [hlast, List.length_drop]
      omega

theorem exists_digit_of_isDecimal_append {t : Text} (ht : t.IsDecimal) (u : Text) :
    ∃ c rest, t ++ u = c :: rest ∧ c.isDigit = true := by
  obtain ⟨c, rest, rfl⟩ := List.exists_cons_of_ne_nil ht.ne_nil
  exact ⟨c, rest ++ u, rfl, ht.digits c List.mem_cons_self⟩

theorem exists_digit_of_positional {d : Decimal} (hd : d.digits.IsDecimal) :
    ∃ c rest, positional d = c :: rest ∧ c.isDigit = true := by
  unfold positional
  split
  · next e _ =>
    rw [List.append_assoc, List.append_assoc]
    exact exists_digit_of_isDecimal_append (hd.take e) _
  · exact ⟨'0', _, rfl, rfl⟩

theorem exists_digit_of_scientific {d : Decimal} (hd : d.digits.IsDecimal) :
    ∃ c rest, report.scientific d = c :: rest ∧ c.isDigit = true := by
  simp only [scientific, List.append_assoc]
  exact exists_digit_of_isDecimal_append (hd.take 0) _

end FloatStyle

/-! ## Numbers -/

/-- A digit has no other case. -/
theorem toLower_of_isDigit {c : Char} (h : c.isDigit = true) : c.toLower = c := by
  have hdigit : c.val.toNat ≤ '9'.val.toNat := by
    simp only [Char.isDigit, Bool.and_eq_true, decide_eq_true_eq, UInt32.le_iff_toNat_le] at h
    exact h.2
  have hcapital : '9'.val.toNat < 'A'.val.toNat := by decide
  exact dif_neg fun hc => Nat.not_le.2 (Nat.lt_of_le_of_lt hdigit hcapital)
    (UInt32.le_iff_toNat_le.1 hc.1)

/-- Behind a sign, a text that begins with a digit is read as a magnitude. -/
theorem readBinary64?_of_digit (negative : Bool) {t : Text}
    (h : ∃ c rest, t = c :: rest ∧ c.isDigit = true) :
    readBinary64? ((if negative then ['-'] else []) ++ t) = readMagnitude? negative t := by
  obtain ⟨c, rest, rfl, hc⟩ := h
  have hsign : readSign ((if negative then ['-'] else []) ++ c :: rest) =
      (negative, c :: rest) := by
    cases negative with
    | true => rfl
    | false =>
      have hplus : c ≠ '+' := by rintro rfl; cases hc
      have hminus : c ≠ '-' := by rintro rfl; cases hc
      simp [readSign, hplus, hminus]
  have hword {x : Char} (hx : x.isDigit = false) (w : Text) :
      (c :: rest).map Char.toLower ≠ x :: w := by
    intro heq
    rw [List.map_cons, toLower_of_isDigit hc] at heq
    rw [(List.cons.inj heq).1, hx] at hc
    cases hc
  have hnan : (c :: rest).map Char.toLower ≠ ("nan" : Text) := hword rfl _
  have hinf : (c :: rest).map Char.toLower ≠ ("inf" : Text) := hword rfl _
  have hinfinity : (c :: rest).map Char.toLower ≠ ("infinity" : Text) := hword rfl _
  simp only [readBinary64?, hsign, hnan, hinf, hinfinity, if_false, decide_false, Bool.or_self,
    Bool.false_eq_true]

/-- A number in the style of reports is read back as it was. -/
theorem readBinary64?_write (x : Binary64) :
    readBinary64? (FloatStyle.report.write x) = some x := by
  cases x with
  | nan => rfl
  | infinite negative => cases negative <;> rfl
  | finite negative magnitude =>
    have hdecimal := Decimal.isDecimal_shortest magnitude
    unfold FloatStyle.write
    by_cases hform : FloatStyle.isPositional (Decimal.shortest magnitude).exponent = true
    · dsimp only
      rw [if_pos hform,
        readBinary64?_of_digit negative (FloatStyle.exists_digit_of_positional hdecimal),
        FloatStyle.readMagnitude?_positional negative hdecimal, Decimal.toBinary64_shortest]
    · dsimp only
      rw [if_neg hform,
        readBinary64?_of_digit negative (FloatStyle.exists_digit_of_scientific hdecimal),
        FloatStyle.readMagnitude?_scientific negative hdecimal, Decimal.toBinary64_shortest]

end PlainReport
