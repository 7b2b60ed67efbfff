import PlainReport.Number.Integer

/-!
# Decimal digits

The digits of a number read back as the number (`readDecimal?_decimal`), and so does
an integer with its sign (`readInteger?_writeInteger`).  An integer of 64 bits is read
from the texts whose integer it is (`readInt64?_eq_some_iff`), its own among them.
-/

namespace PlainReport

theorem isDigit_of_mem_decimal {n : Nat} {c : Char} (h : c ∈ decimal n) : c.isDigit = true :=
  Nat.isDigit_of_mem_toDigits (by decide) (by decide) h

theorem decimal_ne_nil (n : Nat) : decimal n ≠ [] := Nat.toDigits_ne_nil

theorem isDigit_of_mem_zeros {n : Nat} : ∀ c ∈ List.replicate n '0', c.isDigit = true := by
  intro c hc
  rw [List.eq_of_mem_replicate hc]
  rfl

/-- A text of digits is read as the number that they stand for. -/
theorem readDecimal?_of_digits {t : Text} (hne : t ≠ []) (h : ∀ c ∈ t, c.isDigit = true) :
    readDecimal? t = some (Nat.ofDigitChars 10 t 0) := by
  have hall : t.all Char.isDigit = true := List.all_eq_true.2 h
  have hempty : t.isEmpty = false := List.isEmpty_eq_false_iff.2 hne
  rw [readDecimal?, hall, hempty]
  rfl

theorem readDecimal?_decimal (n : Nat) : readDecimal? (decimal n) = some n := by
  rw [readDecimal?_of_digits (decimal_ne_nil n) fun _ => isDigit_of_mem_decimal, decimal,
    Nat.ofDigitChars_ten_toDigits]

/-! ## Integers -/

theorem readSign_of_digits {t : Text} (h : ∀ c ∈ t, c.isDigit = true) :
    readSign t = (false, t) := by
  cases t with
  | nil => rfl
  | cons c t =>
    have hc : c.isDigit = true := h c List.mem_cons_self
    unfold readSign
    split
    · next heq => cases heq; exact absurd hc (by decide)
    · next heq => cases heq; exact absurd hc (by decide)
    · rfl

/-- A text of digits is read without a sign, too. -/
theorem readInteger?_of_digits {t : Text} (hne : t ≠ []) (h : ∀ c ∈ t, c.isDigit = true) :
    readInteger? t = some (Nat.ofDigitChars 10 t 0 : Int) := by
  simp [readInteger?, readSign_of_digits h, readDecimal?_of_digits hne h]

/-- An integer is written in digits, perhaps after a hyphen. -/
theorem mem_writeInteger {i : Int} {c : Char} (h : c ∈ writeInteger i) :
    c = '-' ∨ c.isDigit = true := by
  unfold writeInteger at h
  split at h
  · exact (List.mem_cons.1 h).imp_right isDigit_of_mem_decimal
  · exact .inr (isDigit_of_mem_decimal h)

theorem writeInteger_ne_nil (i : Int) : writeInteger i ≠ [] := by
  unfold writeInteger
  split
  · exact List.cons_ne_nil _ _
  · exact decimal_ne_nil _

theorem readInteger?_writeInteger (i : Int) : readInteger? (writeInteger i) = some i := by
  unfold writeInteger
  split
  · next hneg =>
    have habs : -(i.natAbs : Int) = i := by omega
    simp only [readInteger?, readSign, readDecimal?_decimal, if_true]
    exact congrArg some habs
  · next hpos =>
    have habs : (i.natAbs : Int) = i := by omega
    have hdigits : ∀ c ∈ decimal i.natAbs, c.isDigit = true := fun _ => isDigit_of_mem_decimal
    simp only [readInteger?, readSign_of_digits hdigits, readDecimal?_decimal, Bool.false_eq_true,
      if_false]
    exact congrArg some habs

/-- An integer is read as one of 64 bits if it fits. -/
theorem readInt64?_eq_some_iff {t : Text} {i : Int} (h : readInteger? t = some i) (n : Int64) :
    readInt64? t = some n ↔ n.toInt = i := by
  have hleast : leastInt64 = -2 ^ 63 := rfl
  have hgreatest : greatestInt64 + 1 = 2 ^ 63 := rfl
  have hlow := n.le_toInt
  have hhigh := n.toInt_lt
  rw [readInt64?, h, Option.bind_some]
  cases hfits : fitsInt64 i with
  | true =>
    simp only [fitsInt64, Bool.and_eq_true, decide_eq_true_eq] at hfits
    have hi : (Int64.ofInt i).toInt = i := Int64.toInt_ofInt_of_le (by omega) (by omega)
    rw [if_pos rfl, Option.some.injEq]
    constructor
    · rintro rfl
      exact hi
    · rintro rfl
      exact Int64.ofInt_toInt n
  | false =>
    simp only [Bool.false_eq_true, if_false, reduceCtorEq, false_iff]
    rintro rfl
    simp only [fitsInt64, Bool.and_eq_false_iff, decide_eq_false_iff_not] at hfits
    omega

theorem readInt64?_writeInt64 (n : Int64) : readInt64? (writeInt64 n) = some n :=
  (readInt64?_eq_some_iff (readInteger?_writeInteger n.toInt) n).2 rfl

theorem writeInt64_injective {m n : Int64} (h : writeInt64 m = writeInt64 n) : m = n := by
  have hread := congrArg readInt64? h
  rw [readInt64?_writeInt64, readInt64?_writeInt64] at hread
  exact Option.some.inj hread

end PlainReport
