import PlainReport.Text.Cursor

/-!
# Classes of characters

Word characters and blanks have nothing in common (`isBlank_of_isWordChar`), so a
word is never cut by trimming.  The characters that divide definitions stand in no
name (`isNameChar_of_mem_dividers`).
-/

namespace PlainReport.Text

/-- The code points of the blanks. -/
def blankPoints : List Nat := [0x9, 0xa, 0xb, 0xc, 0xd, 0x20, 0x85, 0xa0, 0x1680, 0x2000, 0x2001,
  0x2002, 0x2003, 0x2004, 0x2005, 0x2006, 0x2007, 0x2008, 0x2009, 0x200a, 0x2028, 0x2029, 0x202f,
  0x205f, 0x3000]

theorem toNat_mem_blankPoints {c : Char} (h : isBlank c = true) : c.toNat ∈ blankPoints := by
  simp only [isBlank, Bool.or_eq_true, Bool.and_eq_true, decide_eq_true_eq, beq_iff_eq] at h
  simp only [blankPoints, List.mem_cons, List.not_mem_nil, or_false]
  omega

/-- A word character is no blank. -/
theorem isBlank_of_isWordChar {c : Char} (h : isWordChar c = true) : isBlank c = false := by
  rw [← Bool.not_eq_true]
  intro hb
  have hpoints : ∀ n ∈ blankPoints, inRanges n alphanumericRanges = false ∧ n ≠ '_'.toNat := by
    decide +kernel
  obtain ⟨halpha, hline⟩ := hpoints c.toNat (toNat_mem_blankPoints hb)
  rw [isWordChar, isAlphanumeric, halpha, Bool.false_or, beq_iff_eq] at h
  exact hline (congrArg Char.toNat h)

theorem isWordChar_of_isBlank {c : Char} (h : isBlank c = true) : isWordChar c = false := by
  rw [← Bool.not_eq_true]
  intro hword
  rw [isBlank_of_isWordChar hword] at h
  cases h

theorem isWordChar_of_mem_range {c : Char} {first count : Nat}
    (hpoints : ∀ n ∈ List.range' first count, inRanges n alphanumericRanges = true)
    (hlow : first ≤ c.toNat) (hhigh : c.toNat < first + count) : isWordChar c = true := by
  have hmem : c.toNat ∈ List.range' first count := List.mem_range'_1.2 ⟨hlow, hhigh⟩
  rw [isWordChar, isAlphanumeric, hpoints c.toNat hmem, Bool.true_or]

/-- A digit is a word character. -/
theorem isWordChar_of_isDigit {c : Char} (h : c.isDigit = true) : isWordChar c = true := by
  have hpoints : ∀ n ∈ List.range' 48 10, inRanges n alphanumericRanges = true := by decide +kernel
  simp only [Char.isDigit, Bool.and_eq_true, decide_eq_true_eq] at h
  have hhigh : c.toNat ≤ 57 := h.2
  exact isWordChar_of_mem_range hpoints h.1 (by omega)

theorem isBlank_of_isDigit {c : Char} (h : c.isDigit = true) : isBlank c = false :=
  isBlank_of_isWordChar (isWordChar_of_isDigit h)

theorem isNameChar_of_isWordChar {c : Char} (h : isWordChar c = true) : isNameChar c = true := by
  simp [isNameChar, h]

theorem isNameChar_of_isBlank {c : Char} (h : isBlank c = true) : isNameChar c = true := by
  simp [isNameChar, h]

/-- The characters that divide definitions and their parts. -/
def dividers : List Char := ['#', ';', '|', ':', '=', '<', '>', '!']

theorem isNameChar_of_mem_dividers {x : Char} (h : x ∈ dividers) : isNameChar x = false := by
  have hall : dividers.all (!isNameChar ·) = true := by decide +kernel
  rw [← Bool.not_eq_true']
  exact List.all_eq_true.1 hall x h

theorem isWordChar_of_mem_dividers {x : Char} (h : x ∈ dividers) : isWordChar x = false := by
  cases hw : isWordChar x with
  | false => rfl
  | true =>
    have hname := isNameChar_of_isWordChar hw
    rw [isNameChar_of_mem_dividers h] at hname
    cases hname

theorem ne_space_of_mem_dividers {x : Char} (h : x ∈ dividers) : x ≠ ' ' := by
  intro he
  rw [he] at h
  exact absurd h (by decide)

/-- A character outside a class is in no part of it. -/
theorem eq_false_of_class {p q : Char → Bool} {x : Char} (hpq : p x = true → q x = true)
    (hx : q x = false) : p x = false := by
  rw [← Bool.not_eq_true] at hx ⊢
  exact mt hpq hx

/-- A character outside a class does not stand in a text of the class. -/
theorem not_mem_of_class {p : Char → Bool} {t : Text} {x : Char} (ht : ∀ c ∈ t, p c = true)
    (hx : p x = false) : x ∉ t := by
  intro hm
  rw [ht x hm] at hx
  cases hx

end PlainReport.Text
