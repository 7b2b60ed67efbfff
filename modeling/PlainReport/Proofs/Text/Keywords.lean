import PlainReport.Keyword
import PlainReport.Proofs.Text.Classes

/-!
# Keywords in any case

A keyword that is read in any case is found for the words whose small form it is
(`find?_eqIgnoringCase_iff`), and these words are made of word characters as it is
(`isWordChar_of_map_toLower`).
-/

namespace PlainReport.Text

/-- A capital letter of ASCII is a word character. -/
theorem isWordChar_of_isUpper {c : Char} (h : c.isUpper = true) : isWordChar c = true := by
  have hpoints : ∀ n ∈ List.range' 65 26, inRanges n alphanumericRanges = true := by decide +kernel
  have hbounds : 65 ≤ c.toNat ∧ c.toNat ≤ 90 := of_decide_eq_true h
  exact isWordChar_of_mem_range hpoints hbounds.1 (by omega)

/-- A character is a word character if its small form is one. -/
theorem isWordChar_of_toLower {c : Char} (h : isWordChar c.toLower = true) :
    isWordChar c = true := by
  cases hupper : c.isUpper with
  | true => exact isWordChar_of_isUpper hupper
  | false =>
    have hsmall : c.toLower = c := dif_neg (of_decide_eq_false hupper)
    rwa [hsmall] at h

theorem isWordChar_of_map_toLower {word keyword : Text}
    (hkeyword : ∀ c ∈ keyword, isWordChar c = true) (h : word.map Char.toLower = keyword)
    {c : Char} (hc : c ∈ word) : isWordChar c = true :=
  isWordChar_of_toLower (hkeyword _ (h ▸ List.mem_map_of_mem hc))

/-- Of choices with different keywords in small letters, the one is found whose keyword the
small form of the word is. -/
theorem find?_eqIgnoringCase_iff {α : Type} {keyword : α → Text} {choices : List α}
    (hall : ∀ a, a ∈ choices) (hinjective : ∀ a b, keyword a = keyword b → a = b)
    (hsmall : ∀ a, (keyword a).map Char.toLower = keyword a) {word : Text} {a : α} :
    choices.find? (fun b => eqIgnoringCase word (keyword b)) = some a ↔
      word.map Char.toLower = keyword a := by
  have hsame (b : α) : eqIgnoringCase word (keyword b) = true ↔
      word.map Char.toLower = keyword b := by rw [eqIgnoringCase, hsmall, beq_iff_eq]
  constructor
  · intro h
    exact (hsame a).1 (List.find?_some (p := fun b => eqIgnoringCase word (keyword b)) h)
  · intro h
    cases hfind : choices.find? fun b => eqIgnoringCase word (keyword b) with
    | none => exact absurd ((hsame a).2 h) (List.find?_eq_none.1 hfind a (hall a))
    | some b =>
      have hb := (hsame b).1 (List.find?_some (p := fun b => eqIgnoringCase word (keyword b)) hfind)
      rw [hinjective b a (hb.symm.trans h)]

end PlainReport.Text
