import PlainReport.Text.Capital

/-!
# Capitals are letters

A capital form consists of code points from `A` on.  So the blanks, digits and signs
before `A` stand in a text in capitals only where they stood in the text
(`mem_of_mem_toUpper`).  Every character has a capital form, so a name does not vanish
(`toUpper_ne_nil`).
-/

namespace PlainReport.Text

theorem le_capitalOf {runs : List CapitalRun} (hruns : ∀ run ∈ runs, 'A'.toNat ≤ run.capital)
    {n : Nat} (hn : 'A'.toNat ≤ n) : 'A'.toNat ≤ capitalOf n runs := by
  induction runs with
  | nil => exact hn
  | cons run runs ih =>
    obtain ⟨hrun, hrest⟩ := List.forall_mem_cons.1 hruns
    unfold capitalOf
    split
    · exact hn
    · split
      · split
        · omega
        · exact hn
      · exact ih hrest

theorem le_of_mem_capitalRuns : ∀ run ∈ capitalRuns, 'A'.toNat ≤ run.capital := by decide +kernel

theorem le_of_mem_longCapitals :
    ∀ entry ∈ longCapitals, ∀ n ∈ entry.2, 'A'.toNat ≤ (Char.ofNat n).toNat := by decide +kernel

theorem mem_longCapitals {c : Char} {form : List Nat}
    (h : longCapitals.lookup c.toNat = some form) : (c.toNat, form) ∈ longCapitals := by
  obtain ⟨before, after, hsplit, -⟩ := List.lookup_eq_some_iff.1 h
  simp [hsplit]

/-- The code point of a character is kept, if it is one. -/
theorem toNat_ofNat (n : Nat) : (Char.ofNat n).toNat = n ∨ (Char.ofNat n).toNat = 0 := by
  by_cases h : n.isValidChar
  · exact .inl (congrArg Char.toNat (dif_pos h))
  · exact .inr (congrArg Char.toNat (dif_neg h))

theorem toUpper_eq_of_lt {c : Char} (hc : c.toNat < 0x80) (h : c.toUpper.toNat < 'A'.toNat) :
    c.toUpper = c := by
  have hall : ∀ n ∈ List.range 0x80, (Char.ofNat n).toUpper.toNat < 'A'.toNat →
      (Char.ofNat n).toUpper = Char.ofNat n := by decide +kernel
  have hone := hall c.toNat (List.mem_range.2 hc)
  rw [Char.ofNat_toNat] at hone
  exact hone h

/-- A sign before `A` is the capital of itself only. -/
theorem eq_of_mem_capitals {x c : Char} (hpos : 0 < x.toNat) (hx : x.toNat < 'A'.toNat)
    (h : x ∈ capitals c) : x = c := by
  unfold capitals at h
  split at h
  · next hc =>
    cases List.mem_singleton.1 h
    exact toUpper_eq_of_lt hc hx
  · next hc =>
    split at h
    · next form hform =>
      obtain ⟨n, hn, rfl⟩ := List.mem_map.1 h
      have hle := le_of_mem_longCapitals _ (mem_longCapitals hform) n hn
      omega
    · cases List.mem_singleton.1 h
      have hge : 'A'.toNat ≤ c.toNat := by
        have : 'A'.toNat = 0x41 := rfl
        omega
      have hle := le_capitalOf le_of_mem_capitalRuns hge
      rcases toNat_ofNat (capitalOf c.toNat capitalRuns) with heq | hzero
      · omega
      · omega

theorem mem_of_mem_toUpper {x : Char} (hpos : 0 < x.toNat) (hx : x.toNat < 'A'.toNat) {t : Text}
    (h : x ∈ toUpper t) : x ∈ t := by
  obtain ⟨c, hc, hmem⟩ := List.mem_flatMap.1 h
  exact eq_of_mem_capitals hpos hx hmem ▸ hc

/-- A character that is its own capital stays. -/
theorem mem_toUpper {x : Char} (hx : capitals x = [x]) {t : Text} (h : x ∈ t) : x ∈ toUpper t :=
  List.mem_flatMap.2 ⟨x, h, hx ▸ List.mem_singleton_self x⟩

theorem capitals_ne_nil (c : Char) : capitals c ≠ [] := by
  have hforms : ∀ entry ∈ longCapitals, entry.2 ≠ [] := by decide
  unfold capitals
  split
  · exact List.cons_ne_nil _ _
  · split
    · next form hform => exact mt List.map_eq_nil_iff.1 (hforms _ (mem_longCapitals hform))
    · exact List.cons_ne_nil _ _

theorem toUpper_ne_nil {t : Text} (h : t ≠ []) : toUpper t ≠ [] := by
  obtain ⟨c, rest, rfl⟩ := List.exists_cons_of_ne_nil h
  rw [toUpper, List.flatMap_cons]
  exact List.append_ne_nil_of_left_ne_nil (capitals_ne_nil c) _

end PlainReport.Text
