import Mathlib.Data.List.TakeWhile
import PlainReport.Letter.Placeholder
import PlainReport.Proofs.Pattern.LayoutText

/-!
# What a placeholder consists of

Every step of a layout passes over characters of names only (`Text.Cursor.Passes`), and so
does a whole layout (`Layout.passes_read`).  A placeholder is read to its end, so it
consists of characters of names and bars (`Placeholder.isNameChar_or_bar_of_read`).
-/

namespace PlainReport

open Text

/-! ## Steps of a cursor -/

namespace Text.Cursor

/-- The second place is reached from the first one over characters of names. -/
def Passes (c d : Cursor) : Prop :=
  ∃ t, (∀ x ∈ t, isNameChar x = true) ∧ c.rest = t ++ d.rest

namespace Passes

variable {c d e : Cursor}

theorem refl (c : Cursor) : c.Passes c := ⟨[], List.forall_mem_nil _, rfl⟩

theorem trans (h : c.Passes d) (h' : d.Passes e) : c.Passes e := by
  obtain ⟨t, ht, hc⟩ := h
  obtain ⟨u, hu, hd⟩ := h'
  exact ⟨t ++ u, List.forall_mem_append.2 ⟨ht, hu⟩, by rw [hc, hd, List.append_assoc]⟩

/-- A character that is in no name is still to come. -/
theorem mem (h : c.Passes d) {x : Char} (hx : isNameChar x = false) (hmem : x ∈ c.rest) :
    x ∈ d.rest := by
  obtain ⟨t, ht, hc⟩ := h
  rw [hc] at hmem
  exact (List.mem_append.1 hmem).resolve_left (not_mem_of_class ht hx)

theorem length_le (h : c.Passes d) : d.rest.length ≤ c.rest.length := by
  obtain ⟨t, -, hc⟩ := h
  rw [hc, List.length_append]
  exact Nat.le_add_left _ _

end Passes

theorem passes_takeWhile {p : Char → Bool} (hp : ∀ {x}, p x = true → isNameChar x = true)
    (c : Cursor) : c.Passes (c.takeWhile p).2 := by
  obtain ⟨hrest, hrun, -⟩ := c.takeWhile_divides p
  exact ⟨_, fun x hx => hp (hrun x hx), hrest⟩

theorem passes_skipBlanks (c : Cursor) : c.Passes c.skipBlanks :=
  c.passes_takeWhile isNameChar_of_isBlank

theorem passes_getD_eat? {x : Char} (hx : isNameChar x = true) (c : Cursor) :
    c.Passes ((c.eat? x).getD c) := by
  cases hd : c.eat? x with
  | none => exact .refl c
  | some d => exact ⟨[x], List.forall_mem_singleton.2 hx, rest_of_eat? hd⟩

end Text.Cursor

/-! ## Steps of a layout -/

theorem Alignment.mem_letters_of_ofLetter? {y : Char} {a : Alignment} (h : ofLetter? y = some a) :
    y ∈ ['l', 'c', 'с', 'r'] := by
  by_contra hnot
  simp only [List.mem_cons, List.not_mem_nil, or_false, not_or] at hnot
  simp [ofLetter?, hnot] at h

theorem Alignment.isWordChar_of_ofLetter? {y : Char} {a : Alignment} (h : ofLetter? y = some a) :
    isWordChar y = true := by
  have hletters : ['l', 'c', 'с', 'r'].all isWordChar = true := by decide +kernel
  exact List.all_eq_true.1 hletters y (mem_letters_of_ofLetter? h)

theorem Alignment.isDigit_of_ofLetter? {y : Char} {a : Alignment} (h : ofLetter? y = some a) :
    y.isDigit = false := by
  have hletters : ['l', 'c', 'с', 'r'].all (!·.isDigit) = true := by decide
  have hy := List.all_eq_true.1 hletters y (mem_letters_of_ofLetter? h)
  rwa [Bool.not_eq_true'] at hy

namespace Layout

variable {c rest : Cursor}

theorem passes_skipHyphen (c : Cursor) : c.Passes (skipHyphen c) := by
  have hhyphen := c.skipBlanks.passes_getD_eat? (x := '-') (by decide +kernel)
  exact (c.passes_skipBlanks.trans hhyphen).trans (Cursor.passes_skipBlanks _)

/-- A width that is read, or none, is the run of digits. -/
theorem eq_of_readWidth {width : Option Nat} (h : readWidth c = .ok (width, rest)) :
    rest = (c.takeWhile Char.isDigit).2 := by
  unfold readWidth at h
  dsimp only at h
  split at h
  · cases h
    rfl
  · split at h
    · cases h
    · split at h
      · cases h
      · cases h
        rfl

theorem passes_readAlignment (c : Cursor) : c.Passes (readAlignment c).2 := by
  unfold readAlignment
  split
  · exact .refl c
  · split
    · exact .refl c
    · split
      · exact .refl c
      · next ha =>
        exact c.passes_getD_eat? (isNameChar_of_isWordChar (Alignment.isWordChar_of_ofLetter? ha))

theorem passes_readUnit (form : UnitSyntax) (c : Cursor) : c.Passes (readUnit form c).2 := by
  unfold readUnit
  split
  · cases form with
    | word => exact c.passes_takeWhile isNameChar_of_isWordChar
    | phrase => exact c.passes_takeWhile id
  · exact .refl c

/-- A layout passes over characters of names only. -/
theorem passes_read {form : UnitSyntax} {layout : Layout}
    (h : Layout.read form c = .ok (layout, rest)) : c.Passes rest := by
  obtain ⟨width, d, hwidth, -, rfl⟩ := read_eq_ok_iff.1 h
  have hd : (skipHyphen c).Passes d := by
    rw [eq_of_readWidth hwidth]
    exact Cursor.passes_takeWhile (fun hx => isNameChar_of_isWordChar (isWordChar_of_isDigit hx)) _
  have halignment := (passes_skipHyphen d).trans (passes_readAlignment (skipHyphen d))
  have hunit := (passes_skipHyphen (readAlignment (skipHyphen d)).2).trans (passes_readUnit form _)
  have hlast := (passes_skipHyphen c).trans (hd.trans (halignment.trans hunit))
  exact hlast.trans (Cursor.passes_skipBlanks _)

/-- A unit of several words is made of characters of names. -/
theorem isNameChar_of_mem_readUnit {x : Char} (hx : x ∈ (readUnit .phrase c).1) :
    isNameChar x = true := by
  unfold readUnit at hx
  split at hx
  · exact List.mem_takeWhile_imp (trimEnd_subset _ hx)
  · cases hx

end Layout

/-! ## Placeholders -/

namespace Placeholder

variable {inner : Text} {p : Placeholder}

/-- After the bar it is left to the layout whether a placeholder is read. -/
theorem readLayout_eq_ok_iff {name : Text} {c : Cursor} :
    readLayout name c = .ok p ↔ ∃ layout rest, Layout.read .phrase c = .ok (layout, rest) ∧
      rest.atEnd = true ∧
        p = ⟨toUpper name, layout.width, layout.alignment.getD .center, layout.unit⟩ := by
  unfold readLayout
  constructor
  · intro h
    split at h
    · cases h
    · next layout rest hlayout =>
      split at h
      · next hend =>
        cases h
        exact ⟨layout, rest, hlayout, hend, rfl⟩
      · cases h
  · intro h
    obtain ⟨layout, rest, hlayout, hend, rfl⟩ := h
    rw [hlayout]
    exact if_pos hend

/-- A placeholder that is read has a name, and nothing after it or a bar and a layout. -/
theorem read_eq_ok (h : read inner = .ok p) :
    let rest := ((Cursor.ofText inner).takeWhile isNameChar).2
    (rest.atEnd = true ∧ p.unit = []) ∨ ∃ c d layout, rest.eat? '|' = some c ∧
      Layout.read .phrase c = .ok (layout, d) ∧ d.atEnd = true ∧ p.unit = layout.unit := by
  intro rest
  unfold read at h
  dsimp only at h
  split at h
  · cases h
  · split at h
    · next hend =>
      cases h
      exact .inl ⟨hend, rfl⟩
    · split at h
      · cases h
      · next c hbar =>
        obtain ⟨layout, d, hlayout, hend, rfl⟩ := readLayout_eq_ok_iff.1 h
        exact .inr ⟨c, d, layout, hbar, hlayout, hend, rfl⟩

/-- A placeholder that is read consists of characters of names and bars. -/
theorem isNameChar_or_bar_of_read (h : read inner = .ok p) {x : Char} (hx : x ∈ inner) :
    isNameChar x = true ∨ x = '|' := by
  by_contra hnot
  obtain ⟨hname, hbar⟩ := not_or.1 hnot
  rw [Bool.not_eq_true] at hname
  have hrest := (Cursor.passes_takeWhile id (Cursor.ofText inner)).mem hname hx
  rcases read_eq_ok h with ⟨hend, -⟩ | ⟨c, d, layout, heat, hlayout, hend, -⟩
  · rw [List.isEmpty_iff.1 hend] at hrest
    cases hrest
  · rw [Cursor.rest_of_eat? heat] at hrest
    have hd := (Layout.passes_read hlayout).mem hname ((List.mem_cons.1 hrest).resolve_left hbar)
    rw [List.isEmpty_iff.1 hend] at hd
    cases hd

/-- The unit of a placeholder is made of characters of names. -/
theorem isNameChar_of_mem_unit (h : read inner = .ok p) {x : Char} (hx : x ∈ p.unit) :
    isNameChar x = true := by
  rcases read_eq_ok h with ⟨-, hunit⟩ | ⟨c, d, layout, -, hlayout, -, hunit⟩
  · rw [hunit] at hx
    cases hx
  · rw [hunit] at hx
    obtain ⟨width, e, -, rfl, -⟩ := Layout.read_eq_ok_iff.1 hlayout
    exact Layout.isNameChar_of_mem_readUnit hx

end Placeholder

end PlainReport
