import PlainReport.Proofs.Letter.Bars

/-!
# One layout for columns and placeholders

The layout of a column can be used in a placeholder as it stands: wherever a column is
read, the same name and the same layout without the type are read as a placeholder, with
the same parts (`Placeholder.read_of_column`).

A definition loses the blanks at its end before it is read and the inside of a placeholder
does not, so the two readers go over texts that differ by blanks at the end
(`Text.Cursor.Padded`).  Every step of a layout keeps this relation.  The units are read
differently, but a word that only blanks follow is also the phrase that stands there
(`Layout.readUnit_phrase_of_word`).
-/

namespace PlainReport

open Text

/-! ## Steps over texts that differ by blanks at the end -/

namespace Text.Cursor

/-- The second cursor has the text of the first one and blanks after it. -/
def Padded (c d : Cursor) : Prop := ∃ b, (∀ x ∈ b, isBlank x = true) ∧ d.rest = c.rest ++ b

namespace Padded

variable {c d : Cursor} (h : c.Padded d)

include h

/-- A run of a class without blanks is the same in both texts. -/
theorem takeWhile {p : Char → Bool} (hp : ∀ x, isBlank x = true → p x = false) :
    (d.takeWhile p).1 = (c.takeWhile p).1 ∧ (c.takeWhile p).2.Padded (d.takeWhile p).2 := by
  obtain ⟨b, hb, hd⟩ := h
  obtain ⟨hrest, hrun, hstops⟩ := c.takeWhile_divides p
  obtain ⟨hrest', hrun', hstops'⟩ := d.takeWhile_divides p
  have hafter := hstops.append (stops_of_forall fun x hx => hp x (hb x hx))
  have hsame : (d.takeWhile p).1 ++ (d.takeWhile p).2.rest =
      (c.takeWhile p).1 ++ ((c.takeWhile p).2.rest ++ b) := by
    rw [← hrest', hd, ← List.append_assoc, ← hrest]
  obtain ⟨htaken, hleft⟩ := append_inj_of_stops hrun' hrun hstops' hafter hsame
  exact ⟨htaken, b, hb, hleft⟩

theorem skipBlanks : c.skipBlanks.Padded d.skipBlanks := by
  obtain ⟨b, hb, hd⟩ := h
  have hrest : d.skipBlanks.rest = if (c.rest.dropWhile isBlank).isEmpty
      then b.dropWhile isBlank else c.rest.dropWhile isBlank ++ b := by
    rw [← List.dropWhile_append, ← hd]
    rfl
  cases hempty : (c.rest.dropWhile isBlank).isEmpty with
  | true =>
    rw [hempty, if_pos rfl, List.dropWhile_eq_nil_iff.2 hb] at hrest
    have hnil : c.skipBlanks.rest = [] := List.isEmpty_iff.1 hempty
    exact ⟨[], List.forall_mem_nil _, by rw [hrest, hnil, List.append_nil]⟩
  | false =>
    rw [hempty] at hrest
    exact ⟨b, hb, hrest⟩

theorem eat? {x : Char} (hx : isBlank x = false) :
    ((c.eat? x).getD c).Padded ((d.eat? x).getD d) := by
  obtain ⟨b, hb, hd⟩ := h
  obtain ⟨rest, n⟩ := c
  obtain ⟨rest', m⟩ := d
  cases hd
  cases rest with
  | cons y rest =>
    by_cases hy : y = x
    · subst hy
      exact ⟨b, hb, by simp [eat?_cons]⟩
    · exact ⟨b, hb, by simp [Cursor.eat?, hy]⟩
  | nil =>
    cases b with
    | nil => exact ⟨[], hb, rfl⟩
    | cons y b =>
      have hy : y ≠ x := by
        rintro rfl
        rw [hb y List.mem_cons_self] at hx
        cases hx
      exact ⟨y :: b, hb, by simp [Cursor.eat?, hy]⟩

/-- Whether the next character is in a class without blanks is the same for both texts. -/
theorem any_peek? {p : Char → Bool} (hp : ∀ x, isBlank x = true → p x = false) :
    d.peek?.any p = c.peek?.any p := by
  obtain ⟨b, hb, hd⟩ := h
  rw [peek?, peek?, hd]
  cases c.rest with
  | cons x rest => rfl
  | nil =>
    cases b with
    | nil => rfl
    | cons y b => exact hp y (hb y List.mem_cons_self)

theorem any_peekSecond? {p : Char → Bool} (hp : ∀ x, isBlank x = true → p x = false) :
    d.peekSecond?.any p = c.peekSecond?.any p := by
  have htail : (Cursor.mk c.rest.tail 0).Padded ⟨d.rest.tail, 0⟩ := by
    obtain ⟨b, hb, hd⟩ := h
    cases hc : c.rest with
    | cons x rest => exact ⟨b, hb, by rw [hd, hc]; rfl⟩
    | nil =>
      refine ⟨b.tail, fun x hx => hb x (List.mem_of_mem_tail hx), ?_⟩
      rw [hd, hc]
      rfl
  exact htail.any_peek? hp

/-- The next character is the same for both texts, or only blanks are left. -/
theorem peek?_eq : d.peek? = c.peek? ∨ c.peek? = none ∧ ∀ x ∈ d.peek?, isBlank x = true := by
  obtain ⟨b, hb, hd⟩ := h
  rw [peek?, peek?, hd]
  cases c.rest with
  | cons x rest => exact .inl rfl
  | nil => exact .inr ⟨rfl, fun x hx => hb x (List.mem_of_mem_head? hx)⟩

end Padded

theorem atEnd_skipBlanks_iff {c : Cursor} :
    c.skipBlanks.atEnd = true ↔ ∀ x ∈ c.rest, isBlank x = true := by
  rw [atEnd, List.isEmpty_iff]
  exact List.dropWhile_eq_nil_iff

end Text.Cursor

/-! ## Layouts -/

theorem Alignment.ofLetter?_of_isBlank {x : Char} (h : isBlank x = true) : ofLetter? x = none := by
  cases hx : ofLetter? x with
  | none => rfl
  | some a =>
    rw [isBlank_of_isWordChar (isWordChar_of_ofLetter? hx)] at h
    cases h

namespace Layout

variable {c d : Cursor} (h : c.Padded d)

include h

theorem padded_skipHyphen : (skipHyphen c).Padded (skipHyphen d) :=
  (h.skipBlanks.eat? (by decide)).skipBlanks

theorem readWidth_padded {width : Option Nat} {rest : Cursor}
    (hread : readWidth c = .ok (width, rest)) :
    ∃ rest', readWidth d = .ok (width, rest') ∧ rest.Padded rest' := by
  have hdigit : ∀ x, isBlank x = true → x.isDigit = false := fun x hx =>
    eq_false_of_class isWordChar_of_isDigit (isWordChar_of_isBlank hx)
  obtain ⟨hdigits, hrest⟩ := h.takeWhile hdigit
  unfold readWidth at hread ⊢
  dsimp only at hread ⊢
  rw [hdigits]
  split at hread
  · cases hread
    exact ⟨_, rfl, hrest⟩
  · split at hread
    · cases hread
    · next hlimit =>
      rw [if_neg hlimit]
      split at hread
      · cases hread
      · next hzero =>
        cases hread
        exact ⟨_, if_neg hzero, hrest⟩

theorem readAlignment_padded : (readAlignment d).1 = (readAlignment c).1 ∧
    (readAlignment c).2.Padded (readAlignment d).2 := by
  unfold readAlignment
  rw [h.any_peekSecond? fun _ => isWordChar_of_isBlank]
  split
  · exact ⟨rfl, h⟩
  · rcases h.peek?_eq with hpeek | ⟨hnone, hblank⟩
    · rw [hpeek]
      split
      · exact ⟨rfl, h⟩
      · split
        · exact ⟨rfl, h⟩
        · next ha =>
          exact ⟨rfl, h.eat? (isBlank_of_isWordChar (Alignment.isWordChar_of_ofLetter? ha))⟩
    · rw [hnone]
      split
      · exact ⟨rfl, h⟩
      · next x hx =>
        rw [Alignment.ofLetter?_of_isBlank (hblank x hx)]
        exact ⟨rfl, h⟩

/-- A word that only blanks follow is also read as a phrase. -/
theorem readUnit_phrase_of_word (hend : (readUnit .word c).2.skipBlanks.atEnd = true) :
    (readUnit .phrase d).1 = (readUnit .word c).1 ∧
      (readUnit .phrase d).2.skipBlanks.atEnd = true := by
  obtain ⟨b, hb, hd⟩ := id h
  rw [Cursor.atEnd_skipBlanks_iff] at hend ⊢
  unfold readUnit at hend ⊢
  rw [h.any_peek? fun _ => isWordChar_of_isBlank]
  by_cases hword : c.peek?.any isWordChar = true
  · rw [if_pos hword] at hend ⊢
    rw [if_pos hword]
    obtain ⟨hrest, hrun, hstops⟩ := c.takeWhile_divides isWordChar
    have hne : (c.takeWhile isWordChar).1 ≠ [] := by
      intro hnil
      rw [hnil, List.nil_append] at hrest
      rw [← hrest] at hstops
      rw [Cursor.peek?, stops_iff.1 hstops] at hword
      cases hword
    have hafter : ∀ x ∈ (c.takeWhile isWordChar).2.rest ++ b, isBlank x = true :=
      fun x hx => (List.mem_append.1 hx).elim (hend x) (hb x)
    have hchars : ∀ x ∈ d.rest, isNameChar x = true := by
      intro x hx
      rw [hd, hrest, List.append_assoc] at hx
      exact (List.mem_append.1 hx).elim (fun hm => isNameChar_of_isWordChar (hrun x hm))
        fun hm => isNameChar_of_isBlank (hafter x hm)
    dsimp only
    rw [Cursor.takeWhile_all hchars]
    refine ⟨?_, List.forall_mem_nil _⟩
    have hsolid := endsSolid_of_forall hne fun x hx => isBlank_of_isWordChar (hrun x hx)
    rw [hd, hrest, List.append_assoc, trimEnd_append hafter hsolid]
  · rw [if_neg hword] at hend ⊢
    rw [if_neg hword]
    refine ⟨rfl, fun x hx => ?_⟩
    rw [hd] at hx
    exact (List.mem_append.1 hx).elim (hend x) (hb x)

/-- A layout with a word for its unit is also read with a phrase for it. -/
theorem read_phrase_of_word {layout : Layout} {rest : Cursor}
    (hread : Layout.read .word c = .ok (layout, rest)) (hend : rest.atEnd = true) :
    ∃ rest', Layout.read .phrase d = .ok (layout, rest') ∧ rest'.atEnd = true := by
  obtain ⟨width, e, hwidth, rfl, rfl⟩ := read_eq_ok_iff.1 hread
  obtain ⟨e', hwidth', he⟩ := readWidth_padded (padded_skipHyphen h) hwidth
  obtain ⟨halignment, hf⟩ := readAlignment_padded (padded_skipHyphen he)
  obtain ⟨hunit, hend'⟩ := readUnit_phrase_of_word (padded_skipHyphen hf) hend
  refine ⟨_, read_eq_ok_iff.2 ⟨width, e', hwidth', ?_, rfl⟩, hend'⟩
  rw [halignment, hunit]

end Layout

/-! ## Columns and placeholders -/

/-- Before the blanks at the end, a format that begins with a word for a type consists of
this word and what is read as the layout. -/
theorem Column.takeWhile_of_word {word t format b : Text} {n : Nat} {type other : DataType}
    (hword : DataType.ofKeyword? word = some type) (hb : ∀ c ∈ b, isBlank c = true)
    (hformat : word ++ t = format ++ b) :
    let run := (Cursor.mk format n).skipBlanks.takeWhile isWordChar
    DataType.ofKeyword? run.1 = some other → run.1 = word ∧ t = run.2.rest ++ b := by
  intro run hother
  obtain ⟨gap, hgap, hskip, -⟩ := (Cursor.mk format n).skipBlanks_divides
  obtain ⟨hrun, hchars, hstops⟩ := (Cursor.mk format n).skipBlanks.takeWhile_divides isWordChar
  obtain ⟨hrest, hmore, hrestStops⟩ := (Cursor.ofText t).takeWhile_divides isWordChar
  -- no blanks stand before the word
  have hwhole : [] ++ (word ++ t) = gap ++ (run.1 ++ (run.2.rest ++ b)) := by
    change format = _ at hskip
    rw [List.nil_append, hformat, hskip, hrun]
    simp only [List.append_assoc, run]
  obtain ⟨-, hafter⟩ := append_inj_of_stops (List.forall_mem_nil _) hgap
    ((DataType.solid_of_ofKeyword? hword).1.append t).stops
    ((DataType.solid_of_ofKeyword? hother).1.append _).stops hwhole
  -- and the run of word characters does not go on after it
  change t = _ at hrest
  rw [hrest, ← List.append_assoc] at hafter
  have hwords : ∀ c ∈ word ++ ((Cursor.ofText t).takeWhile isWordChar).1, isWordChar c = true :=
    fun c hc => (List.mem_append.1 hc).elim (DataType.isWordChar_of_mem hword) (hmore c)
  have hblank := hstops.append (stops_of_forall fun c hc => isWordChar_of_isBlank (hb c hc))
  obtain ⟨hsame, hleft⟩ := append_inj_of_stops hwords hchars hrestStops hblank hafter
  have hnone := DataType.eq_nil_of_ofKeyword?_append hword (hsame ▸ hother)
  rw [hnone, List.append_nil] at hsame
  rw [hnone, List.nil_append] at hrest
  exact ⟨hsame.symm, hrest.trans hleft⟩

namespace Placeholder

/-- Where a column is read, the same name and what follows the type are read as a
placeholder with the same parts. -/
theorem read_of_column {name word t : Text} {type : DataType} {defaultWidth : Nat}
    {column : Column} (hword : DataType.ofKeyword? word = some type)
    (h : Column.read (name ++ '|' :: (word ++ t)) defaultWidth = .ok column) :
    column.type = type ∧ ∃ p, Placeholder.read (name ++ '|' :: t) = .ok p ∧
      p.name = column.name ∧ p.alignment = column.alignment ∧ p.unit = column.unit ∧
      column.width = p.width.getD defaultWidth := by
  obtain ⟨name', format, b, n, hdefinition, hchars, hsolid, hb, hformat⟩ :=
    Column.exists_bar_of_read h
  -- the bars of the two ways to divide the definition are the same
  have hbar : isNameChar '|' = false := isNameChar_of_mem_dividers (by decide)
  have hname : '|' ∉ name' := not_mem_of_class hchars hbar
  have hafter : '|' ∉ format ++ b := by
    refine not_mem_of_class (p := isNameChar) (fun x hx => ?_) hbar
    exact (List.mem_append.1 hx).elim (fun hm => Column.isNameChar_of_mem_format hformat hm)
      fun hm => isNameChar_of_isBlank (hb x hm)
  obtain ⟨rfl, -, hrest⟩ := (List.append_cons_inj_of_notMem hname hafter).1 hdefinition.symm
  obtain ⟨other, layout, rest, hother, hlayout, hend, rfl⟩ := Column.readFormat_eq_ok_iff.1 hformat
  obtain ⟨hsame, ht⟩ := Column.takeWhile_of_word hword hb hrest.symm hother
  rw [hsame, hword] at hother
  cases hother
  obtain ⟨m, hread⟩ := Placeholder.read_bar hchars hsolid t
  obtain ⟨rest', hlayout', hend'⟩ :=
    Layout.read_phrase_of_word (d := ⟨t, m⟩) ⟨b, hb, ht⟩ hlayout hend
  have hplaceholder : Placeholder.read (name' ++ '|' :: t) =
      .ok ⟨toUpper (trim name'), layout.width, layout.alignment.getD .center, layout.unit⟩ := by
    rw [hread, readLayout_eq_ok_iff]
    exact ⟨layout, rest', hlayout', hend', rfl⟩
  exact ⟨rfl, _, hplaceholder, rfl, rfl, rfl, rfl⟩

/-- Blanks everywhere, a type in mixed letters and a unit after an omitted alignment. -/
theorem read_of_column_of_blanks :
    let name : Text := "\tnet, x "
    let t : Text := " - 7\n-\t- кг  "
    let column : Column := ⟨"NET, X", .int, 7, .center, "кг"⟩
    DataType.ofKeyword? "InT" = some .int ∧
      Column.read (name ++ '|' :: ("InT" ++ t)) 5 = .ok column ∧
      column.type = .int ∧ ∃ p, Placeholder.read (name ++ '|' :: t) = .ok p ∧
        p.name = column.name ∧ p.alignment = column.alignment ∧ p.unit = column.unit ∧
        column.width = p.width.getD 5 := by
  intro name t column
  have hword : DataType.ofKeyword? "InT" = some .int := by decide +kernel
  have hread : Column.read (name ++ '|' :: ("InT" ++ t)) 5 = .ok column := by decide +kernel
  exact ⟨hword, hread, read_of_column hword hread⟩

end Placeholder

end PlainReport
