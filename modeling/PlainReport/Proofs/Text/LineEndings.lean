import PlainReport.Proofs.Text.Parts
import PlainReport.Proofs.Text.Trimming

/-!
# Line endings

Some texts end a line with a carriage return before the line feed.  Cutting at a sign and
trimming commute with putting the returns in (`pieces_crlf`, `trim_crlf`), and different
texts stay different (`crlf_injective`).  Every line but the last goes on with a return
(`lines_crlf`).
-/

namespace PlainReport.Text

/-- The text with a carriage return before every line feed. -/
def crlf (t : Text) : Text := t.flatMap fun c => if c = '\n' then ['\r', '\n'] else [c]

@[simp] theorem crlf_nil : crlf [] = [] := rfl

@[simp] theorem crlf_cons_break (t : Text) : crlf ('\n' :: t) = '\r' :: '\n' :: crlf t := rfl

theorem crlf_cons_of_ne {c : Char} (h : c ≠ '\n') (t : Text) : crlf (c :: t) = c :: crlf t := by
  rw [crlf, List.flatMap_cons, if_neg h]
  rfl

theorem crlf_append (t u : Text) : crlf (t ++ u) = crlf t ++ crlf u := List.flatMap_append

theorem crlf_of_not_mem {t : Text} (h : '\n' ∉ t) : crlf t = t := by
  induction t with
  | nil => rfl
  | cons c t ih =>
    obtain ⟨hc, ht⟩ := not_or.1 (mt List.mem_cons.2 h)
    rw [crlf_cons_of_ne (Ne.symm hc), ih ht]

@[simp] theorem crlf_eq_nil_iff {t : Text} : crlf t = [] ↔ t = [] := by
  refine ⟨fun h => ?_, fun h => by rw [h, crlf_nil]⟩
  cases t with
  | nil => rfl
  | cons c t =>
    by_cases hc : c = '\n'
    · subst hc
      cases h
    · rw [crlf_cons_of_ne hc] at h
      cases h

/-- No line feed comes first. -/
theorem crlf_ne_cons (t u : Text) : crlf t ≠ '\n' :: u := by
  intro h
  cases t with
  | nil => cases h
  | cons c t =>
    by_cases hc : c = '\n'
    · subst hc
      cases h
    · rw [crlf_cons_of_ne hc] at h
      exact hc (List.cons.inj h).1

theorem crlf_injective : Function.Injective crlf := by
  intro t u h
  induction t generalizing u with
  | nil => exact (crlf_eq_nil_iff.1 h.symm).symm
  | cons c t ih =>
    cases u with
    | nil => exact crlf_eq_nil_iff.1 h
    | cons d u =>
      by_cases hc : c = '\n' <;> by_cases hd : d = '\n'
      · subst hc hd
        rw [ih (List.cons.inj (List.cons.inj h).2).2]
      · subst hc
        rw [crlf_cons_of_ne hd] at h
        exact absurd (List.cons.inj h).2.symm (crlf_ne_cons u _)
      · subst hd
        rw [crlf_cons_of_ne hc] at h
        exact absurd (List.cons.inj h).2 (crlf_ne_cons t _)
      · rw [crlf_cons_of_ne hc, crlf_cons_of_ne hd] at h
        rw [(List.cons.inj h).1, ih (List.cons.inj h).2]

theorem mem_of_mem_crlf {t : Text} {x : Char} (h : x ∈ crlf t) : x ∈ t ∨ x = '\r' := by
  obtain ⟨c, hc, hx⟩ := List.mem_flatMap.1 h
  split at hx
  · next hbreak =>
    rcases List.mem_cons.1 hx with hreturn | hx
    · exact .inr hreturn
    · rw [List.mem_singleton.1 hx, ← hbreak]
      exact .inl hc
  · rw [List.mem_singleton.1 hx]
    exact .inl hc

theorem mem_crlf {t : Text} {x : Char} (h : x ∈ t) : x ∈ crlf t := by
  refine List.mem_flatMap.2 ⟨x, h, ?_⟩
  split
  · next hbreak =>
    rw [hbreak]
    exact List.mem_cons_of_mem _ List.mem_cons_self
  · exact List.mem_singleton_self x

/-! ## Blanks at the ends -/

theorem blank_crlf {t : Text} (h : ∀ c ∈ t, isBlank c = true) : ∀ c ∈ crlf t, isBlank c = true := by
  intro c hc
  rcases mem_of_mem_crlf hc with hmem | rfl
  · exact h c hmem
  · rfl

theorem beginsSolid_crlf {t : Text} (h : BeginsSolid t) : BeginsSolid (crlf t) := by
  obtain ⟨c, rest, rfl, hc⟩ := h
  have hne : c ≠ '\n' := by
    rintro rfl
    cases hc
  exact ⟨c, crlf rest, crlf_cons_of_ne hne rest, hc⟩

theorem endsSolid_crlf {t : Text} (h : EndsSolid t) : EndsSolid (crlf t) := by
  obtain ⟨rest, c, rfl, hc⟩ := h
  have hne : c ≠ '\n' := by
    rintro rfl
    cases hc
  exact ⟨crlf rest, c, by rw [crlf_append, crlf_cons_of_ne hne, crlf_nil], hc⟩

/-- Returns go with the line feeds that are trimmed. -/
theorem trim_crlf (t : Text) : trim (crlf t) = crlf (trim t) := by
  obtain ⟨a, b, ha, hb, ht⟩ := exists_trim t
  by_cases hnil : trim t = []
  · have hblank : ∀ c ∈ t, isBlank c = true := List.all_eq_true.1 (trim_eq_nil_iff.1 hnil)
    rw [hnil, trim_eq_nil_iff.2 (List.all_eq_true.2 (blank_crlf hblank))]
    rfl
  · obtain ⟨hbegin, hend⟩ := solid_trim hnil
    have hparts : crlf t = crlf a ++ crlf (trim t) ++ crlf b := by
      rw [← crlf_append, ← crlf_append, ← ht]
    rw [hparts]
    exact trim_padded (blank_crlf ha) (blank_crlf hb) (beginsSolid_crlf hbegin)
      (endsSolid_crlf hend)

/-! ## Pieces -/

/-- A text is cut at the same signs, unless they belong to the line endings. -/
theorem pieces_crlf {sep : Char} (hbreak : sep ≠ '\n') (hreturn : sep ≠ '\r') (t : Text) :
    pieces sep (crlf t) = (pieces sep t).map crlf := by
  induction t with
  | nil => rfl
  | cons c t ih =>
    by_cases hc : c = sep
    · rw [crlf_cons_of_ne (hc ▸ hbreak), pieces, if_pos hc, pieces, if_pos hc, ih]
      rfl
    · obtain ⟨p, ps, hp, hcp⟩ := pieces_cons_of_ne hc t
      rw [hp, List.map_cons] at ih
      rw [hcp, List.map_cons]
      by_cases hline : c = '\n'
      · subst hline
        rw [crlf_cons_break, pieces, if_neg (Ne.symm hreturn), pieces, if_neg (Ne.symm hbreak), ih]
        rfl
      · rw [crlf_cons_of_ne hline, crlf_cons_of_ne hline, pieces, if_neg hc, ih]

/-- The first line goes on with a return if there is another. -/
theorem cut_crlf (t : Text) : ∃ b : Text, (∀ c ∈ b, isBlank c = true) ∧
    cut '\n' (crlf t) = ((cut '\n' t).1 ++ b, (cut '\n' t).2.map crlf) := by
  induction t with
  | nil => exact ⟨[], nofun, rfl⟩
  | cons c t ih =>
    by_cases hc : c = '\n'
    · subst hc
      exact ⟨['\r'], List.forall_mem_singleton.2 rfl, rfl⟩
    · obtain ⟨b, hb, hcut⟩ := ih
      refine ⟨b, hb, ?_⟩
      rw [crlf_cons_of_ne hc, cut, if_neg hc, cut, if_neg hc, hcut]
      rfl

/-- Every line but the last goes on with a return. -/
theorem lines_crlf (t : Text) : ∃ front last, lines t = front ++ [last] ∧
    lines (crlf t) = front.map (· ++ ['\r']) ++ [last] := by
  induction t with
  | nil => exact ⟨[], [], rfl, rfl⟩
  | cons c t ih =>
    obtain ⟨front, last, ht, hcrlf⟩ := ih
    unfold lines at ht hcrlf ⊢
    by_cases hc : c = '\n'
    · subst hc
      refine ⟨[] :: front, last, ?_, ?_⟩
      · rw [pieces, if_pos rfl, ht]
        rfl
      · rw [crlf_cons_break, pieces, if_neg (by decide), pieces, if_pos rfl, hcrlf]
        rfl
    · rw [crlf_cons_of_ne hc, pieces, if_neg hc, pieces, if_neg hc, ht, hcrlf]
      cases front with
      | nil => exact ⟨[], c :: last, rfl, rfl⟩
      | cons first front => exact ⟨(c :: first) :: front, last, rfl, rfl⟩

end PlainReport.Text
