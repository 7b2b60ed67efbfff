import PlainReport.Text.Basic

/-!
# Parts of a text

What stands in a piece of a text stands in the text (`mem_of_mem_pieces`), and what stands
in a joined text stands in the joiner or in one of the texts (`mem_join_iff`).  A text is cut at
its first separator (`cut_append`).
-/

namespace PlainReport.Text

/-! ## Pieces -/

theorem mem_of_mem_pieces {sep x : Char} {t p : Text} (hp : p ∈ pieces sep t) (hx : x ∈ p) :
    x ∈ t := by
  induction t generalizing p with
  | nil =>
    cases List.mem_singleton.1 hp
    exact hx
  | cons c t ih =>
    by_cases hc : c = sep
    · simp only [pieces, hc, if_true, List.mem_cons] at hp
      rcases hp with rfl | hrest
      · cases hx
      · exact List.mem_cons_of_mem c (ih hrest hx)
    · obtain ⟨q, qs, hq, hcq⟩ := pieces_cons_of_ne hc t
      rw [hcq, List.mem_cons] at hp
      rcases hp with rfl | hrest
      · cases List.mem_cons.1 hx with
        | inl heq => exact heq ▸ List.mem_cons_self
        | inr hxq => exact List.mem_cons_of_mem c (ih (hq ▸ List.mem_cons_self) hxq)
      · exact List.mem_cons_of_mem c (ih (hq ▸ List.mem_cons_of_mem q hrest) hx)

/-! ## Joined texts -/

theorem mem_join {joiner : Text} {c : Char} {ts : List Text} (h : c ∈ join joiner ts) :
    c ∈ joiner ∨ ∃ t ∈ ts, c ∈ t := by
  induction ts with
  | nil => cases h
  | cons t ts ih =>
    cases ts with
    | nil => exact .inr ⟨t, List.mem_cons_self, h⟩
    | cons u us =>
      rw [join, List.mem_append, List.mem_append] at h
      · rcases h with (h | h) | h
        · exact .inr ⟨t, List.mem_cons_self, h⟩
        · exact .inl h
        · cases ih h with
          | inl hj => exact .inl hj
          | inr hex =>
            obtain ⟨v, hv, hc⟩ := hex
            exact .inr ⟨v, List.mem_cons_of_mem t hv, hc⟩
      · exact List.cons_ne_nil u us

theorem mem_join_of_mem {joiner t : Text} {c : Char} {ts : List Text} (ht : t ∈ ts) (hc : c ∈ t) :
    c ∈ join joiner ts := by
  induction ts with
  | nil => cases ht
  | cons u us ih =>
    cases us with
    | nil => exact List.mem_singleton.1 ht ▸ hc
    | cons v vs =>
      rw [join]
      · cases List.mem_cons.1 ht with
        | inl heq => exact List.mem_append_left _ (List.mem_append_left _ (heq ▸ hc))
        | inr hrest => exact List.mem_append_right _ (ih hrest)
      · exact List.cons_ne_nil v vs

/-- Joining brings in the joiner only. -/
theorem mem_join_iff {joiner : Text} {c : Char} {ts : List Text} (hj : c ∉ joiner) :
    c ∈ join joiner ts ↔ ∃ t ∈ ts, c ∈ t :=
  ⟨fun h => (mem_join h).resolve_left hj, fun ⟨_, ht, hc⟩ => mem_join_of_mem ht hc⟩

/-- Every character but the separator stands in a piece. -/
theorem mem_iff_mem_pieces {sep c : Char} {t : Text} (hc : c ≠ sep) :
    c ∈ t ↔ ∃ p ∈ pieces sep t, c ∈ p := by
  rw [← mem_join_iff (mt List.mem_singleton.1 hc), join_pieces]

theorem not_mem_join {joiner : Text} {c : Char} {ts : List Text} (hj : c ∉ joiner)
    (h : ∀ t ∈ ts, c ∉ t) : c ∉ join joiner ts := by
  intro hc
  cases mem_join hc with
  | inl hm => exact hj hm
  | inr hex =>
    obtain ⟨t, ht, hm⟩ := hex
    exact h t ht hm

/-! ## The first separator -/

theorem not_mem_cut (sep : Char) (t : Text) : sep ∉ (cut sep t).1 := by
  induction t with
  | nil => exact List.not_mem_nil
  | cons c t ih =>
    unfold cut
    split
    · exact List.not_mem_nil
    · next hc =>
      intro h
      cases List.mem_cons.1 h with
      | inl heq => exact hc heq.symm
      | inr hrest => exact ih hrest

theorem mem_of_cut {sep : Char} {t u : Text} (h : (cut sep t).2 = some u) {x : Char}
    (hx : x ∈ u) : x ∈ t := by
  induction t with
  | nil => cases h
  | cons c t ih =>
    unfold cut at h
    split at h
    · cases h
      exact List.mem_cons_of_mem c hx
    · exact List.mem_cons_of_mem c (ih h)

/-- A text is cut at the first separator. -/
theorem cut_append {sep : Char} {t : Text} (h : sep ∉ t) (u : Text) :
    cut sep (t ++ sep :: u) = (t, some u) := by
  induction t with
  | nil => simp [cut]
  | cons c t ih =>
    obtain ⟨hc, ht⟩ := not_or.1 (mt List.mem_cons.2 h)
    rw [List.cons_append, cut, if_neg (Ne.symm hc), ih ht]

end PlainReport.Text
