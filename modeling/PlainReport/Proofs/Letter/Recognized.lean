import PlainReport.Proofs.Letter.Dividing

/-!
# Where a text is divided

Every text is divided at its leftmost opening braces and the nearest closing ones after
them.  So no opening braces stand in the text before a placeholder or touch its own, no
closing braces stand in a placeholder or touch its own, and no closing braces come after
opening ones in the rest (`divided_ofText`).
-/

namespace PlainReport.Piece

/-- A character is doubled neither in a text nor across its end. -/
def Clear (x : Char) (t : Text) : Prop := ¬ [x, x] <:+: t ∧ ¬ [x] <:+ t

theorem clear_nil (x : Char) : Clear x [] := by
  refine ⟨fun h => ?_, fun h => ?_⟩
  · cases List.infix_nil.1 h
  · cases List.suffix_nil.1 h

theorem clear_of_not_mem {x : Char} {t : Text} (h : x ∉ t) : Clear x t := by
  refine ⟨fun hin => h ?_, fun hend => h ?_⟩
  · exact hin.subset List.mem_cons_self
  · exact hend.subset List.mem_cons_self

theorem Clear.of_cons {x c : Char} {t : Text} (h : Clear x (c :: t)) : Clear x t :=
  ⟨not_infix_of_cons h.1, not_suffix_of_cons h.2⟩

/-- A character that the text does not go on with comes before a clear text. -/
theorem clear_cons {x c : Char} {t u : Text} (h : Clear x t)
    (hnext : ∀ v, c = x → t ++ x :: u = x :: v → False) : Clear x (c :: t) := by
  constructor
  · intro hin
    cases List.infix_cons_iff.1 hin with
    | inl hprefix =>
      obtain ⟨v, hv⟩ := hprefix
      cases hv
      exact hnext _ rfl rfl
    | inr hrest => exact h.1 hrest
  · intro hend
    cases List.suffix_cons_iff.1 hend with
    | inl hwhole =>
      cases hwhole
      exact hnext u rfl rfl
    | inr hrest => exact h.2 hrest

theorem clear_append {x : Char} {t u : Text} (ht : Clear x t) (hu : Clear x u) :
    Clear x (t ++ u) := by
  induction t with
  | nil => exact hu
  | cons c t ih =>
    refine clear_cons (u := []) (ih ht.of_cons) fun v hc hv => ?_
    exact not_doubled ht.1 ht.2 hc ((List.append_assoc t u [x]).symm.trans hv)

/-- A piece as texts are divided. -/
structure Divided (p : Piece) : Prop where
  /-- A text before a placeholder has no opening braces in it or at its end. -/
  before : ∀ s ∈ p.spans, Clear '\x7b' s.before
  /-- The inside of a placeholder has no closing braces in it or at its end. -/
  inner : ∀ s ∈ p.spans, Clear '\x7d' s.inner
  /-- No closing braces come after opening ones in the rest. -/
  tail : ∀ t, ¬ opening ++ t ++ closing <:+: p.tail

theorem divided_of_tail {tail : Text} (h : ∀ t, ¬ opening ++ t ++ closing <:+: tail) :
    Divided ⟨[], tail⟩ := ⟨List.forall_mem_nil _, List.forall_mem_nil _, h⟩

/-- A character that opens no placeholder with the text after it is set before the text. -/
theorem divided_cons {c : Char} {p : Piece} (h : p.Divided)
    (hnext : ∀ v, c = '\x7b' → p.text = '\x7b' :: v → False) : (cons c p).Divided := by
  obtain ⟨spans, tail⟩ := p
  cases spans with
  | nil =>
    refine divided_of_tail fun t hin => ?_
    cases List.infix_cons_iff.1 hin with
    | inl hprefix =>
      obtain ⟨v, hv⟩ := hprefix
      cases hv
      exact hnext _ rfl rfl
    | inr hrest => exact h.tail t hrest
  | cons s spans =>
    obtain ⟨hfirst, hbefores⟩ := List.forall_mem_cons.1 h.before
    refine ⟨List.forall_mem_cons.2 ⟨?_, hbefores⟩, List.forall_mem_cons.2 ?_, h.tail⟩
    · let after : Text := s.inner ++ closing ++ (Piece.mk spans tail).text
      refine clear_cons (u := '\x7b' :: after) hfirst ?_
      intro v hc ht
      refine hnext v hc ?_
      rw [← ht]
      simp [after, text, Span.literal, closing]
    · exact List.forall_mem_cons.1 h.inner

/-- Both parts of dividing: a text is divided at its placeholders, and the nearest closing
braces are found if there are any. -/
theorem divided_ofText_and_closing? : (∀ t, (ofText t).Divided) ∧
    ∀ t, (closing? t = none → ¬ closing <:+: t) ∧
      ∀ inner p, closing? t = some (inner, p) → Clear '\x7d' inner ∧ p.Divided := by
  apply ofText.mutual_induct (fun t => (ofText t).Divided)
    (fun t => (closing? t = none → ¬ closing <:+: t) ∧
      ∀ inner p, closing? t = some (inner, p) → Clear '\x7d' inner ∧ p.Divided)
  -- the end of a text
  · refine divided_of_tail fun t hin => ?_
    have hlength := hin.length_le
    simp [opening] at hlength
  -- opening braces without closing ones after them
  · intro t h ih
    simp only [ofText, h]
    refine divided_of_tail fun u hin => ih.1 h ?_
    have hclosing := (List.suffix_append (opening ++ u) closing).isInfix.trans hin
    simpa [closing, List.infix_cons_iff] using hclosing
  -- a placeholder
  · intro t inner p h ih
    obtain ⟨hinner, hrest⟩ := ih.2 inner p h
    simp only [ofText, h]
    exact ⟨List.forall_mem_cons.2 ⟨clear_nil _, hrest.before⟩,
      List.forall_mem_cons.2 ⟨hinner, hrest.inner⟩, hrest.tail⟩
  -- any other character outside placeholders
  · intro c t hc ih
    rw [ofText]
    · refine divided_cons ih fun v hbrace ht => hc v hbrace ?_
      rwa [text_ofText] at ht
    · exact hc
  -- the end of a text before the closing braces
  · refine ⟨fun _ hin => ?_, fun inner p hp => ?_⟩
    · cases List.infix_nil.1 hin
    · cases hp
  -- closing braces
  · intro t ih
    refine ⟨fun hp => ?_, fun inner p hp => ?_⟩
    · cases hp
    · cases hp
      exact ⟨clear_nil _, ih⟩
  -- any other character, first with no closing braces after it and then with some
  · intro c t hc h ih
    have hnone : closing? (c :: t) = none := by
      rw [closing?, h]
      exact hc
    refine ⟨fun _ hin => ?_, fun inner p hp => ?_⟩
    · cases List.infix_cons_iff.1 hin with
      | inl hprefix =>
        obtain ⟨v, hv⟩ := hprefix
        cases hv
        exact hc _ rfl rfl
      | inr hrest => exact ih.1 h hrest
    · rw [hnone] at hp
      cases hp
  · intro c t hc inner p h ih
    obtain ⟨hinner, hrest⟩ := ih.2 inner p h
    have hsome : closing? (c :: t) = some (c :: inner, p) := by
      rw [closing?, h]
      exact hc
    have ht : t = inner ++ '\x7d' :: ('\x7d' :: p.text) := by
      simpa using text_ofText_and_closing?.2 t inner p h
    refine ⟨fun hp => ?_, fun inner' p' hp => ?_⟩
    · rw [hsome] at hp
      cases hp
    · rw [hsome] at hp
      cases hp
      exact ⟨clear_cons hinner fun v hbrace hv => hc v hbrace (ht.trans hv), hrest⟩

theorem divided_ofText (t : Text) : (ofText t).Divided := divided_ofText_and_closing?.1 t

/-! ## Where a placeholder can stand -/

/-- A placeholder with a given inside as it is written. -/
def written (inner : Text) : Text := opening ++ inner ++ closing

/-- Nothing opens in a text without opening braces that touches none. -/
theorem infix_of_infix_append {before t u : Text} (h : Clear '\x7b' before)
    (hin : opening ++ t <:+: before ++ u) : opening ++ t <:+: u := by
  induction before with
  | nil => exact hin
  | cons c before ih =>
    cases List.infix_cons_iff.1 hin with
    | inl hprefix =>
      obtain ⟨v, hv⟩ := hprefix
      obtain ⟨hc, hrest⟩ := List.cons.inj hv
      exact (not_doubled h.1 h.2 hc.symm hrest.symm).elim
    | inr hrest => exact ih h.of_cons hrest

/-- The nearest closing braces are at one place only. -/
theorem eq_of_append_closing {a b u v : Text} (ha : Clear '\x7d' a) (hb : Clear '\x7d' b)
    (h : a ++ (closing ++ u) = b ++ (closing ++ v)) : a = b := by
  have hclose := closing?_append ha.1 ha.2 u
  rw [h, closing?_append hb.1 hb.2 v] at hclose
  exact (Prod.mk.inj (Option.some.inj hclose)).1.symm

/-- A placeholder that begins before the first closing braces ends in them. -/
theorem suffix_or_follows {before inner rest : Text} (h : Clear '\x7d' before)
    (hinner : '\x7d' ∉ inner) (hin : written inner <:+: before ++ (closing ++ rest)) :
    opening ++ inner <:+ before ∨ written inner <:+: rest := by
  induction before with
  | nil =>
    have hclear : Clear '\x7b' closing := clear_of_not_mem (by decide)
    rw [written, List.append_assoc] at hin ⊢
    exact .inr (infix_of_infix_append hclear hin)
  | cons c before ih =>
    cases List.infix_cons_iff.1 hin with
    | inl hprefix =>
      refine .inl ?_
      obtain ⟨v, hv⟩ := hprefix
      cases before with
      | nil => simp [written, opening, closing] at hv
      | cons d before =>
        obtain ⟨rfl, htail⟩ := List.cons.inj hv
        obtain ⟨rfl, hafter⟩ := List.cons.inj htail
        have hinside : inner ++ (closing ++ v) = before ++ (closing ++ rest) := by
          simpa using hafter
        rw [eq_of_append_closing (clear_of_not_mem hinner) h.of_cons.of_cons hinside]
        exact List.suffix_refl _
    | inr hrest =>
      exact (ih h.of_cons hrest).imp_left fun hend => hend.trans (List.suffix_cons c before)

end PlainReport.Piece
