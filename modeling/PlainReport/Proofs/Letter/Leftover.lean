import PlainReport.Proofs.Collected
import PlainReport.Proofs.Letter.Consumed
import PlainReport.Proofs.Letter.Recognized
import PlainReport.Proofs.Letter.Substitution
import PlainReport.Proofs.Text.Fitting

/-!
# Placeholders that are left

Of the placeholders that are recognized none is left that can be filled, and filling brings
no braces in.  But a placeholder is not recognized when opening braces before it take its
closing ones.  It is then the end of a longer one, which is left as it is written.  No other
placeholder that can be filled is left (`Filling.leaves_placeholder_iff`).
-/

namespace PlainReport

open Text

/-! ## Texts without braces -/

/-- The text has no braces. -/
def Text.Braceless (t : Text) : Prop := '\x7b' ∉ t ∧ '\x7d' ∉ t

instance (t : Text) : Decidable t.Braceless := inferInstanceAs (Decidable (_ ∧ _))

namespace Text.Braceless

variable {t u : Text}

theorem append (ht : t.Braceless) (hu : u.Braceless) : (t ++ u).Braceless := by
  simp [Braceless, ht.1, ht.2, hu.1, hu.2]

theorem of_class (h : ∀ c ∈ t, isNameChar c = true ∨ c = '|') : t.Braceless := by
  have hopen : ¬(isNameChar '\x7b' = true ∨ '\x7b' = '|') := by decide +kernel
  have hclose : ¬(isNameChar '\x7d' = true ∨ '\x7d' = '|') := by decide +kernel
  exact ⟨fun hmem => hopen (h _ hmem), fun hmem => hclose (h _ hmem)⟩

theorem fit (ht : t.Braceless) (a : Alignment) (width : Nat) : (a.fit t width).Braceless := by
  have hfit {c : Char} (hbreak : c ≠ '\n') (hblank : c ≠ ' ') (hc : c ∉ t) : c ∉ a.fit t width := by
    intro hmem
    rcases Alignment.mem_fit hmem with h | h | h
    · exact hbreak h
    · exact hblank h
    · exact hc h
  exact ⟨hfit (by decide) (by decide) ht.1, hfit (by decide) (by decide) ht.2⟩

end Text.Braceless

namespace Filling

open Piece

variable (f : Filling)

/-- The inside of a placeholder that is read and whose name has a value. -/
def Fillable (inner : Text) : Prop :=
  ∃ p value, Placeholder.read inner = .ok p ∧ Fields.value? f.fields p.name = some value

/-- The filling brings no braces in. -/
structure Braceless : Prop where
  /-- The values have no braces. -/
  values : ∀ field ∈ f.fields.entries, field.value.Braceless
  /-- A word without braces is inflected without braces. -/
  words : ∀ n word, word.Braceless → (f.inflect n word).Braceless

variable {f}

theorem Fillable.braceless {inner : Text} (h : f.Fillable inner) : inner.Braceless := by
  obtain ⟨p, value, hread, -⟩ := h
  exact .of_class fun c hc => Placeholder.isNameChar_or_bar_of_read hread hc

/-! ## One placeholder -/

/-- Nothing with braces takes the place of a placeholder. -/
theorem Braceless.place (hf : f.Braceless) {inner : Text} {p : Placeholder} {value : Text}
    (hread : Placeholder.read inner = .ok p) (hvalue : Fields.value? f.fields p.name = some value) :
    (f.place p value).Braceless := by
  obtain ⟨field, hfind, rfl⟩ := Option.map_eq_some_iff.1 hvalue
  have hfield : field.value.Braceless := hf.values field (Keyed.mem_of_find? hfind)
  have hunit : p.unit.Braceless :=
    .of_class fun c hc => .inl (Placeholder.isNameChar_of_mem_unit hread hc)
  have hafter : (f.unitAfter field.value p.unit).Braceless := by
    unfold unitAfter
    split
    · exact ⟨List.not_mem_nil, List.not_mem_nil⟩
    · cases count? field.value with
      | none => exact hunit
      | some n => exact hf.words n p.unit hunit
  unfold Filling.place
  dsimp only
  refine Text.Braceless.fit ?_ p.alignment _
  split
  · exact hfield
  · exact (hfield.append (by decide)).append hafter

/-- A placeholder that can be filled is filled, and any other one stays. -/
theorem fillSpan_result (f : Filling) {s : Span} (hmarks : ∀ before, s.before ≠ before ++ "!!") :
    (∃ p value, Placeholder.read s.inner = .ok p ∧ Fields.value? f.fields p.name = some value ∧
      (f.fillSpan s).result = s.before ++ f.place p value) ∨
      ¬ f.Fillable s.inner ∧ (f.fillSpan s).result = s.before ++ s.literal := by
  have hdrop : dropEnding? "!!" s.before = none := dropEnding?_eq_none hmarks
  cases hread : Placeholder.read s.inner with
  | error fault =>
    refine .inr ⟨?_, by simp only [fillSpan, hdrop, replacement, hread]⟩
    rintro ⟨p, value, hok, -⟩
    rw [hread] at hok
    cases hok
  | ok p =>
    cases hvalue : Fields.value? f.fields p.name with
    | none =>
      refine .inr ⟨?_, by simp only [fillSpan, hdrop, replacement, hread, hvalue]⟩
      rintro ⟨q, value, hok, hsome⟩
      cases hread.symm.trans hok
      rw [hvalue] at hsome
      cases hsome
    | some value =>
      exact .inl ⟨p, value, rfl, hvalue, by simp only [fillSpan, hdrop, replacement, hread, hvalue]⟩

/-- A placeholder with an opening brace in it stays. -/
theorem fillSpan_of_mem (f : Filling) {s : Span} (h : '\x7b' ∈ s.inner) :
    ∃ before, (f.fillSpan s).result = before ++ s.literal := by
  unfold fillSpan
  split
  · next before _ => exact ⟨before, rfl⟩
  · split
    · next t ht =>
      unfold replacement at ht
      split at ht
      · cases ht
      · next p hread =>
        have hclass := Placeholder.isNameChar_or_bar_of_read hread h
        exact absurd hclass (by decide +kernel)
    · exact ⟨s.before, rfl⟩

/-- A placeholder that can be filled is not left between a recognized one and what is
printed before it, unless it is the end of the recognized one. -/
theorem suffix_or_follows_of_fillSpan (hf : f.Braceless) {s : Span}
    (hmarks : ∀ before, s.before ≠ before ++ "!!") (hbefore : Clear '\x7b' s.before)
    (hinside : Clear '\x7d' s.inner) {inner rest : Text} (hinner : f.Fillable inner)
    (h : written inner <:+: (f.fillSpan s).result ++ rest) :
    (s.inner ≠ inner ∧ written inner <:+ s.literal) ∨ written inner <:+: rest := by
  rcases f.fillSpan_result hmarks with ⟨p, value, hread, hvalue, hresult⟩ | ⟨hstays, hresult⟩
  · -- no braces take the place of the placeholder
    have hplace : Clear '\x7b' (f.place p value) := clear_of_not_mem (hf.place hread hvalue).1
    rw [hresult, written, List.append_assoc, List.append_assoc] at h
    have hrest := infix_of_infix_append hplace (infix_of_infix_append hbefore h)
    exact .inr (by rwa [written, List.append_assoc])
  · have hliteral : s.literal ++ rest = (opening ++ s.inner) ++ (closing ++ rest) := by
      simp [Span.literal, opening, closing]
    have hopen : Clear '\x7d' (opening ++ s.inner) :=
      clear_append (clear_of_not_mem (by decide)) hinside
    rw [hresult, List.append_assoc, hliteral, written, List.append_assoc] at h
    have hafter := infix_of_infix_append hbefore h
    rw [← List.append_assoc] at hafter
    refine (suffix_or_follows hopen hinner.braceless.2 hafter).imp_left fun hend => ⟨?_, ?_⟩
    · rintro rfl
      exact hstays hinner
    · obtain ⟨a, ha⟩ := hend
      exact ⟨a, by rw [written, ← List.append_assoc, ha]; rfl⟩

/-! ## All placeholders -/

/-- A placeholder that can be filled is left in a piece only as the end of a recognized one. -/
theorem exists_of_infix_fillPiece (hf : f.Braceless) {p : Piece} (hp : p.Divided)
    (hmarks : ∀ s ∈ p.spans, ∀ before, s.before ≠ before ++ "!!") {inner : Text}
    (hinner : f.Fillable inner) (h : written inner <:+: (f.fillPiece p).result) :
    ∃ s ∈ p.spans, s.inner ≠ inner ∧ written inner <:+ s.literal := by
  obtain ⟨spans, tail⟩ := p
  induction spans with
  | nil => exact absurd h (hp.tail inner)
  | cons s spans ih =>
    obtain ⟨hbefore, hbefores⟩ := List.forall_mem_cons.1 hp.before
    obtain ⟨hinside, hinsides⟩ := List.forall_mem_cons.1 hp.inner
    obtain ⟨hfirst, hothers⟩ := List.forall_mem_cons.1 hmarks
    have hsplit : (f.fillPiece ⟨s :: spans, tail⟩).result =
        (f.fillSpan s).result ++ (f.fillPiece ⟨spans, tail⟩).result := by
      simp [fillPiece]
    rw [hsplit] at h
    rcases suffix_or_follows_of_fillSpan hf hfirst hbefore hinside hinner h with hend | hrest
    · exact ⟨s, List.mem_cons_self, hend⟩
    · obtain ⟨found, hfound, hend⟩ := ih ⟨hbefores, hinsides, hp.tail⟩ hothers hrest
      exact ⟨found, List.mem_cons_of_mem s hfound, hend⟩

/-- A longer placeholder that ends in another one has an opening brace in it. -/
theorem mem_of_suffix_literal {s : Span} {inner : Text} (hne : s.inner ≠ inner)
    (h : written inner <:+ s.literal) : '\x7b' ∈ s.inner := by
  obtain ⟨a, ha⟩ := h
  have hclosed : a ++ (opening ++ inner) ++ closing = opening ++ s.inner ++ closing := by
    rw [List.append_assoc]
    exact ha
  have hopen : a ++ (opening ++ inner) = opening ++ s.inner := List.append_cancel_right hclosed
  rcases a with _ | ⟨c, _ | ⟨d, a⟩⟩
  · have hsame : opening ++ inner = opening ++ s.inner := hopen
    exact absurd (List.append_cancel_left hsame).symm hne
  · simp only [opening, List.cons_append, List.nil_append, List.cons.injEq] at hopen
    exact hopen.2.2 ▸ List.mem_cons_self
  · simp only [opening, List.cons_append, List.nil_append, List.cons.injEq] at hopen
    rw [← hopen.2.2]
    simp

/-- What is printed for a placeholder stands in what is printed for its piece. -/
theorem infix_fillPiece (f : Filling) {p : Piece} {s : Span} (h : s ∈ p.spans) :
    (f.fillSpan s).result <:+: (f.fillPiece p).result := by
  obtain ⟨before, after, hspans⟩ := List.append_of_mem h
  refine ⟨before.flatMap fun s => (f.fillSpan s).result,
    (after.flatMap fun s => (f.fillSpan s).result) ++ p.tail, ?_⟩
  simp [fillPiece, hspans, List.flatMap_map]

/-- The text before a placeholder stands in the text that was divided. -/
theorem infix_of_mem_spans {t : Text} {s : Span} (h : s ∈ (ofText t).spans) : s.before <:+: t := by
  obtain ⟨before, after, hspans⟩ := List.append_of_mem h
  have ht := text_ofText t
  rw [text, hspans] at ht
  rw [← ht]
  refine ⟨before.flatMap fun s => s.before ++ s.literal,
    s.literal ++ (after.flatMap fun s => s.before ++ s.literal) ++ (ofText t).tail, ?_⟩
  simp

/-- A placeholder that can be filled is left in a letter of one piece without escapes if and
only if it is the end of a longer one that is recognized. -/
theorem leaves_placeholder_iff (f : Filling) (pattern inner : Text) (hsign : '#' ∉ pattern)
    (hmarks : ¬ "!!".toList <:+: pattern) (hf : f.Braceless) (hinner : f.Fillable inner) :
    written inner <:+: (f.fill pattern).result ↔
      ∃ s ∈ (ofText pattern).spans, s.inner ≠ inner ∧ written inner <:+ s.literal := by
  have hfill : (f.fill pattern).result = (f.fillPiece (ofText pattern)).result := by
    simp [fill, pieces_of_not_mem hsign]
  rw [hfill]
  constructor
  · refine exists_of_infix_fillPiece hf (divided_ofText pattern) (fun s hs before heq => ?_) hinner
    refine hmarks (List.IsInfix.trans ?_ (infix_of_mem_spans hs))
    exact heq ▸ (List.suffix_append before "!!".toList).isInfix
  · rintro ⟨s, hs, hne, hend⟩
    obtain ⟨before, hresult⟩ := f.fillSpan_of_mem (mem_of_suffix_literal hne hend)
    have hliteral : written inner <:+: (f.fillSpan s).result := by
      rw [hresult]
      exact (hend.trans (List.suffix_append before s.literal)).isInfix
    exact hliteral.trans (infix_fillPiece f hs)

/-- Opening braces that stand alone take the closing braces of the second placeholder, but not
those of the first. -/
theorem leaves_placeholder_iff_of_single :
    let f : Filling := {
      fields := Keyed.ofList [⟨"NAME", "x"⟩, ⟨"SUM", "5"⟩]
      defaultWidth := 6
      inflect := uninflected }
    let pattern : Text := "\x7b \x7b\x7bsum|4-l-m\x7d\x7d\x7d \x7b\x7b \x7b\x7bname\x7d\x7d"
    '#' ∉ pattern ∧ ¬ "!!".toList <:+: pattern ∧ f.Braceless ∧
      (f.Fillable "sum|4-l-m" ∧ ¬ written "sum|4-l-m" <:+: (f.fill pattern).result) ∧
      f.Fillable "name" ∧ written "name" <:+: (f.fill pattern).result := by
  intro f pattern
  have hsign : '#' ∉ pattern := by decide
  have hmarks : ¬ "!!".toList <:+: pattern := by decide
  have hf : f.Braceless := ⟨by decide, fun _ _ hword => hword⟩
  have hsum : f.Fillable "sum|4-l-m" := ⟨⟨"SUM", some 4, .left, "m"⟩, "5", by decide +kernel⟩
  have hname : f.Fillable "name" := ⟨⟨"NAME", none, .center, []⟩, "x", by decide +kernel⟩
  refine ⟨hsign, hmarks, hf, ⟨hsum, ?_⟩, hname, ?_⟩
  · rw [leaves_placeholder_iff f pattern _ hsign hmarks hf hsum]
    decide
  · rw [leaves_placeholder_iff f pattern _ hsign hmarks hf hname]
    decide

/-- After opening braces a placeholder that can be filled is left as it is written. -/
theorem leaves_placeholder_of_doubled :
    let f : Filling := {
      fields := Keyed.ofList [⟨"NAME", "x"⟩]
      defaultWidth := 20
      inflect := uninflected }
    Placeholder.read "name|3" = .ok ⟨"NAME", some 3, .center, []⟩ ∧
      Fields.value? f.fields "NAME" = some "x".toList ∧
      written "name|3" <:+: (f.fill "\x7b\x7b\x7b\x7bname|3\x7d\x7d").result := by
  decide +kernel

end Filling

end PlainReport
