import PlainReport.Proofs.Letter.Recognized
import PlainReport.Proofs.Letter.Substitution

/-!
# Texts that print as they are

A text is escaped by two exclamation marks right before every placeholder that is recognized
in it.  The marks neither make nor break doubled braces, so the escaped text is divided at the
same placeholders (`Divided.escape`).  Each of them stays as it is written, and the marks before
it are dropped.  So the text is printed as it was, and nothing is reported (`fill_escaped`).
-/

namespace PlainReport

/-- The placeholder with two exclamation marks right before its braces. -/
def Span.escape (s : Span) : Span := ⟨s.before ++ "!!", s.inner⟩

namespace Piece

/-! ## The only division -/

/-- A text in which no closing braces come after opening ones has no placeholder. -/
theorem ofText_of_no_placeholder {tail : Text} (h : ∀ t, ¬ opening ++ t ++ closing <:+: tail) :
    ofText tail = ⟨[], tail⟩ := by
  have htext := text_ofText tail
  cases hdivided : ofText tail with
  | mk spans rest =>
    rw [hdivided] at htext
    cases spans with
    | nil => rw [← htext]; rfl
    | cons s spans =>
      -- the first placeholder would stand in the text
      refine absurd ?_ (h s.inner)
      rw [← htext]
      exact ⟨s.before, (Piece.mk spans rest).text, by simp [text, Span.literal, opening, closing]⟩

/-- A text is divided in one way only. -/
theorem ofText_of_divided {p : Piece} (h : p.Divided) : ofText p.text = p := by
  rw [ofText_text_of_spans h.before h.inner, ofText_of_no_placeholder h.tail, List.append_nil]

theorem divided_and_text_eq_iff {t : Text} {p : Piece} :
    p.Divided ∧ p.text = t ↔ p = ofText t := by
  constructor
  · rintro ⟨hp, rfl⟩
    exact (ofText_of_divided hp).symm
  · rintro rfl
    exact ⟨divided_ofText t, text_ofText t⟩

/-! ## Escaped pieces -/

/-- The piece with two exclamation marks right before every placeholder. -/
def escape (p : Piece) : Piece := ⟨p.spans.map Span.escape, p.tail⟩

/-- Nothing but the marks is put in. -/
theorem text_escape (p : Piece) :
    p.escape.text = p.spans.flatMap (fun s => s.before ++ "!!".toList ++ s.literal) ++ p.tail := by
  rw [text, escape, List.flatMap_map]
  rfl

theorem not_mem_text_escape {p : Piece} {c : Char} (hc : c ∉ "!!".toList) (h : c ∉ p.text) :
    c ∉ p.escape.text := by
  rw [text_escape]
  simp only [text, List.mem_append, List.mem_flatMap, not_or, not_exists, not_and] at h ⊢
  exact ⟨fun s hs => ⟨⟨(h.1 s hs).1, hc⟩, (h.1 s hs).2⟩, h.2⟩

/-- The marks keep the braces of the placeholders apart from others. -/
theorem Divided.escape {p : Piece} (h : p.Divided) : p.escape.Divided where
  before := List.forall_mem_map.2 fun s hs =>
    clear_append (h.before s hs) (clear_of_not_mem (by decide))
  inner := List.forall_mem_map.2 h.inner
  tail := h.tail

end Piece

namespace Filling

variable (f : Filling)

/-- An escaped placeholder stays, and its marks are dropped. -/
theorem fillSpan_escape (s : Span) : f.fillSpan s.escape = ⟨s.before ++ s.literal, []⟩ := by
  simp only [fillSpan, Span.escape, Text.dropEnding?_append]
  rfl

theorem fillPiece_escape (p : Piece) : f.fillPiece p.escape = ⟨p.text, []⟩ := by
  simp [fillPiece, Piece.escape, Piece.text, List.flatMap_map, fillSpan_escape]

/-- Every text without number signs is divided in one way at its placeholders.  With two
exclamation marks before each of them it is printed as it was, and nothing is reported. -/
theorem fill_escaped {t : Text} (hsign : '#' ∉ t) :
    ∃ p : Piece, (∀ q : Piece, q.Divided ∧ q.text = t ↔ q = p) ∧
      p.escape.text = p.spans.flatMap (fun s => s.before ++ "!!".toList ++ s.literal) ++ p.tail ∧
      f.fill p.escape.text = ⟨t, []⟩ := by
  refine ⟨Piece.ofText t, fun q => Piece.divided_and_text_eq_iff, Piece.text_escape _, ?_⟩
  have htext := Piece.text_ofText t
  have hdivided := Piece.divided_ofText t
  have hpieces : Text.pieces '#' (Piece.ofText t).escape.text = [(Piece.ofText t).escape.text] :=
    Text.pieces_of_not_mem (Piece.not_mem_text_escape (by decide) (htext.symm ▸ hsign))
  rw [fill, hpieces, List.map_singleton, Piece.ofText_of_divided hdivided.escape,
    fillPiece_escape, htext]
  simp

/-- Opening braces too many, marks that stand in the text, placeholders that touch and an
opening that nothing closes. -/
theorem fill_escaped_of_braces :
    let f : Filling := {
      fields := Keyed.ofList [⟨"NAME", "x"⟩]
      defaultWidth := 6
      inflect := uninflected }
    let t : Text :=
      "\x7b\x7b\x7bname\x7d\x7d\x7d!!\x7b\x7bname\x7d\x7d\x7b\x7b\x7d\x7d \x7b\x7bname"
    let escaped : Text :=
      "!!\x7b\x7b\x7bname\x7d\x7d\x7d!!!!\x7b\x7bname\x7d\x7d!!\x7b\x7b\x7d\x7d \x7b\x7bname"
    '#' ∉ t ∧ f.fill escaped = ⟨t, []⟩ := by
  intro f t escaped
  have hsign : '#' ∉ t := by decide
  obtain ⟨p, hp, -, hfill⟩ := f.fill_escaped hsign
  have hdivision : Piece.ofText t = p := (hp _).1 ⟨Piece.divided_ofText t, Piece.text_ofText t⟩
  have hescaped : p.escape.text = escaped := by
    rw [← hdivision]
    rfl
  exact ⟨hsign, hescaped ▸ hfill⟩

end Filling

end PlainReport
