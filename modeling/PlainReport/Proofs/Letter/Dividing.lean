import Mathlib.Data.List.Infix
import PlainReport.Letter.Piece

/-!
# Dividing what was written

A piece is written with placeholders between texts.  When no text before a
placeholder has opening braces in it or touches those of the placeholder, and no
placeholder has closing braces in it or touches its own, the piece is divided again
at the places where its placeholders were written (`ofText_of_unambiguous`).
-/

namespace PlainReport.Piece

/-- The braces that open a placeholder. -/
def opening : Text := ['\x7b', '\x7b']

/-- The braces that close a placeholder. -/
def closing : Text := ['\x7d', '\x7d']

/-- No braces can be taken for those of a placeholder but its own. -/
structure Unambiguous (p : Piece) : Prop where
  /-- A text before a placeholder has no opening braces in it or at its end. -/
  before : ∀ s ∈ p.spans, ¬ opening <:+: s.before ∧ ¬ ['\x7b'] <:+ s.before
  /-- The inside of a placeholder has no closing braces in it or at its end. -/
  inner : ∀ s ∈ p.spans, ¬ closing <:+: s.inner ∧ ¬ ['\x7d'] <:+ s.inner
  /-- The text after the last placeholder has no opening braces in it. -/
  tail : ¬ opening <:+: p.tail

/-- A character that is doubled neither in a text nor across its end is not doubled at
its start. -/
theorem not_doubled {x c : Char} {t u v : Text} (hin : ¬ [x, x] <:+: c :: t)
    (hend : ¬ [x] <:+ c :: t) (hc : c = x) (h : t ++ u = x :: v) : False := by
  subst hc
  cases t with
  | nil => exact hend (List.suffix_refl _)
  | cons d t =>
    simp only [List.cons_append, List.cons.injEq] at h
    apply hin
    rw [h.1]
    exact (List.prefix_append [c, c] t).isInfix

theorem not_infix_of_cons {w t : Text} {c : Char} (h : ¬ w <:+: c :: t) : ¬ w <:+: t := by
  intro hw
  exact h (List.infix_cons hw)

theorem not_suffix_of_cons {w t : Text} {c : Char} (h : ¬ w <:+ c :: t) : ¬ w <:+ t := by
  intro hw
  exact h (hw.trans (List.suffix_cons c t))

/-! ## One placeholder -/

/-- The nearest closing braces are those after the inside. -/
theorem closing?_append {inner : Text} (hin : ¬ closing <:+: inner) (hend : ¬ ['\x7d'] <:+ inner)
    (t : Text) : closing? (inner ++ (closing ++ t)) = some (inner, ofText t) := by
  induction inner with
  | nil => simp [closing, closing?]
  | cons c inner ih =>
    have hrest := ih (not_infix_of_cons hin) (not_suffix_of_cons hend)
    rw [List.cons_append, closing?, hrest]
    intro u hc hu
    exact not_doubled hin hend hc hu

/-- The leftmost opening braces are those after the text before. -/
theorem ofText_append {before : Text} (hin : ¬ opening <:+: before) (hend : ¬ ['\x7b'] <:+ before)
    {inner t : Text} {p : Piece} (hclose : closing? t = some (inner, p)) :
    ofText (before ++ (opening ++ t)) = ⟨⟨before, inner⟩ :: p.spans, p.tail⟩ := by
  induction before with
  | nil => simp [opening, ofText, hclose]
  | cons c before ih =>
    have hrest := ih (not_infix_of_cons hin) (not_suffix_of_cons hend)
    rw [List.cons_append, ofText, hrest]
    · rfl
    · intro u hc hu
      exact not_doubled hin hend hc hu

/-- A text without opening braces has no placeholder. -/
theorem ofText_of_not_infix {t : Text} (h : ¬ opening <:+: t) : ofText t = ⟨[], t⟩ := by
  induction t with
  | nil => rfl
  | cons c t ih =>
    rw [ofText, ih (not_infix_of_cons h)]
    · rfl
    · intro u hc hu
      subst hc hu
      exact h (List.prefix_append opening u).isInfix

/-! ## All placeholders -/

/-- Placeholders are found where they were written, before those of the rest. -/
theorem ofText_text_of_spans {spans : List Span} {tail : Text}
    (hbefores : ∀ s ∈ spans, ¬ opening <:+: s.before ∧ ¬ ['\x7b'] <:+ s.before)
    (hinners : ∀ s ∈ spans, ¬ closing <:+: s.inner ∧ ¬ ['\x7d'] <:+ s.inner) :
    ofText (Piece.mk spans tail).text = ⟨spans ++ (ofText tail).spans, (ofText tail).tail⟩ := by
  induction spans with
  | nil => rfl
  | cons s spans ih =>
    obtain ⟨hbefore, hbefores⟩ := List.forall_mem_cons.1 hbefores
    obtain ⟨hinner, hinners⟩ := List.forall_mem_cons.1 hinners
    have hrest := ih hbefores hinners
    have hclose := closing?_append hinner.1 hinner.2 (Piece.mk spans tail).text
    have htext : (Piece.mk (s :: spans) tail).text =
        s.before ++ (opening ++ (s.inner ++ (closing ++ (Piece.mk spans tail).text))) := by
      simp [text, Span.literal, opening, closing]
    rw [htext, ofText_append hbefore.1 hbefore.2 hclose, hrest, List.cons_append]

/-- A piece is divided where its placeholders were written. -/
theorem ofText_of_unambiguous {p : Piece} (h : p.Unambiguous) : ofText p.text = p := by
  rw [ofText_text_of_spans h.before h.inner, ofText_of_not_infix h.tail, List.append_nil]

end PlainReport.Piece
