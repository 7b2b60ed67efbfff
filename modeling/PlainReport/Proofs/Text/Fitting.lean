import PlainReport.Proofs.Text.Parts
import PlainReport.Text.Alignment

/-!
# Fitting keeps lines apart

Fitting a line adds blanks or cuts characters off, so no line break comes in.  The
lines of a fitted text are then its lines, each fitted by itself (`lines_fit`).
-/

namespace PlainReport

namespace Text

theorem lines_ne_nil (t : Text) : lines t ≠ [] := pieces_ne_nil '\n' t

theorem not_mem_of_mem_lines {t line : Text} (h : line ∈ lines t) : '\n' ∉ line :=
  not_mem_of_mem_pieces h

/-- Texts without line breaks are the lines of the text that they make up. -/
theorem lines_unlines {ts : List Text} (hne : ts ≠ []) (h : ∀ t ∈ ts, '\n' ∉ t) :
    lines (unlines ts) = ts := pieces_join hne h

end Text

namespace Alignment

/-- A character in a padded text is the one that was added or stood there before. -/
theorem mem_pad {a : Alignment} {t : Text} {width : Nat} {fill c : Char}
    (h : c ∈ a.pad t width fill) : c = fill ∨ c ∈ t := by
  rw [pad, List.mem_append, List.mem_append] at h
  rcases h with (h | h) | h
  · exact .inl (List.eq_of_mem_replicate h)
  · exact .inr h
  · exact .inl (List.eq_of_mem_replicate h)

/-- A line shows the characters that stand within the width. -/
theorem mem_fitLine_iff (a : Alignment) {x : Char} (hx : x ≠ ' ') (t : Text) (width : Nat) :
    x ∈ a.fitLine t width ↔ x ∈ t.take width := by
  constructor
  · intro h
    cases mem_pad h with
    | inl heq => exact absurd heq hx
    | inr ht => exact ht
  · intro h
    rw [fitLine, pad, List.mem_append, List.mem_append]
    exact .inl (.inr h)

theorem not_mem_fitLine (a : Alignment) {t : Text} (width : Nat) (h : '\n' ∉ t) :
    '\n' ∉ a.fitLine t width := by
  intro hm
  cases mem_pad hm with
  | inl he => exact absurd he (by decide)
  | inr ht => exact h (List.mem_of_mem_take ht)

/-- The lines of a fitted text are its lines, each fitted by itself. -/
theorem lines_fit (a : Alignment) (t : Text) (width : Nat) :
    Text.lines (a.fit t width) = (Text.lines t).map (a.fitLine · width) := by
  refine Text.lines_unlines ?_ fun line hline => ?_
  · exact mt List.map_eq_nil_iff.1 (Text.lines_ne_nil t)
  · obtain ⟨u, hu, rfl⟩ := List.mem_map.1 hline
    exact a.not_mem_fitLine width (Text.not_mem_of_mem_lines hu)

/-- A fitted text shows the characters that stand in its lines within the width. -/
theorem mem_fit_iff (a : Alignment) {x : Char} (hbreak : x ≠ '\n') (hblank : x ≠ ' ') (t : Text)
    (width : Nat) : x ∈ a.fit t width ↔ ∃ line ∈ Text.lines t, x ∈ line.take width := by
  rw [fit, Text.unlines, Text.mem_join_iff (mt List.mem_singleton.1 hbreak)]
  constructor
  · rintro ⟨fitted, hfitted, hx⟩
    obtain ⟨line, hline, rfl⟩ := List.mem_map.1 hfitted
    exact ⟨line, hline, (a.mem_fitLine_iff hblank line width).1 hx⟩
  · rintro ⟨line, hline, hx⟩
    exact ⟨_, List.mem_map_of_mem hline, (a.mem_fitLine_iff hblank line width).2 hx⟩

/-- Fitting brings in blanks and line breaks only. -/
theorem mem_fit {a : Alignment} {t : Text} {width : Nat} {c : Char} (h : c ∈ a.fit t width) :
    c = '\n' ∨ c = ' ' ∨ c ∈ t := by
  by_cases hbreak : c = '\n'
  · exact .inl hbreak
  by_cases hblank : c = ' '
  · exact .inr (.inl hblank)
  · obtain ⟨line, hline, hc⟩ := (a.mem_fit_iff hbreak hblank t width).1 h
    exact .inr (.inr (Text.mem_of_mem_pieces hline (List.mem_of_mem_take hc)))

end Alignment

end PlainReport
