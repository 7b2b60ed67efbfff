import PlainReport.Proofs.Loading
import PlainReport.Proofs.Text.Capitals
import PlainReport.Proofs.Text.Parts
import PlainReport.Proofs.Text.Trimming

/-!
# Names in a header

The names of a table stand between commas in its first line.  Capitals bring in neither
commas nor line breaks, so no name of a table has one in it (`comma_not_mem_headerOf`,
`not_mem_headerOf`).
-/

namespace PlainReport.Table

/-- A sign before `A` in a name of a table stands in the piece of the header from which the
name is read. -/
theorem exists_piece_of_mem_headerOf {t name : Text} (h : name ∈ headerOf t) {x : Char}
    (hpos : 0 < x.toNat) (hx : x.toNat < 'A'.toNat) (hmem : x ∈ name) :
    ∃ piece ∈ Text.pieces ',' (Text.trimEnd (Text.cut '\n' t).1), x ∈ piece := by
  obtain ⟨piece, hpiece, rfl⟩ := List.mem_map.1 h
  exact ⟨piece, hpiece, Text.trim_subset piece (Text.mem_of_mem_toUpper hpos hx hmem)⟩

/-- The names of a table stand in its first line. -/
theorem not_mem_headerOf {t name : Text} (h : name ∈ headerOf t) : '\n' ∉ name := by
  intro hmem
  obtain ⟨piece, hpiece, hbreak⟩ := exists_piece_of_mem_headerOf h (by decide) (by decide) hmem
  have hline := Text.trimEnd_subset _ (Text.mem_of_mem_pieces hpiece hbreak)
  exact Text.not_mem_cut '\n' t hline

/-- The names of a table stand between the commas of its first line. -/
theorem comma_not_mem_headerOf {t name : Text} (h : name ∈ headerOf t) : ',' ∉ name := by
  intro hmem
  obtain ⟨piece, hpiece, hcomma⟩ := exists_piece_of_mem_headerOf h (by decide) (by decide) hmem
  exact Text.not_mem_of_mem_pieces hpiece hcomma

end PlainReport.Table
