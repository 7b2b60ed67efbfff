import Mathlib.Data.List.Forall2
import PlainReport.Proofs.Text.Fitting
import PlainReport.Table.Sheet

/-!
# Fitted lines

`FitsLine` says what becomes of a line in a field: it is cut, or it stands unbroken
between blanks.  Either way it gets exactly the width of the field
(`FitsLine.length_eq`), and a line of that width stays as it is (`FitsLine.eq_self`).

Fitting does this to every line of a text (`fitsLine_fitLine`), so fitting a second time
changes nothing, neither in a text (`fit_fit`) nor in the cells of a row (`Row.fit_fit`).
-/

namespace PlainReport

namespace Alignment

/-- How many blanks stand before and after a line in a field.  In the center an extra
blank stands after the line, or before it if the width is odd as well. -/
inductive Shares (width : Nat) : Alignment → Nat → Nat → Prop
  | left (after : Nat) : Shares width left 0 after
  | right (before : Nat) : Shares width right before 0
  | even (side : Nat) : Shares width center side side
  | extra_after (side : Nat) : width % 2 = 0 → Shares width center side (side + 1)
  | extra_before (side : Nat) : width % 2 = 1 → Shares width center (side + 1) side

/-- What becomes of a line in a field. -/
inductive FitsLine (a : Alignment) (width : Nat) : Text → Text → Prop
  | cut {line : Text} : width ≤ line.length → FitsLine a width line (line.take width)
  | padded {line : Text} {before after : Nat} : line.length < width →
      before + line.length + after = width → Shares width a before after →
      FitsLine a width line
        (List.replicate before ' ' ++ line ++ List.replicate after ' ')

variable {a : Alignment} {width : Nat}

/-- Padding is shared out as the alignment says. -/
theorem shares_leftShare (a : Alignment) (padding width : Nat) :
    Shares width a (a.leftShare padding width) (padding - a.leftShare padding width) := by
  cases a with
  | left => exact .left _
  | right =>
    have hafter : padding - right.leftShare padding width = 0 := Nat.sub_self padding
    rw [hafter]
    exact .right _
  | center =>
    obtain ⟨side, rfl | rfl⟩ : ∃ side, padding = 2 * side ∨ padding = 2 * side + 1 :=
      ⟨padding / 2, by omega⟩
    · have hshare : center.leftShare (2 * side) width = side := by simp [leftShare]
      have hafter : 2 * side - side = side := by omega
      rw [hshare, hafter]
      exact .even side
    · have hshare : center.leftShare (2 * side + 1) width = side + width % 2 := by
        simp only [leftShare]
        rw [Nat.mul_add_mod, Nat.mod_eq_of_lt Nat.one_lt_two, Nat.one_mul,
          Nat.mul_add_div Nat.two_pos, Nat.div_eq_of_lt Nat.one_lt_two, Nat.add_zero]
      rw [hshare]
      rcases Nat.mod_two_eq_zero_or_one width with hwidth | hwidth
      · have hafter : 2 * side + 1 - side = side + 1 := by omega
        rw [hwidth, Nat.add_zero, hafter]
        exact .extra_after side hwidth
      · have hafter : 2 * side + 1 - (side + 1) = side := by omega
        rw [hwidth, hafter]
        exact .extra_before side hwidth

/-! ## One line -/

namespace FitsLine

variable {line fitted : Text}

/-- A line gets exactly the width of its field. -/
theorem length_eq (h : FitsLine a width line fitted) : fitted.length = width := by
  cases h with
  | cut hle => exact List.length_take_of_le hle
  | padded _ hwidth _ =>
    rw [List.length_append, List.length_append, List.length_replicate, List.length_replicate,
      hwidth]

/-- A line that has the width of its field stays as it is. -/
theorem eq_self (h : FitsLine a width line fitted) (hline : line.length = width) :
    fitted = line := by
  cases h with
  | cut _ => exact List.take_of_length_le (Nat.le_of_eq hline)
  | padded hlt _ _ => exact absurd hline (Nat.ne_of_lt hlt)

end FitsLine

theorem fitsLine_fitLine (a : Alignment) (line : Text) (width : Nat) :
    FitsLine a width line (a.fitLine line width) := by
  rw [fitLine]
  rcases Nat.lt_or_ge line.length width with hlt | hge
  · rw [List.take_of_length_le (Nat.le_of_lt hlt), pad]
    have hshare := a.leftShare_le (width - line.length) width
    exact .padded hlt (by omega) (a.shares_leftShare _ width)
  · have hfull : width - (line.take width).length = 0 := by
      rw [List.length_take_of_le hge, Nat.sub_self]
    have hshare : a.leftShare 0 width = 0 := Nat.eq_zero_of_le_zero (a.leftShare_le 0 width)
    rw [pad, hfull, hshare, List.replicate_zero, List.append_nil, List.nil_append]
    exact .cut hge

theorem fitLine_fitLine (a : Alignment) (line : Text) (width : Nat) :
    a.fitLine (a.fitLine line width) width = a.fitLine line width :=
  (a.fitsLine_fitLine _ width).eq_self (a.fitsLine_fitLine line width).length_eq

/-! ## Texts and rows -/

/-- A fitted text is fitted already. -/
theorem fit_fit (a : Alignment) (t : Text) (width : Nat) :
    a.fit (a.fit t width) width = a.fit t width := by
  have hlines : (Text.lines (a.fit t width)).map (a.fitLine · width) =
      Text.lines (a.fit t width) := by
    rw [lines_fit, List.map_map]
    exact List.map_congr_left fun line _ => a.fitLine_fitLine line width
  have hunlines : Text.unlines (Text.lines (a.fit t width)) = a.fit t width := by
    rw [lines_fit, fit]
  rw [fit, hlines, hunlines]

end Alignment

/-- A row is as it was when every cell keeps its value. -/
theorem Row.mapValues_eq_self {f : Cell → Value} {row : Row}
    (h : ∀ cell ∈ row.entries, f cell = cell.value) : Row.mapValues f row = row := by
  refine Keyed.ext_entries ?_
  have hcells : ∀ cell ∈ row.entries, (⟨cell.name, f cell⟩ : Cell) = cell := by
    intro cell hcell
    rw [h cell hcell]
  exact (List.map_congr_left hcells).trans (List.map_id' _)

/-- A fitted row is fitted already. -/
theorem Row.fit_fit (schema : Schema) (row : Row) :
    Row.fit schema (Row.fit schema row) = Row.fit schema row := by
  refine Row.mapValues_eq_self fun fitted hfitted => ?_
  obtain ⟨cell, _, rfl⟩ := List.mem_map.1 hfitted
  dsimp only
  split
  · next column _ => exact congrArg Value.text (column.alignment.fit_fit _ _)
  · rfl

/-- A fitted text has the lines of the text, each as `FitsLine` says and so of exactly the
width, and neither a fitted text nor fitted rows are changed by fitting them again. -/
theorem Alignment.fit_exact_and_final :
    (∀ (a : Alignment) (width : Nat) (t : Text),
      (Text.lines (a.fit t width)).length = (Text.lines t).length ∧
      (∀ line ∈ Text.lines (a.fit t width), line.length = width) ∧
      List.Forall₂ (FitsLine a width) (Text.lines t) (Text.lines (a.fit t width)) ∧
      a.fit (a.fit t width) width = a.fit t width) ∧
    ∀ (schema : Schema) (rows : List Row),
      (rows.map (Row.fit schema)).map (Row.fit schema) = rows.map (Row.fit schema) := by
  refine ⟨fun a width t => ?_, fun schema rows => ?_⟩
  · have heach : List.Forall₂ (FitsLine a width) (Text.lines t) (Text.lines (a.fit t width)) := by
      rw [lines_fit, List.forall₂_map_right_iff, List.forall₂_same]
      exact fun line _ => a.fitsLine_fitLine line width
    refine ⟨heach.length_eq.symm, fun fitted hfitted => ?_, heach, a.fit_fit t width⟩
    rw [lines_fit] at hfitted
    obtain ⟨line, _, rfl⟩ := List.mem_map.1 hfitted
    exact (a.fitsLine_fitLine line width).length_eq
  · rw [List.map_map]
    exact List.map_congr_left fun row _ => Row.fit_fit schema row

/-- In a field of odd width an odd blank stands before the line. -/
theorem Alignment.fit_exact_and_final_of_odd :
    let t : Text := "ab\nabcd\n"
    let fitted : Text := " ab\nabc\n   "
    center.fit t 3 = fitted ∧
      (" ab" : Text) ∈ Text.lines (center.fit t 3) ∧ (" ab" : Text).length = 3 ∧
      List.Forall₂ (FitsLine center 3) ["ab", "abcd", []] [" ab", "abc", "   "] ∧
      center.fit fitted 3 = fitted := by
  intro t fitted
  have hfit : center.fit t 3 = fitted := by decide
  have hline : (" ab" : Text) ∈ Text.lines (center.fit t 3) := by decide
  obtain ⟨-, hexact, heach, hagain⟩ := fit_exact_and_final.1 center 3 t
  rw [hfit] at hagain
  exact ⟨hfit, hline, hexact _ hline, heach, hagain⟩

end PlainReport
