import PlainReport.Text.Basic

/-!
# Alignment

A text is fitted to a width by cutting it off at its end or by adding blanks at
its sides.  Every line of a fitted text has exactly the given width.
-/

namespace PlainReport

/-- Where a text stands in its field. -/
inductive Alignment where
  | left
  | center
  | right
deriving DecidableEq, Repr

namespace Alignment

/-- The letter of the alignment. -/
def letter : Alignment → Char
  | left => 'l'
  | center => 'c'
  | right => 'r'

/-- The alignment of a letter.  The Cyrillic letter that looks like `c` is read as
one too. -/
def ofLetter? (c : Char) : Option Alignment :=
  if c = 'l' then some left
  else if c = 'c' || c = 'с' then some center
  else if c = 'r' then some right
  else none

/-- The keyword is the letter alone. -/
def keyword (a : Alignment) : Text := [a.letter]

/-- The alignment that a text names. -/
def ofKeyword? : Text → Option Alignment
  | [c] => ofLetter? c
  | _ => none

/-- How many of the added characters go to the left.  In the center an odd one
goes to the right, or to the left if the width is odd. -/
def leftShare (a : Alignment) (padding width : Nat) : Nat :=
  match a with
  | left => 0
  | center => padding / 2 + padding % 2 * (width % 2)
  | right => padding

/-- A text with a character added at its sides up to a width.  A text of that width
or more is unchanged. -/
def pad (a : Alignment) (t : Text) (width : Nat) (fill : Char) : Text :=
  let padding := width - t.length
  let before := a.leftShare padding width
  List.replicate before fill ++ t ++ List.replicate (padding - before) fill

/-- A single line cut or padded to exactly a width. -/
def fitLine (a : Alignment) (t : Text) (width : Nat) : Text := a.pad (t.take width) width ' '

/-- A text with every line fitted to a width. -/
def fit (a : Alignment) (t : Text) (width : Nat) : Text :=
  Text.unlines (t.lines.map (a.fitLine · width))

theorem ofKeyword?_keyword (a : Alignment) : ofKeyword? a.keyword = some a := by
  cases a <;> rfl

theorem leftShare_le (a : Alignment) (padding width : Nat) :
    a.leftShare padding width ≤ padding := by
  cases a with
  | left => exact Nat.zero_le _
  | center =>
    have hp : padding % 2 = 0 ∨ padding % 2 = 1 := Nat.mod_two_eq_zero_or_one padding
    have hw : width % 2 = 0 ∨ width % 2 = 1 := Nat.mod_two_eq_zero_or_one width
    rcases hp with hp | hp <;> rcases hw with hw | hw <;> simp [leftShare, hp, hw] <;> omega
  | right => exact Nat.le_refl _

theorem length_pad (a : Alignment) (t : Text) (width : Nat) (fill : Char) :
    (a.pad t width fill).length = max t.length width := by
  have := a.leftShare_le (width - t.length) width
  simp only [pad, List.length_append, List.length_replicate]
  omega

@[simp] theorem length_fitLine (a : Alignment) (t : Text) (width : Nat) :
    (a.fitLine t width).length = width := by
  rw [fitLine, length_pad, List.length_take]
  omega

end Alignment

end PlainReport
