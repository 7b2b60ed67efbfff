/-!
# Sets of characters as ranges

A large set of characters is a list of ranges of code points in ascending order.
Membership stops at the first range that begins beyond the code point.
-/

namespace PlainReport.Text

/-- Whether a code point lies in one of the ascending ranges, ends included. -/
def inRanges (n : Nat) : List (Nat × Nat) → Bool
  | [] => false
  | (first, last) :: rest => if n < first then false else n ≤ last || inRanges n rest

end PlainReport.Text
