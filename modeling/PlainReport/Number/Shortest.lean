import PlainReport.Number.Binary64
import PlainReport.Number.Integer

/-!
# Shortest decimals

The shortest decimal that reads back as a given number, and among those of one
length the nearest.  The search goes through the decimals of one digit, of two
and so on.  If any decimal of a length reads back, so does one of the two that
enclose the number, and only those are tried.
-/

namespace PlainReport

/-- A decimal `d.ddd × 10 ^ exponent` by all its digits. -/
structure Decimal where
  /-- The digits, of which there is at least one. -/
  digits : Text
  /-- The exponent of the first digit. -/
  exponent : Int
deriving DecidableEq, Repr

namespace Decimal

/-- The decimal `n * 10 ^ exponent` without the zeros at its end. -/
def ofNat (n : Nat) (exponent : Int) : Decimal :=
  let all := decimal n
  let kept := (all.reverse.dropWhile (· == '0')).reverse
  ⟨if kept.isEmpty then ['0'] else kept, exponent + (all.length - 1 : Nat)⟩

/-- The exponent of the leading digit of a positive number of units.  The power of
ten makes even a single unit greater than one. -/
def leadingExponent (units : Nat) : Int :=
  (decimal (units * powerOfTen 400 / Binary64.unitsPerOne)).length - 401

/-- The decimals with a given last exponent that enclose a number of units, the
nearer one first, and from the middle the greater. -/
def neighbours (units : Nat) (exponent : Int) : List Nat :=
  let (num, den) := match exponent with
    | .ofNat e => (units, Binary64.unitsPerOne * powerOfTen e)
    | .negSucc e => (units * powerOfTen (e + 1), Binary64.unitsPerOne)
  if 2 * (num % den) < den then [num / den, num / den + 1] else [num / den + 1, num / den]

/-- The first of the enclosing decimals of `count` digits that reads back. -/
def ofLength? (magnitude : Fin finiteMagnitudes) (count : Nat) : Option Decimal :=
  let units := Binary64.units magnitude
  let exponent := leadingExponent units - (count - 1 : Nat)
  ((neighbours units exponent).find? fun n =>
    Binary64.ofDecimal false n exponent = .finite false magnitude).map (ofNat · exponent)

/-- The shortest decimal that reads back as the magnitude.  Seventeen digits always
suffice, and the exact value stands behind them. -/
def shortest (magnitude : Fin finiteMagnitudes) : Decimal :=
  if magnitude.val = 0 then ⟨['0'], 0⟩
  else ((List.range' 1 17).findSome? (ofLength? magnitude)).getD
    (ofNat (Binary64.units magnitude * Nat.pow 5 1074) (-1074))

end Decimal

end PlainReport
