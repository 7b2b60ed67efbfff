import PlainReport.Text.Basic

/-!
# Integers as text

Whole numbers are written in decimal digits, and negative ones with a hyphen in
front.  A number is read from an optional sign and at least one digit, and must
fit its range.
-/

namespace PlainReport

/-- The decimal digits of a natural number. -/
def decimal (n : Nat) : Text := Nat.toDigits 10 n

/-- The number that a text of decimal digits stands for. -/
def readDecimal? (t : Text) : Option Nat :=
  if !t.isEmpty && t.all Char.isDigit then some (Nat.ofDigitChars 10 t 0) else none

/-- The text after an optional sign, and whether the sign was a hyphen. -/
def readSign : Text → Bool × Text
  | '-' :: rest => (true, rest)
  | '+' :: rest => (false, rest)
  | t => (false, t)

/-- An integer of any size, with an optional sign. -/
def readInteger? (t : Text) : Option Int :=
  (readDecimal? (readSign t).2).map fun n => if (readSign t).1 then -(n : Int) else n

/-- The decimal form of an integer. -/
def writeInteger (i : Int) : Text := if i < 0 then '-' :: decimal i.natAbs else decimal i.natAbs

/-- The first number that does not fit into 64 bits, `2 ^ 64`. -/
def wordLimit : Nat := 18446744073709551616

/-- The least integer of 64 bits, `-2 ^ 63`. -/
def leastInt64 : Int := -9223372036854775808

/-- The greatest integer of 64 bits, `2 ^ 63 - 1`. -/
def greatestInt64 : Int := 9223372036854775807

/-- Whether an integer fits into 64 bits with a sign. -/
def fitsInt64 (i : Int) : Bool := leastInt64 ≤ i && i ≤ greatestInt64

/-- An integer of 64 bits with an optional sign. -/
def readInt64? (t : Text) : Option Int64 :=
  (readInteger? t).bind fun i => if fitsInt64 i then some (Int64.ofInt i) else none

/-- The decimal form of an integer of 64 bits. -/
def writeInt64 (i : Int64) : Text := writeInteger i.toInt

/-- The nearest integer of 64 bits. -/
def clampInt64 (i : Int) : Int64 :=
  Int64.ofInt <|
    if i < leastInt64 then leastInt64 else if greatestInt64 < i then greatestInt64 else i

end PlainReport
