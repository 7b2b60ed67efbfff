import PlainReport.Number.Shortest
import PlainReport.Text.Blank

/-!
# Binary numbers as text

Numbers are written in the shortest digits that read back.  A number from
`0.0001` to below `10 ^ 16` is written positionally with at least one digit after
the point, any other in the notation with an exponent.  Two styles share these
rules, one for reports and one for the listing of a row.
-/

namespace PlainReport

/-- How the parts of a binary number are spelled. -/
structure FloatStyle where
  /-- What is not a number. -/
  nan : Text
  /-- The sign before an exponent that is not negative. -/
  plus : Text
  /-- The least number of digits of an exponent. -/
  exponentDigits : Nat

namespace FloatStyle

/-- The style of reports: `nan`, `1e+16`, `1.5e-07`. -/
def report : FloatStyle := ⟨"nan", "+", 2⟩

/-- The style of listed rows: `NaN`, `1e16`, `1.5e-7`. -/
def listing : FloatStyle := ⟨"NaN", "", 1⟩

/-- The exponents that are written positionally. -/
def isPositional (exponent : Int) : Bool := -4 ≤ exponent && exponent ≤ 15

/-- The digits after the point, or a zero. -/
def fraction (digits : Text) : Text := if digits.isEmpty then ['0'] else digits

/-- Digits with a point after the digit of exponent zero. -/
def positional (d : Decimal) : Text :=
  match d.exponent with
  | .ofNat e =>
    d.digits.take (e + 1) ++ List.replicate (e + 1 - d.digits.length) '0' ++ ['.'] ++
      fraction (d.digits.drop (e + 1))
  | .negSucc e => ['0', '.'] ++ List.replicate e '0' ++ d.digits

/-- Digits with a point after the first and an exponent. -/
def scientific (style : FloatStyle) (d : Decimal) : Text :=
  let exponent := decimal d.exponent.natAbs
  d.digits.take 1 ++ (if d.digits.length ≤ 1 then [] else '.' :: d.digits.drop 1) ++ ['e'] ++
    (if d.exponent < 0 then ['-'] else style.plus) ++
    List.replicate (style.exponentDigits - exponent.length) '0' ++ exponent

/-- A number in a style. -/
def write (style : FloatStyle) : Binary64 → Text
  | .nan => style.nan
  | .infinite negative => (if negative then ['-'] else []) ++ ("inf" : Text)
  | .finite negative magnitude =>
    let d := Decimal.shortest magnitude
    (if negative then ['-'] else []) ++
      if isPositional d.exponent then positional d else style.scientific d

end FloatStyle

/-- An exponent mark with an integer, or nothing. -/
def readExponent? : Text → Option Int
  | [] => some 0
  | c :: rest => if c = 'e' || c = 'E' then readInteger? rest else none

/-- An unsigned decimal: digits with at most one point, at least one digit, and an
optional exponent. -/
def readMagnitude? (negative : Bool) (t : Text) : Option Binary64 :=
  let whole := t.takeWhile Char.isDigit
  let (part, rest) := match t.dropWhile Char.isDigit with
    | '.' :: u => (u.takeWhile Char.isDigit, u.dropWhile Char.isDigit)
    | u => ([], u)
  if whole.isEmpty && part.isEmpty then none
  else (readExponent? rest).map fun exponent =>
    Binary64.ofDecimal negative (Nat.ofDigitChars 10 (whole ++ part) 0) (exponent - part.length)

/-- A binary number: an optional sign before a decimal, or before `inf`, `infinity` or
`nan` in any case. -/
def readBinary64? (t : Text) : Option Binary64 :=
  let (negative, body) := readSign t
  let word := body.map Char.toLower
  if word = "nan" then some .nan
  else if word = "inf" || word = "infinity" then some (.infinite negative)
  else readMagnitude? negative body

end PlainReport
