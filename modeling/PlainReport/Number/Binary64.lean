/-!
# Binary numbers of 64 bits

The numbers of the binary64 format with one value that is not a number.  The
finite magnitudes are numbered from zero in ascending order, and each is a whole
multiple of the unit `2 ^ -1074`.  They come in binades of `2 ^ 52` magnitudes.
Those of the first two binades are one unit apart, and in each later binade they
are twice as far apart as in the one before.

Every operation forms its exact result as a quotient of natural numbers and
rounds once, to the nearest magnitude and from the middle to the even one.
-/

namespace PlainReport

/-- A power of two. -/
def powerOfTwo (e : Nat) : Nat := Nat.pow 2 e

/-- A power of ten. -/
def powerOfTen (e : Nat) : Nat := Nat.pow 10 e

/-- How many magnitudes a binade has, `2 ^ 52`. -/
def binade : Nat := 4503599627370496

/-- How many finite magnitudes there are.  They fill 2047 binades. -/
def finiteMagnitudes : Nat := 2047 * binade

/-- A binary number of 64 bits. -/
inductive Binary64 where
  /-- Not a number. -/
  | nan
  /-- An infinity. -/
  | infinite (negative : Bool)
  /-- A finite number by its sign and the number of its magnitude. -/
  | finite (negative : Bool) (magnitude : Fin finiteMagnitudes)
deriving DecidableEq, Repr

/-- The quotient rounded to the nearest natural number, and from the middle to the
even one. -/
def roundQuotient (num den : Nat) : Nat :=
  if 2 * (num % den) < den then num / den
  else if den < 2 * (num % den) then num / den + 1
  else num / den + num / den % 2

namespace Binary64

/-- How many units make one. -/
def unitsPerOne : Nat := powerOfTwo 1074

/-- The units of the magnitude with a given number. -/
def units (magnitude : Nat) : Nat :=
  if magnitude < binade then magnitude
  else (binade + magnitude % binade) * powerOfTwo (magnitude / binade - 1)

/-- The number of the magnitude nearest to a quotient of units. -/
def nearestMagnitude (num den : Nat) : Nat :=
  let scale := Nat.log2 (num / den) - 52
  scale * binade + roundQuotient num (den * powerOfTwo scale)

/-- The number nearest to a quotient of units.  Beyond the finite magnitudes it is
infinite. -/
def ofUnits (negative : Bool) (num den : Nat) : Binary64 :=
  if h : nearestMagnitude num den < finiteMagnitudes then .finite negative ⟨_, h⟩
  else .infinite negative

/-- Zero with a sign. -/
def zero (negative : Bool) : Binary64 := .finite negative ⟨0, by decide⟩

/-- The number nearest to an integer. -/
def ofInt (i : Int) : Binary64 := ofUnits (i < 0) (i.natAbs * unitsPerOne) 1

/-- The number nearest to `digits * 10 ^ exponent`.  A number of more than 310 digits
is infinite and one below `10 ^ -330` is zero, whatever its digits. -/
def ofDecimal (negative : Bool) (digits : Nat) (exponent : Int) : Binary64 :=
  let top := (Nat.toDigits 10 digits).length + exponent
  if digits = 0 then zero negative
  else if 310 < top then .infinite negative
  else if top < -330 then zero negative
  else match exponent with
    | .ofNat e => ofUnits negative (digits * powerOfTen e * unitsPerOne) 1
    | .negSucc e => ofUnits negative (digits * unitsPerOne) (powerOfTen (e + 1))

/-- A signed count of units. -/
def signedUnits (negative : Bool) (magnitude : Nat) : Int :=
  if negative then -(units magnitude : Int) else units magnitude

/-- The sum.  Numbers that cancel give the positive zero, and two zeros of one sign
keep it. -/
def add : Binary64 → Binary64 → Binary64
  | nan, _ | _, nan => nan
  | infinite s, infinite t => if s = t then infinite s else nan
  | infinite s, finite _ _ => infinite s
  | finite _ _, infinite t => infinite t
  | finite s m, finite t n =>
    let sum := signedUnits s m + signedUnits t n
    if sum = 0 then zero (s && t) else ofUnits (sum < 0) sum.natAbs 1

/-- The product. -/
def mul : Binary64 → Binary64 → Binary64
  | nan, _ | _, nan => nan
  | infinite s, infinite t => infinite (s != t)
  | infinite s, finite t n => if n.val = 0 then nan else infinite (s != t)
  | finite s m, infinite t => if m.val = 0 then nan else infinite (s != t)
  | finite s m, finite t n => ofUnits (s != t) (units m * units n) unitsPerOne

/-- The quotient. -/
def div : Binary64 → Binary64 → Binary64
  | nan, _ | _, nan => nan
  | infinite _, infinite _ => nan
  | infinite s, finite t _ => infinite (s != t)
  | finite s _, infinite t => zero (s != t)
  | finite s m, finite t n =>
    if n.val = 0 then if m.val = 0 then nan else infinite (s != t)
    else ofUnits (s != t) (units m * unitsPerOne) (units n)

/-- The nearest whole number, and from the middle the even one.  The sign stays. -/
def roundEven : Binary64 → Binary64
  | finite s m => ofUnits s (roundQuotient (units m) unitsPerOne * unitsPerOne) 1
  | x => x

/-- The place of a number in the order of the numbers. -/
def rank? : Binary64 → Option Int
  | nan => none
  | infinite negative => some (if negative then -(finiteMagnitudes : Int) else finiteMagnitudes)
  | finite negative m => some (if negative then -(m.val : Int) else m.val)

/-- The numerical order.  The two zeros are equal, and what is not a number has no
place in it. -/
def compare? (x y : Binary64) : Option Ordering :=
  match x.rank?, y.rank? with
  | some i, some j => some (compare i j)
  | _, _ => none

end Binary64

end PlainReport
