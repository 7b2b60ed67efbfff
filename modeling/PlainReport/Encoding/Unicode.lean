import PlainReport.Text.Basic

/-!
# UTF-8 and UTF-16

The two byte forms of Unicode.  Decoding is strict: a form that is too long, a
lone surrogate, a code point beyond the last or a text cut off in the middle of
a character is refused.  What is written in UTF-8 is read back
(`decodeUtf8?_encodeUtf8`).
-/

namespace PlainReport

/-- The bytes of a file. -/
abbrev Bytes := List UInt8

/-- The UTF-8 form of a text. -/
def encodeUtf8 (t : Text) : Bytes := t.flatMap String.utf8EncodeChar

/-- The character with a code point, if there is one. -/
def charOfNat? (n : Nat) : Option Char := if n.isValidChar then some (Char.ofNat n) else none

/-- The six bits of a byte that continues a character. -/
def continuation? (b : UInt8) : Option Nat :=
  if 0x80 ≤ b.toNat && b.toNat ≤ 0xbf then some (b.toNat - 0x80) else none

/-- The character of a code point that is not less than the least one of its length. -/
def charFrom? (least n : Nat) : Option Char := if n < least then none else charOfNat? n

/-- The text of a UTF-8 form. -/
def decodeUtf8? : Bytes → Option Text
  | [] => some []
  | a :: rest =>
    if a.toNat < 0x80 then do
      return (← charOfNat? a.toNat) :: (← decodeUtf8? rest)
    else if a.toNat < 0xc0 then none
    else match rest with
      | [] => none
      | b :: rest =>
        if a.toNat < 0xe0 then do
          let c ← charFrom? 0x80 ((a.toNat - 0xc0) * 0x40 + (← continuation? b))
          return c :: (← decodeUtf8? rest)
        else match rest with
          | [] => none
          | c :: rest =>
            if a.toNat < 0xf0 then do
              let c ← charFrom? 0x800
                ((a.toNat - 0xe0) * 0x1000 + (← continuation? b) * 0x40 + (← continuation? c))
              return c :: (← decodeUtf8? rest)
            else if a.toNat < 0xf8 then
              match rest with
              | [] => none
              | d :: rest => do
                let c ← charFrom? 0x10000
                  ((a.toNat - 0xf0) * 0x40000 + (← continuation? b) * 0x1000 +
                    (← continuation? c) * 0x40 + (← continuation? d))
                return c :: (← decodeUtf8? rest)
            else none

/-! ## Round trip of UTF-8 -/

/-- The form of the text of a string has the bytes of the string. -/
theorem encodeUtf8_toList (s : String) : encodeUtf8 s.toList = s.toUTF8.data.toList := by
  have hbytes : (String.ofList s.toList).toUTF8 = (encodeUtf8 s.toList).toByteArray := rfl
  rw [String.ofList_toList] at hbytes
  rw [hbytes, List.data_toByteArray]

theorem charOfNat?_toNat (c : Char) : charOfNat? c.toNat = some c := by
  have hvalid : c.toNat.isValidChar := c.valid
  rw [charOfNat?, if_pos hvalid, Char.ofNat_toNat]

theorem charFrom?_toNat {least : Nat} {c : Char} (h : least ≤ c.toNat) :
    charFrom? least c.toNat = some c := by
  rw [charFrom?, if_neg (Nat.not_lt.2 h), charOfNat?_toNat]

theorem toNat_char_lt (c : Char) : c.toNat < 0x110000 := by
  rcases c.valid with h | h
  · exact Nat.lt_trans h (by decide)
  · exact h.2

/-- A byte that continues a character gives its six bits. -/
theorem continuation?_ofNat (n : Nat) :
    continuation? (UInt8.ofNat (n % 0x40 + 0x80)) = some (n % 0x40) := by
  have hlt : n % 0x40 + 0x80 < 0xc0 := Nat.add_lt_add_right (Nat.mod_lt _ (by decide)) _
  have hbyte : (UInt8.ofNat (n % 0x40 + 0x80)).toNat = n % 0x40 + 0x80 :=
    UInt8.toNat_ofNat_of_lt' (Nat.lt_trans hlt (by decide))
  have hle : n % 0x40 + 0x80 ≤ 0xbf := Nat.le_of_lt_succ hlt
  rw [continuation?, hbyte]
  simp [hle]

-- In the next lemmas binds are rewritten by equations.  If they were by definition, the kernel
-- would count down from the least code points.
section Forms

variable {char : Char} {a b c d : UInt8} {l m n : Nat} (rest : Bytes)

/-- A character that is read stands before the text of the other bytes. -/
theorem bind_charFrom? {least code : Nat} (hcode : code = char.toNat)
    (hleast : least ≤ char.toNat) (rest : Bytes) :
    (do return (← charFrom? least code) :: (← decodeUtf8? rest)) =
      (decodeUtf8? rest).map (char :: ·) := by
  rw [hcode, charFrom?_toNat hleast]
  cases decodeUtf8? rest <;> rfl

theorem decodeUtf8?_one (h80 : a.toNat < 0x80) (ha : a.toNat = char.toNat) :
    decodeUtf8? (a :: rest) = (decodeUtf8? rest).map (char :: ·) := by
  have hread : decodeUtf8? (a :: rest) = do
      return (← charOfNat? a.toNat) :: (← decodeUtf8? rest) := by
    rw [decodeUtf8?.eq_def]
    simp only [if_pos h80]
  rw [hread, ha, charOfNat?_toNat]
  cases decodeUtf8? rest <;> rfl

theorem decodeUtf8?_two (hb : continuation? b = some n) (hc0 : 0xc0 ≤ a.toNat)
    (he0 : a.toNat < 0xe0) (hleast : 0x80 ≤ char.toNat)
    (hsum : (a.toNat - 0xc0) * 0x40 + n = char.toNat) :
    decodeUtf8? (a :: b :: rest) = (decodeUtf8? rest).map (char :: ·) := by
  have h80 : ¬a.toNat < 0x80 := by omega
  rw [← bind_charFrom? hsum hleast rest, decodeUtf8?.eq_def]
  simp -implicitDefEqProofs only [if_neg h80, if_neg (Nat.not_lt.2 hc0), if_pos he0, hb,
    Option.bind_eq_bind, Option.bind_some]

theorem decodeUtf8?_three (hb : continuation? b = some m) (hc : continuation? c = some n)
    (he0 : 0xe0 ≤ a.toNat) (hf0 : a.toNat < 0xf0) (hleast : 0x800 ≤ char.toNat)
    (hsum : (a.toNat - 0xe0) * 0x1000 + m * 0x40 + n = char.toNat) :
    decodeUtf8? (a :: b :: c :: rest) = (decodeUtf8? rest).map (char :: ·) := by
  have h80 : ¬a.toNat < 0x80 := by omega
  have hc0 : ¬a.toNat < 0xc0 := by omega
  rw [← bind_charFrom? hsum hleast rest, decodeUtf8?.eq_def]
  simp -implicitDefEqProofs only [if_neg h80, if_neg hc0, if_neg (Nat.not_lt.2 he0), if_pos hf0,
    hb, hc, Option.bind_eq_bind, Option.bind_some]

theorem decodeUtf8?_four (hb : continuation? b = some l) (hc : continuation? c = some m)
    (hd : continuation? d = some n) (hf0 : 0xf0 ≤ a.toNat) (hf8 : a.toNat < 0xf8)
    (hleast : 0x10000 ≤ char.toNat)
    (hsum : (a.toNat - 0xf0) * 0x40000 + l * 0x1000 + m * 0x40 + n = char.toNat) :
    decodeUtf8? (a :: b :: c :: d :: rest) = (decodeUtf8? rest).map (char :: ·) := by
  have h80 : ¬a.toNat < 0x80 := by omega
  have hc0 : ¬a.toNat < 0xc0 := by omega
  have he0 : ¬a.toNat < 0xe0 := by omega
  rw [← bind_charFrom? hsum hleast rest, decodeUtf8?.eq_def]
  simp -implicitDefEqProofs only [if_neg h80, if_neg hc0, if_neg he0, if_neg (Nat.not_lt.2 hf0),
    if_pos hf8, hb, hc, hd, Option.bind_eq_bind, Option.bind_some]

end Forms

/-- The first byte of a character tells the length of its form, and the other bytes continue
it. -/
theorem decodeUtf8?_utf8EncodeChar_append (c : Char) (rest : Bytes) :
    decodeUtf8? (String.utf8EncodeChar c ++ rest) = (decodeUtf8? rest).map (c :: ·) := by
  have hmax : c.toNat < 0x110000 := toNat_char_lt c
  have hval : c.val.toNat = c.toNat := rfl
  have hbyte (n : Nat) (h : n < 0x100) : (UInt8.ofNat n).toNat = n := UInt8.toNat_ofNat_of_lt' h
  unfold String.utf8EncodeChar
  simp only [hval]
  split
  case isTrue hone =>
    have hfirst := hbyte c.toNat (by omega)
    exact decodeUtf8?_one rest (by omega) hfirst
  split
  case isTrue hone htwo =>
    have hfirst := hbyte (c.toNat / 64 % 32 + 192) (by omega)
    exact decodeUtf8?_two rest (continuation?_ofNat _) (by omega) (by omega) (by omega) (by omega)
  split
  case isTrue htwo hthree =>
    have hfirst := hbyte (c.toNat / 4096 % 16 + 224) (by omega)
    exact decodeUtf8?_three rest (continuation?_ofNat _) (continuation?_ofNat _) (by omega)
      (by omega) (by omega) (by omega)
  case isFalse htwo hthree =>
    have hfirst := hbyte (c.toNat / 262144 % 8 + 240) (by omega)
    exact decodeUtf8?_four rest (continuation?_ofNat _) (continuation?_ofNat _)
      (continuation?_ofNat _) (by omega) (by omega) (by omega) (by omega)

/-- What is written in UTF-8 is read back. -/
theorem decodeUtf8?_encodeUtf8 (t : Text) : decodeUtf8? (encodeUtf8 t) = some t := by
  induction t with
  | nil => rfl
  | cons c t ih =>
    have hsplit : encodeUtf8 (c :: t) = String.utf8EncodeChar c ++ encodeUtf8 t :=
      List.flatMap_cons
    rw [hsplit, decodeUtf8?_utf8EncodeChar_append, ih]
    rfl

/-! ## UTF-16 -/

/-- The units of two bytes, the low byte first or the high one. -/
def units16? (highFirst : Bool) : Bytes → Option (List Nat)
  | [] => some []
  | [_] => none
  | a :: b :: rest => do
    let unit := if highFirst then a.toNat * 0x100 + b.toNat else b.toNat * 0x100 + a.toNat
    return unit :: (← units16? highFirst rest)

/-- The text of units of two bytes.  A high surrogate must be followed by a low one,
and together they are a character beyond the first plane. -/
def decodeUnits16? : List Nat → Option Text
  | [] => some []
  | a :: rest =>
    if 0xd800 ≤ a && a < 0xdc00 then
      match rest with
      | [] => none
      | b :: rest =>
        if 0xdc00 ≤ b && b < 0xe000 then do
          let c ← charOfNat? (0x10000 + (a - 0xd800) * 0x400 + (b - 0xdc00))
          return c :: (← decodeUnits16? rest)
        else none
    else do
      return (← charOfNat? a) :: (← decodeUnits16? rest)

/-- The text of a UTF-16 form. -/
def decodeUtf16? (highFirst : Bool) (b : Bytes) : Option Text :=
  (units16? highFirst b).bind decodeUnits16?

end PlainReport
