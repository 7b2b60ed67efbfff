import PlainReport.Proofs.Number.DecimalValue
import PlainReport.Proofs.Text.Classes
import PlainReport.Proofs.Text.Trimming
import PlainReport.Value

/-!
# Numbers have no blanks in them

No blanks stand in a number as it is displayed (`Value.blankless_display`), and only texts
without blanks are read as numbers (`blankless_of_readInt64?`, `blankless_of_readBinary64?`).
So numbers stand on one line, and trimming takes nothing from them
(`Text.Blankless.trim_eq`).
-/

namespace PlainReport

open Text

/-! ## Texts without blanks -/

/-- No blanks stand in the text. -/
def Text.Blankless (t : Text) : Prop := ∀ c ∈ t, isBlank c = false

instance (t : Text) : Decidable t.Blankless :=
  decidable_of_iff (t.all (!isBlank ·) = true) (by simp [Text.Blankless])

namespace Text.Blankless

variable {t u : Text} {x : Char}

theorem not_mem (h : t.Blankless) (hx : isBlank x = true) : x ∉ t := by
  intro hmem
  rw [h x hmem] at hx
  cases hx

theorem of_digits (h : ∀ c ∈ t, c.isDigit = true) : t.Blankless :=
  fun c hc => isBlank_of_isDigit (h c hc)

theorem of_sublist (h : u.Sublist t) (ht : t.Blankless) : u.Blankless :=
  fun c hc => ht c (h.subset hc)

theorem append (ht : t.Blankless) (hu : u.Blankless) : (t ++ u).Blankless :=
  fun c hc => (List.mem_append.1 hc).elim (ht c) (hu c)

theorem cons (hx : isBlank x = false) (ht : t.Blankless) : Blankless (x :: t) :=
  List.forall_mem_cons.2 ⟨hx, ht⟩

/-- Digits before a text bring no blanks in. -/
theorem of_dropWhile (h : Blankless (t.dropWhile Char.isDigit)) : t.Blankless := by
  rw [← t.takeWhile_append_dropWhile (p := Char.isDigit)]
  exact append (of_digits fun _ => List.mem_takeWhile_imp) h

/-- Trimming takes nothing from a text without blanks. -/
theorem trim_eq (h : t.Blankless) : trim t = t := by
  cases t with
  | nil => rfl
  | cons c rest =>
    have hne : c :: rest ≠ [] := List.cons_ne_nil c rest
    exact trim_of_solid (beginsSolid_of_forall hne h) (endsSolid_of_forall hne h)

end Text.Blankless

/-! ## Displayed numbers -/

theorem blankless_decimal (n : Nat) : (decimal n).Blankless :=
  .of_digits fun _ => isDigit_of_mem_decimal

theorem blankless_writeInteger (i : Int) : (writeInteger i).Blankless := by
  intro c hc
  rcases mem_writeInteger hc with rfl | hdigit
  · rfl
  · exact isBlank_of_isDigit hdigit

/-- The decimal form of an integer is cast to the integer. -/
theorem DataType.cast_writeInt64 (v : Int64) : int.cast (writeInt64 v) = .ok (.int v) := by
  have htrim : trim (writeInt64 v) = writeInt64 v := (blankless_writeInteger v.toInt).trim_eq
  rw [cast, htrim, readInt64?_writeInt64]
  rfl

namespace FloatStyle

theorem blankless_zeros (n : Nat) : Blankless (List.replicate n '0') :=
  .of_digits isDigit_of_mem_zeros

theorem blankless_positional {d : Decimal} (h : d.digits.Blankless) :
    (positional d).Blankless := by
  have hfraction (n : Nat) : (fraction (d.digits.drop n)).Blankless := by
    unfold fraction
    split
    · decide
    · exact .of_sublist (List.drop_sublist n _) h
  unfold positional
  split
  · next e _ =>
    have htake : Blankless (d.digits.take (e + 1)) := .of_sublist (List.take_sublist _ _) h
    exact ((htake.append (blankless_zeros _)).append (by decide)).append (hfraction _)
  · exact (Blankless.append (by decide) (blankless_zeros _)).append h

theorem blankless_scientific {style : FloatStyle} (hplus : Blankless style.plus) {d : Decimal}
    (h : d.digits.Blankless) : (style.scientific d).Blankless := by
  have htake : Blankless (d.digits.take 1) := .of_sublist (List.take_sublist _ _) h
  have hpoint : Blankless (if d.digits.length ≤ 1 then [] else '.' :: d.digits.drop 1) := by
    split
    · decide
    · exact .cons rfl (.of_sublist (List.drop_sublist _ _) h)
  have hsign : Blankless (if d.exponent < 0 then ['-'] else style.plus) := by
    split
    · decide
    · exact hplus
  exact ((((htake.append hpoint).append (by decide)).append hsign).append
    (blankless_zeros _)).append (blankless_decimal _)

/-- A number in the style of reports has no blanks in it. -/
theorem blankless_write (x : Binary64) : (report.write x).Blankless := by
  have hsign (negative : Bool) : Blankless (if negative = true then ['-'] else []) := by
    cases negative <;> decide
  cases x with
  | nan => decide
  | infinite negative => exact (hsign negative).append (by decide)
  | finite negative magnitude =>
    have hdigits : Blankless (Decimal.shortest magnitude).digits :=
      .of_digits (Decimal.isDecimal_shortest magnitude).digits
    refine (hsign negative).append ?_
    split
    · exact blankless_positional hdigits
    · exact blankless_scientific (by decide) hdigits

end FloatStyle

/-- A displayed value that is no text has no blanks in it. -/
theorem Value.blankless_display {v : Value} (h : v.type ≠ .text) : v.display.Blankless := by
  cases v with
  | int i => exact blankless_writeInteger i.toInt
  | float x => exact FloatStyle.blankless_write x
  | text t => exact absurd rfl h

/-! ## Texts that are read as numbers -/

theorem blankless_of_readDecimal? {t : Text} {n : Nat} (h : readDecimal? t = some n) :
    t.Blankless := by
  unfold readDecimal? at h
  split at h
  · next hall =>
    simp only [Bool.and_eq_true, List.all_eq_true] at hall
    exact .of_digits hall.2
  · cases h

/-- A sign brings no blanks in. -/
theorem blankless_of_readSign {t : Text} (h : (readSign t).2.Blankless) : t.Blankless := by
  unfold readSign at h
  split at h
  · exact .cons rfl h
  · exact .cons rfl h
  · exact h

theorem blankless_of_readInteger? {t : Text} {i : Int} (h : readInteger? t = some i) :
    t.Blankless := by
  obtain ⟨_, hdigits, -⟩ := Option.map_eq_some_iff.1 h
  obtain ⟨n, hn, -⟩ := Option.bind_eq_some_iff.1 hdigits
  exact blankless_of_readSign (blankless_of_readDecimal? hn)

theorem blankless_of_readInt64? {t : Text} {i : Int64} (h : readInt64? t = some i) :
    t.Blankless := by
  obtain ⟨n, hn, -⟩ := Option.bind_eq_some_iff.1 h
  exact blankless_of_readInteger? hn

theorem blankless_of_readExponent? {t : Text} {e : Int} (h : readExponent? t = some e) :
    t.Blankless := by
  cases t with
  | nil => exact List.forall_mem_nil _
  | cons c rest =>
    simp only [readExponent?] at h
    split at h
    · next hc =>
      refine .cons ?_ (blankless_of_readInteger? h)
      rcases Bool.or_eq_true_iff.1 hc with hlower | hupper
      · rw [of_decide_eq_true hlower]
        rfl
      · rw [of_decide_eq_true hupper]
        rfl
    · cases h

theorem blankless_of_readMagnitude? {negative : Bool} {t : Text} {x : Binary64}
    (h : readMagnitude? negative t = some x) : t.Blankless := by
  refine .of_dropWhile ?_
  unfold readMagnitude? at h
  dsimp only at h
  split at h
  · next u hu =>
    rw [hu]
    refine .cons rfl (.of_dropWhile ?_)
    split at h
    · cases h
    · obtain ⟨e, he, -⟩ := Option.map_eq_some_iff.1 h
      exact blankless_of_readExponent? he
  · split at h
    · cases h
    · obtain ⟨e, he, -⟩ := Option.map_eq_some_iff.1 h
      exact blankless_of_readExponent? he

/-- A blank has no other case. -/
theorem toLower_of_isBlank {c : Char} (h : isBlank c = true) : c.toLower = c := by
  have hpoints : ∀ n ∈ blankPoints, ¬('A'.toNat ≤ n ∧ n ≤ 'Z'.toNat) := by decide +kernel
  exact dif_neg (hpoints c.toNat (toNat_mem_blankPoints h))

theorem blankless_of_map_toLower {t : Text} (h : Blankless (t.map Char.toLower)) :
    t.Blankless := by
  intro c hc
  rw [← Bool.not_eq_true]
  intro hblank
  have hlower := h c.toLower (List.mem_map_of_mem hc)
  rw [toLower_of_isBlank hblank, hblank] at hlower
  cases hlower

theorem blankless_of_readBinary64? {t : Text} {x : Binary64} (h : readBinary64? t = some x) :
    t.Blankless := by
  refine blankless_of_readSign ?_
  unfold readBinary64? at h
  dsimp only at h
  split at h
  · next hnan =>
    refine blankless_of_map_toLower ?_
    rw [hnan]
    decide
  · split at h
    · next hinf =>
      refine blankless_of_map_toLower ?_
      rcases Bool.or_eq_true_iff.1 hinf with hshort | hlong
      · rw [of_decide_eq_true hshort]
        decide
      · rw [of_decide_eq_true hlong]
        decide
    · exact blankless_of_readMagnitude? h

end PlainReport
