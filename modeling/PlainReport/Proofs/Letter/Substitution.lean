import PlainReport.Letter.Filling
import PlainReport.Proofs.Letter.Dividing
import PlainReport.Proofs.Number.Decimal

/-!
# Filling a letter is substitution

What is printed for a placeholder depends on the text before it, on its inside and on
the values only.  `Prints` says it case by case, and `prints_iff` that nothing else is
printed.

`fill_substitutes` reads the whole letter off this.  A letter written out of pieces
with number signs between them is printed piece by piece, and a piece placeholder by
placeholder, with the text after the last one.
-/

namespace PlainReport

/-! ## Endings -/

namespace Text

theorem dropEnding?_append (t ending : Text) : dropEnding? ending (t ++ ending) = some t := by
  simp [dropEnding?]

theorem dropEnding?_eq_some {ending t u : Text} (h : dropEnding? ending t = some u) :
    t = u ++ ending := by
  unfold dropEnding? at h
  split at h
  · next hs =>
    obtain ⟨v, rfl⟩ := List.isSuffixOf_iff_suffix.1 hs
    simp at h
    rw [h]
  · cases h

theorem dropEnding?_eq_none {ending t : Text} (h : ∀ u, t ≠ u ++ ending) :
    dropEnding? ending t = none := by
  cases hd : dropEnding? ending t with
  | none => rfl
  | some u => exact absurd (dropEnding?_eq_some hd) (h u)

end Text

namespace Filling

variable (f : Filling)

/-! ## A value with its unit -/

/-- The value consists of digits, and they stand for the number. -/
structure IsCount (value : Text) (n : Int64) : Prop where
  /-- There are digits. -/
  ne_nil : value ≠ []
  /-- There is nothing else. -/
  digits : ∀ c ∈ value, c.isDigit = true
  /-- They stand for the number, which so fits into 64 bits. -/
  number : (Nat.ofDigitChars 10 value 0 : Int) = n.toInt

theorem count?_eq_some_iff {value : Text} {n : Int64} :
    count? value = some n ↔ IsCount value n := by
  unfold count?
  constructor
  · intro h
    split at h
    · next hv =>
      simp only [Bool.and_eq_true, Bool.not_eq_true', List.isEmpty_eq_false_iff,
        List.all_eq_true] at hv
      have hread := readInteger?_of_digits hv.1 hv.2
      exact ⟨hv.1, hv.2, ((readInt64?_eq_some_iff hread n).1 h).symm⟩
    · cases h
  · rintro ⟨hne, hdigits, hnumber⟩
    have hread := readInteger?_of_digits hne hdigits
    simp only [List.isEmpty_eq_false_iff.2 hne, List.all_eq_true.2 hdigits, Bool.not_false,
      Bool.and_self, if_true]
    exact (readInt64?_eq_some_iff hread n).2 hnumber.symm

theorem count?_eq_none_iff {value : Text} : count? value = none ↔ ∀ n, ¬ IsCount value n := by
  simp only [← count?_eq_some_iff, Option.eq_none_iff_forall_ne_some, ne_eq]

/-- A value and a word after it, or the value alone if there is no word. -/
def followedBy (value word : Text) : Text := if word = [] then value else value ++ " " ++ word

/-- How a value is worded with a unit. -/
inductive Worded (value : Text) : Text → Text → Prop
  /-- Without a unit it stands alone. -/
  | alone : Worded value [] value
  /-- The unit is inflected for a value that is a number. -/
  | counted {unit : Text} {n : Int64} (hunit : unit ≠ []) (hcount : IsCount value n) :
      Worded value unit (followedBy value (f.inflect n unit))
  /-- The unit stays as it is after any other value. -/
  | uncounted {unit : Text} (hunit : unit ≠ []) (hcount : ∀ n, ¬ IsCount value n) :
      Worded value unit (value ++ " " ++ unit)

theorem worded_iff {value unit out : Text} :
    f.Worded value unit out ↔ followedBy value (f.unitAfter value unit) = out := by
  constructor
  · intro h
    cases h with
    | alone => rfl
    | counted hunit hcount => simp [unitAfter, hunit, count?_eq_some_iff.2 hcount]
    | uncounted hunit hcount =>
      simp [unitAfter, followedBy, hunit, count?_eq_none_iff.2 hcount]
  · rintro rfl
    by_cases hunit : unit = []
    · subst hunit
      exact .alone
    · cases hcount : count? value with
      | some n =>
        simp only [unitAfter, List.isEmpty_eq_false_iff.2 hunit, hcount, Option.map_some,
          Option.getD_some, Bool.false_eq_true, if_false]
        exact .counted hunit (count?_eq_some_iff.1 hcount)
      | none =>
        simp only [unitAfter, List.isEmpty_eq_false_iff.2 hunit, hcount, Option.map_none,
          Option.getD_none, Bool.false_eq_true, if_false, followedBy, if_neg hunit]
        exact .uncounted hunit (count?_eq_none_iff.1 hcount)

/-- A value is fitted as it is worded with its unit. -/
theorem place_eq (p : Placeholder) (value : Text) :
    f.place p value = p.alignment.fit (followedBy value (f.unitAfter value p.unit))
      (p.width.getD f.defaultWidth) := by
  simp only [place, followedBy, List.isEmpty_iff]

/-! ## A placeholder with the text before it -/

/-- What takes the place of a placeholder, and what is logged. -/
inductive Replaces (s : Span) : Text → List Event → Prop
  /-- It stays as it is when it cannot be read. -/
  | unread {fault : PlaceholderFault} (hread : Placeholder.read s.inner = .error fault) :
      Replaces s s.literal [⟨.warn, fault.message⟩]
  /-- It stays as it is when its name has no value. -/
  | missing {p : Placeholder} (hread : Placeholder.read s.inner = .ok p)
      (hvalue : Fields.value? f.fields p.name = none) :
      Replaces s s.literal [⟨.warn, "No value for name: " ++ p.name⟩]
  /-- The value of its name with its unit is fitted to its layout. -/
  | filled {p : Placeholder} {value worded : Text} (hread : Placeholder.read s.inner = .ok p)
      (hvalue : Fields.value? f.fields p.name = some value)
      (hworded : f.Worded value p.unit worded) :
      Replaces s (p.alignment.fit worded (p.width.getD f.defaultWidth)) []

/-- What is printed for a placeholder and the text before it, and what is logged. -/
inductive Prints (s : Span) : Logged Event Text → Prop
  /-- After two exclamation marks it stays as it is, and the marks are dropped. -/
  | escaped {before : Text} (h : s.before = before ++ "!!") : Prints s ⟨before ++ s.literal, []⟩
  /-- After any other text something takes its place. -/
  | replaced (h : ∀ before, s.before ≠ before ++ "!!") {t : Text} {events : List Event}
      (hreplaces : f.Replaces s t events) : Prints s ⟨s.before ++ t, events⟩

/-- What filling prints and logs for a placeholder and the text before it. -/
def printed (s : Span) : Logged Event Text :=
  ⟨(f.fillSpan s).result, (f.fillSpan s).notices.map FillingNotice.event⟩

theorem printed_of_append {s : Span} {before : Text} (h : s.before = before ++ "!!") :
    f.printed s = ⟨before ++ s.literal, []⟩ := by
  have hdrop : Text.dropEnding? "!!" s.before = some before := h ▸ Text.dropEnding?_append before _
  simp only [printed, fillSpan, hdrop, List.map_nil]

theorem printed_of_replaces {s : Span} (h : ∀ before, s.before ≠ before ++ "!!") {t : Text}
    {events : List Event} (hreplaces : f.Replaces s t events) :
    f.printed s = ⟨s.before ++ t, events⟩ := by
  have hdrop : Text.dropEnding? "!!" s.before = none := Text.dropEnding?_eq_none h
  cases hreplaces with
  | unread hread =>
    simp only [printed, fillSpan, hdrop, replacement, hread]
    rfl
  | missing hread hvalue =>
    simp only [printed, fillSpan, hdrop, replacement, hread, hvalue]
    rfl
  | filled hread hvalue hworded =>
    obtain rfl := f.worded_iff.1 hworded
    simp only [printed, fillSpan, hdrop, replacement, hread, hvalue, place_eq, List.map_nil]

/-- Something takes the place of every placeholder. -/
theorem exists_replaces (s : Span) : ∃ t events, f.Replaces s t events := by
  cases hread : Placeholder.read s.inner with
  | error fault => exact ⟨_, _, .unread hread⟩
  | ok p =>
    cases hvalue : Fields.value? f.fields p.name with
    | none => exact ⟨_, _, .missing hread hvalue⟩
    | some value => exact ⟨_, _, .filled hread hvalue (f.worded_iff.2 rfl)⟩

theorem prints_iff {s : Span} {out : Logged Event Text} : f.Prints s out ↔ f.printed s = out := by
  constructor
  · intro h
    cases h with
    | escaped h => exact f.printed_of_append h
    | replaced h hreplaces => exact f.printed_of_replaces h hreplaces
  · rintro rfl
    cases hdrop : Text.dropEnding? "!!" s.before with
    | some before =>
      have hbefore := Text.dropEnding?_eq_some hdrop
      rw [f.printed_of_append hbefore]
      exact .escaped hbefore
    | none =>
      have hbefore : ∀ before, s.before ≠ before ++ "!!" := by
        intro before h
        rw [h, Text.dropEnding?_append] at hdrop
        cases hdrop
      obtain ⟨t, events, hreplaces⟩ := f.exists_replaces s
      rw [f.printed_of_replaces hbefore hreplaces]
      exact .replaced hbefore hreplaces

/-! ## Whole letters -/

/-- The number signs between pieces are where a letter is cut, and the pieces are divided
at their placeholders. -/
theorem map_ofText_pieces {pieces : List Piece} (hne : pieces ≠ [])
    (hclear : ∀ p ∈ pieces, p.Unambiguous) (hsign : ∀ p ∈ pieces, '#' ∉ p.text) :
    (Text.pieces '#' (Text.join ['#'] (pieces.map Piece.text))).map Piece.ofText = pieces := by
  have hcut : Text.pieces '#' (Text.join ['#'] (pieces.map Piece.text)) =
      pieces.map Piece.text := by
    refine Text.pieces_join (mt List.map_eq_nil_iff.1 hne) ?_
    intro t ht
    obtain ⟨p, hp, rfl⟩ := List.mem_map.1 ht
    exact hsign p hp
  rw [hcut, List.map_map]
  conv_rhs => rw [← List.map_id pieces]
  exact List.map_congr_left fun p hp => Piece.ofText_of_unambiguous (hclear p hp)

/-- A letter is filled piece by piece. -/
theorem fill_join {pieces : List Piece} (hclear : ∀ p ∈ pieces, p.Unambiguous)
    (hsign : ∀ p ∈ pieces, '#' ∉ p.text) :
    f.fill (Text.join ['#'] (pieces.map Piece.text)) =
      ⟨pieces.flatMap fun p => (f.fillPiece p).result,
        pieces.flatMap fun p => (f.fillPiece p).notices⟩ := by
  by_cases hne : pieces = []
  · subst hne
    rfl
  · have hmap := map_ofText_pieces hne hclear hsign
    have hfill : (Text.pieces '#' (Text.join ['#'] (pieces.map Piece.text))).map
        (fun piece => f.fillPiece (Piece.ofText piece)) = pieces.map f.fillPiece := by
      conv_rhs => rw [← hmap, List.map_map]
      rfl
    rw [fill, hfill, List.flatMap_map, List.flatMap_map]

/-- Filling a letter replaces its placeholders one by one and prints all else as it is. -/
theorem fill_substitutes (pieces : List Piece) (hclear : ∀ p ∈ pieces, p.Unambiguous)
    (hsign : ∀ p ∈ pieces, '#' ∉ p.text) :
    let letter := Text.join ['#'] (pieces.map Piece.text)
    ∃ printed : Span → Logged Event Text,
      (∀ s out, f.Prints s out ↔ printed s = out) ∧
      (f.fill letter).result =
        pieces.flatMap (fun p => p.spans.flatMap (fun s => (printed s).result) ++ p.tail) ∧
      (f.fill letter).notices.map FillingNotice.event =
        pieces.flatMap fun p => p.spans.flatMap fun s => (printed s).notices := by
  intro letter
  have hfill : f.fill letter = _ := f.fill_join hclear hsign
  refine ⟨f.printed, fun s out => f.prints_iff, ?_, ?_⟩
  · rw [hfill]
    simp only [fillPiece, List.flatMap_map]
    rfl
  · rw [hfill]
    simp only [fillPiece, List.flatMap_map, List.map_flatMap]
    rfl

/-- A letter with a kept placeholder, two that touch, one behind a brace, one that cannot
be read, one without a value and one with a value of too many digits. -/
theorem fill_substitutes_of_braces :
    let f : Filling := {
      fields := Keyed.ofList [⟨"NAME", "al\nex"⟩, ⟨"SUM", "012"⟩, ⟨"BIG", "99999999999999999999"⟩]
      defaultWidth := 6
      inflect := fun n word => if n = 12 then word ++ "s" else [] }
    let pieces : List Piece := [
      ⟨[⟨"a !!", "name"⟩, ⟨[], "sum|9-l-mile"⟩, ⟨"\x7d", "name"⟩], " \x7b"⟩,
      ⟨[⟨[], "\x7bname"⟩, ⟨" ! ", "big|22-r-x"⟩, ⟨"!", "who"⟩], []⟩]
    let letter := Text.join ['#'] (pieces.map Piece.text)
    (∀ p ∈ pieces, p.Unambiguous) ∧ (∀ p ∈ pieces, '#' ∉ p.text) ∧
      (f.fill letter).result = "a \x7b\x7bname\x7d\x7d012 miles\x7d  al  \n  ex   \x7b" ++
        "\x7b\x7b\x7bname\x7d\x7d ! 99999999999999999999 x!\x7b\x7bwho\x7d\x7d" ∧
      (f.fill letter).notices.map FillingNotice.event =
        [⟨.warn, "Placeholder without a name: \x7b\x7b\x7bname\x7d\x7d"⟩,
          ⟨.warn, "No value for name: WHO"⟩] := by
  intro f pieces letter
  have hclear : ∀ p ∈ pieces, p.Unambiguous := by
    have hspans : ∀ p ∈ pieces,
        (∀ s ∈ p.spans, ¬ Piece.opening <:+: s.before ∧ ¬ ['\x7b'] <:+ s.before) ∧
          (∀ s ∈ p.spans, ¬ Piece.closing <:+: s.inner ∧ ¬ ['\x7d'] <:+ s.inner) ∧
            ¬ Piece.opening <:+: p.tail := by decide
    intro p hp
    obtain ⟨hbefore, hinner, htail⟩ := hspans p hp
    exact ⟨hbefore, hinner, htail⟩
  have hsign : ∀ p ∈ pieces, '#' ∉ p.text := by decide
  obtain ⟨printed, hprinted, hresult, hnotices⟩ := fill_substitutes f pieces hclear hsign
  have hsame : printed = f.printed := funext fun s => (hprinted s _).1 (f.prints_iff.2 rfl)
  subst hsame
  exact ⟨hclear, hsign, hresult.trans (by decide +kernel), hnotices.trans (by decide +kernel)⟩

end Filling

end PlainReport
