import PlainReport.Proofs.Letter.Bars

/-!
# Omitted parts of a layout

A layout may be written with any of its parts left out, each part after a hyphen of its
own, with any blanks around the hyphens.  It is then read with exactly the parts that are
given, in the definition of a column and in a placeholder
(`WrittenLayout.read_iff_unambiguous`).

There are two exceptions, and no others (`WrittenLayout.Unambiguous`): a unit that begins
with the lone letter of an alignment is taken for one where the alignment is left out, and
a unit that begins with a digit is taken for a width where both are.

Reading steps over a hyphen before each part whether the part is given or not.  So after
each of these steps the rest is the text from the next given part on, without its hyphen
(`WrittenLayout.fromWidth`, `WrittenLayout.fromLetter`, and last the unit), and stepping
over a hyphen once more changes nothing there.
-/

namespace PlainReport

open Text

/-! ## Hyphens -/

/-- A hyphen among blanks. -/
structure Hyphen where
  /-- The blanks before it. -/
  before : Text
  /-- The blanks after it. -/
  after : Text
  /-- They are blank. -/
  before_blank : ∀ c ∈ before, isBlank c = true
  /-- They are blank. -/
  after_blank : ∀ c ∈ after, isBlank c = true

namespace Hyphen

/-- The hyphen with its blanks. -/
def text (h : Hyphen) : Text := h.before ++ '-' :: h.after

/-- A text that begins with a hyphen does not go on in a class without hyphens and blanks. -/
theorem stops (h : Hyphen) {p : Char → Bool} (hblank : ∀ c, isBlank c = true → p c = false)
    (hhyphen : p '-' = false) (u : Text) : Stops p (h.text ++ u) := by
  have hbefore := stops_of_forall fun c hc => hblank c (h.before_blank c hc)
  rw [text, List.append_assoc]
  exact hbefore.append (stops_cons hhyphen _)

theorem skipHyphen_append (h : Hyphen) {u : Text} (hu : Stops isBlank u) (n : Nat) :
    ∃ m, Layout.skipHyphen ⟨h.text ++ u, n⟩ = ⟨u, m⟩ := by
  have hhyphen : Stops isBlank ('-' :: (h.after ++ u)) := stops_cons (by decide) _
  rw [Layout.skipHyphen, text, List.append_assoc, List.cons_append,
    Cursor.skipBlanks_append h.before_blank hhyphen, Cursor.eat?_cons]
  exact ⟨_, Cursor.skipBlanks_append h.after_blank hu _⟩

end Hyphen

/-- The text is empty or begins with a word character. -/
def Text.StartsInWord (t : Text) : Prop := ∀ c ∈ t.head?, isWordChar c = true

/-- There is no hyphen to step over. -/
theorem Text.StartsInWord.skipHyphen_eq {t : Text} (h : t.StartsInWord) (n : Nat) :
    Layout.skipHyphen ⟨t, n⟩ = ⟨t, n⟩ := by
  have hblank : Stops isBlank t := fun c hc => isBlank_of_isWordChar (h c hc)
  have hnone : (Cursor.mk t n).eat? '-' = none := by
    cases t with
    | nil => rfl
    | cons c t =>
      have hc : c ≠ '-' := by
        rintro rfl
        exact absurd (h '-' rfl) (by decide +kernel)
      exact if_neg hc
  rw [Layout.skipHyphen, Cursor.skipBlanks_of_stops hblank, hnone]
  exact Cursor.skipBlanks_of_stops hblank n

/-! ## Written layouts -/

/-- What is written as a unit. -/
def UnitSyntax.IsUnit : UnitSyntax → Text → Prop
  | .word, t => t ≠ [] ∧ ∀ c ∈ t, isWordChar c = true
  | .phrase, t => t.head?.any isWordChar = true ∧ (∀ c ∈ t, isNameChar c = true) ∧ EndsSolid t

/-- A layout as it is written: some of its parts, each with the hyphen before it. -/
structure WrittenLayout (form : UnitSyntax) where
  /-- The width. -/
  width : Option (Hyphen × Nat)
  /-- The letter of the alignment. -/
  letter : Option (Hyphen × Char)
  /-- The unit. -/
  unit : Option (Hyphen × Text)
  /-- The width is positive. -/
  width_pos : ∀ p ∈ width, 0 < p.2
  /-- The width fits into 64 bits. -/
  width_lt : ∀ p ∈ width, p.2 < wordLimit
  /-- The letter is that of an alignment. -/
  letter_isSome : ∀ p ∈ letter, (Alignment.ofLetter? p.2).isSome = true
  /-- The unit is one of the form. -/
  isUnit : ∀ p ∈ unit, form.IsUnit p.2

/-- A unit begins with a word character. -/
theorem UnitSyntax.IsUnit.exists_cons {form : UnitSyntax} {t : Text} (h : form.IsUnit t) :
    ∃ c u, t = c :: u ∧ isWordChar c = true := by
  cases form with
  | word =>
    obtain ⟨c, u, rfl⟩ := List.exists_cons_of_ne_nil h.1
    exact ⟨c, u, rfl, h.2 c List.mem_cons_self⟩
  | phrase =>
    cases t with
    | nil => exact absurd h.1 Bool.false_ne_true
    | cons c u => exact ⟨c, u, rfl, h.1⟩

namespace WrittenLayout

/-- A part as written, if it is given. -/
def part {α : Type} (write : α → Text) (given : Option (Hyphen × α)) : Text :=
  given.elim [] fun p => p.1.text ++ write p.2

variable {form : UnitSyntax} (w : WrittenLayout form)

/-- The parts one after the other. -/
def text : Text := part decimal w.width ++ (part ([·]) w.letter ++ part id w.unit)

/-- The parts that are given. -/
def layout : Layout :=
  ⟨w.width.map (·.2), w.letter.bind (Alignment.ofLetter? ·.2), w.unit.elim [] (·.2)⟩

/-- The text begins with the letter of an alignment, and no word goes on after it. -/
def LoneLetter (t : Text) : Prop :=
  ∃ c u, t = c :: u ∧ (Alignment.ofLetter? c).isSome = true ∧ Stops isWordChar u

/-- The unit is taken for no other part. -/
structure Unambiguous : Prop where
  /-- Where the alignment is left out, the unit does not begin with a lone letter of one. -/
  letter : w.letter = none → ¬ LoneLetter w.layout.unit
  /-- Where the width is left out as well, it does not begin with a digit. -/
  digit : w.width = none → w.letter = none → Stops Char.isDigit w.layout.unit

/-! ## Without the first hyphen -/

/-- The text from the letter on, or from the unit on if there is no letter. -/
def fromLetter : Text := w.letter.elim w.layout.unit fun p => [p.2] ++ part id w.unit

/-- The text from the first part on. -/
def fromWidth : Text :=
  w.width.elim w.fromLetter fun p => decimal p.2 ++ (part ([·]) w.letter ++ part id w.unit)

/-- Stepping over a hyphen leads to the first part that is given. -/
theorem skipHyphen_part {α : Type} {write : α → Text} {given : Option (Hyphen × α)}
    (hwrite : ∀ p ∈ given, BeginsSolid (write p.2)) {rest bare : Text}
    (hrest : ∀ n, ∃ m, Layout.skipHyphen ⟨rest, n⟩ = ⟨bare, m⟩) (n : Nat) :
    ∃ m, Layout.skipHyphen ⟨part write given ++ rest, n⟩ =
      ⟨given.elim bare fun p => write p.2 ++ rest, m⟩ := by
  cases given with
  | none => exact hrest n
  | some p =>
    have hstops := ((hwrite p rfl).append rest).stops
    rw [part, Option.elim_some, List.append_assoc]
    exact p.1.skipHyphen_append hstops n

theorem stops_part {α : Type} (write : α → Text) (given : Option (Hyphen × α)) {p : Char → Bool}
    (hblank : ∀ c, isBlank c = true → p c = false) (hhyphen : p '-' = false) :
    Stops p (part write given) := by
  cases given with
  | none => exact stops_nil p
  | some q => exact q.1.stops hblank hhyphen (write q.2)

theorem startsInWord_unit : w.layout.unit.StartsInWord := by
  cases hunit : w.unit with
  | none =>
    rw [layout, hunit]
    exact nofun
  | some p =>
    obtain ⟨c, u, hp, hc⟩ := (w.isUnit p hunit).exists_cons
    rw [layout, hunit, Option.elim_some, hp]
    intro d hd
    cases hd
    exact hc

theorem exists_alignment {p : Hyphen × Char} (h : w.letter = some p) :
    ∃ a, Alignment.ofLetter? p.2 = some a :=
  Option.isSome_iff_exists.1 (w.letter_isSome p h)

theorem startsInWord_fromLetter : w.fromLetter.StartsInWord := by
  cases hletter : w.letter with
  | none =>
    rw [fromLetter, hletter]
    exact w.startsInWord_unit
  | some p =>
    obtain ⟨a, ha⟩ := w.exists_alignment hletter
    rw [fromLetter, hletter]
    intro c hc
    cases hc
    exact Alignment.isWordChar_of_ofLetter? ha

theorem skipHyphen_unit (n : Nat) :
    ∃ m, Layout.skipHyphen ⟨part id w.unit, n⟩ = ⟨w.layout.unit, m⟩ := by
  have hbegins : ∀ p ∈ w.unit, BeginsSolid (id p.2) := by
    intro p hp
    obtain ⟨c, u, hcons, hc⟩ := (w.isUnit p hp).exists_cons
    exact ⟨c, u, hcons, isBlank_of_isWordChar hc⟩
  have h := skipHyphen_part hbegins (fun n => ⟨n, Layout.skipHyphen_nil n⟩) n
  simp only [List.append_nil] at h
  exact h

theorem skipHyphen_letter (n : Nat) : ∃ m,
    Layout.skipHyphen ⟨part ([·]) w.letter ++ part id w.unit, n⟩ = ⟨w.fromLetter, m⟩ := by
  refine skipHyphen_part (fun p hp => ?_) w.skipHyphen_unit n
  obtain ⟨a, ha⟩ := w.exists_alignment hp
  exact ⟨p.2, [], rfl, isBlank_of_isWordChar (Alignment.isWordChar_of_ofLetter? ha)⟩

theorem skipHyphen_text (n : Nat) :
    ∃ m, Layout.skipHyphen ⟨w.text, n⟩ = ⟨w.fromWidth, m⟩ := by
  refine skipHyphen_part (fun p _ => ?_) w.skipHyphen_letter n
  exact beginsSolid_of_forall (decimal_ne_nil p.2) fun _ hc =>
    isBlank_of_isDigit (isDigit_of_mem_decimal hc)

/-! ## Reading the parts -/

theorem readWidth_of_stops {t : Text} (h : Stops Char.isDigit t) (n : Nat) :
    Layout.readWidth ⟨t, n⟩ = .ok (none, ⟨t, n⟩) := by
  have hnone := Cursor.takeWhile_append (t := []) (List.forall_mem_nil _) h n
  rw [List.nil_append] at hnone
  rw [Layout.readWidth, hnone]
  rfl

theorem readWidth_fromWidth (hdigit : w.width = none → Stops Char.isDigit w.fromLetter) (n : Nat) :
    ∃ c m, Layout.readWidth ⟨w.fromWidth, n⟩ = .ok (w.layout.width, c) ∧
      Layout.skipHyphen c = ⟨w.fromLetter, m⟩ := by
  cases hwidth : w.width with
  | none =>
    rw [fromWidth, layout, hwidth, Option.elim_none, readWidth_of_stops (hdigit hwidth)]
    exact ⟨_, n, rfl, w.startsInWord_fromLetter.skipHyphen_eq n⟩
  | some p =>
    have hblank : ∀ c, isBlank c = true → c.isDigit = false := fun c hc =>
      eq_false_of_class isWordChar_of_isDigit (isWordChar_of_isBlank hc)
    have hafter : Stops Char.isDigit (part ([·]) w.letter ++ part id w.unit) :=
      (stops_part _ _ hblank (by decide)).append (stops_part _ _ hblank (by decide))
    obtain ⟨m, hm⟩ := w.skipHyphen_letter (n + byteSize (decimal p.2))
    rw [fromWidth, layout, hwidth, Option.elim_some,
      Layout.readWidth_append (w.width_pos p hwidth) (w.width_lt p hwidth) hafter]
    exact ⟨_, m, rfl, hm⟩

theorem readAlignment_of_not_loneLetter {t : Text} (h : ¬ LoneLetter t) (n : Nat) :
    Layout.readAlignment ⟨t, n⟩ = (none, ⟨t, n⟩) := by
  cases t with
  | nil => rfl
  | cons c u =>
    have hfirst : (Cursor.mk (c :: u) n).peek? = some c := rfl
    rw [Layout.readAlignment, hfirst]
    split
    · rfl
    · next hsecond =>
      cases hc : Alignment.ofLetter? c with
      | none => simp only [hc]
      | some a =>
        rw [Bool.not_eq_true] at hsecond
        exact absurd ⟨c, u, rfl, by rw [hc]; rfl, stops_iff.2 hsecond⟩ h

theorem readAlignment_fromLetter (hletter : w.letter = none → ¬ LoneLetter w.layout.unit)
    (n : Nat) : ∃ c m, Layout.readAlignment ⟨w.fromLetter, n⟩ = (w.layout.alignment, c) ∧
      Layout.skipHyphen c = ⟨w.layout.unit, m⟩ := by
  cases hgiven : w.letter with
  | none =>
    have hread := readAlignment_of_not_loneLetter (hletter hgiven) n
    refine ⟨⟨w.layout.unit, n⟩, n, ?_, w.startsInWord_unit.skipHyphen_eq n⟩
    rw [fromLetter, hgiven, Option.elim_none, hread, layout, hgiven]
    rfl
  | some p =>
    obtain ⟨a, ha⟩ := w.exists_alignment hgiven
    have hafter : Stops isWordChar (part id w.unit) :=
      stops_part _ _ (fun _ => isWordChar_of_isBlank) (by decide +kernel)
    obtain ⟨m, hm⟩ := w.skipHyphen_unit (n + p.2.utf8Size)
    refine ⟨_, m, ?_, hm⟩
    rw [fromLetter, layout, hgiven, Option.elim_some, Option.bind_some, ha]
    exact Layout.readAlignment_cons ha hafter n

theorem readUnit_unit (n : Nat) :
    ∃ m, Layout.readUnit form ⟨w.layout.unit, n⟩ = (w.layout.unit, ⟨[], m⟩) := by
  cases hunit : w.unit with
  | none =>
    rw [layout, hunit]
    exact ⟨n, rfl⟩
  | some p =>
    rw [layout, hunit, Option.elim_some]
    have hp := w.isUnit p hunit
    cases form with
    | word => exact ⟨_, Layout.readUnit_word hp.2 n⟩
    | phrase =>
      obtain ⟨hbegins, hchars, hends⟩ := hp
      refine ⟨n + byteSize p.2, ?_⟩
      have hfirst : (Cursor.mk p.2 n).peek?.any isWordChar = true := hbegins
      rw [Layout.readUnit, if_pos hfirst]
      simp only [Cursor.takeWhile_all hchars, trimEnd_of_endsSolid hends]

/-- A written layout is read with the parts that are given, if its unit is taken for no other
part. -/
theorem read_text_of_unambiguous (h : w.Unambiguous) (n : Nat) :
    ∃ m, Layout.read form ⟨w.text, n⟩ = .ok (w.layout, ⟨[], m⟩) := by
  have hdigit : w.width = none → Stops Char.isDigit w.fromLetter := by
    intro hwidth
    cases hletter : w.letter with
    | none =>
      rw [fromLetter, hletter]
      exact h.digit hwidth hletter
    | some p =>
      obtain ⟨a, ha⟩ := w.exists_alignment hletter
      rw [fromLetter, hletter]
      exact stops_cons (Alignment.isDigit_of_ofLetter? ha) _
  obtain ⟨k, htext⟩ := w.skipHyphen_text n
  obtain ⟨c, i, hwidth, hfromLetter⟩ := w.readWidth_fromWidth hdigit k
  obtain ⟨d, j, halignment, hfromUnit⟩ := w.readAlignment_fromLetter h.letter i
  obtain ⟨m, hunit⟩ := w.readUnit_unit j
  refine ⟨m, Layout.read_eq_ok_iff.2 ⟨w.layout.width, c, ?_, ?_, ?_⟩⟩
  · rw [htext, hwidth]
  · rw [hfromLetter, halignment, hfromUnit, hunit]
  · rw [hfromLetter, halignment, hfromUnit, hunit]
    rfl

/-! ## What is taken for another part -/

/-- A unit that is read is no longer than the text it is read from. -/
theorem length_readUnit_le (form : UnitSyntax) (c : Cursor) :
    (Layout.readUnit form c).1.length ≤ c.rest.length := by
  have htake (p : Char → Bool) : (c.takeWhile p).1.length ≤ c.rest.length :=
    (List.takeWhile_sublist p).length_le
  unfold Layout.readUnit
  split
  · cases form with
    | word => exact htake isWordChar
    | phrase => exact (length_trimEnd_le _).trans (htake isNameChar)
  · exact Nat.zero_le _

/-- A written layout whose unit is read unchanged has a unit that is taken for no other
part. -/
theorem unambiguous_of_read {n : Nat} {layout : Layout} {rest : Cursor}
    (h : Layout.read form ⟨w.text, n⟩ = .ok (layout, rest)) (hunit : layout.unit = w.layout.unit) :
    w.Unambiguous := by
  obtain ⟨width, d, hwidth, rfl, -⟩ := Layout.read_eq_ok_iff.1 h
  obtain ⟨k, htext⟩ := w.skipHyphen_text n
  rw [htext] at hwidth
  -- a unit that is read is no longer than what is left for it
  have hlength := congrArg List.length hunit
  have hle := (length_readUnit_le form _).trans
    (Layout.passes_skipHyphen (Layout.readAlignment (Layout.skipHyphen d)).2).length_le
  constructor
  · intro hletter hlone
    obtain ⟨c, u, hcons, hc, hstops⟩ := hlone
    obtain ⟨a, ha⟩ := Option.isSome_iff_exists.1 hc
    have hfrom : w.fromLetter = c :: u := by
      rw [fromLetter, hletter]
      exact hcons
    have hdigit : Stops Char.isDigit w.fromLetter := by
      rw [hfrom]
      exact stops_cons (Alignment.isDigit_of_ofLetter? ha) u
    obtain ⟨e, i, hwidth', hskip⟩ := w.readWidth_fromWidth (fun _ => hdigit) k
    rw [hwidth'] at hwidth
    cases hwidth
    rw [hskip, hfrom, Layout.readAlignment_cons ha hstops] at hle hlength
    rw [hcons, List.length_cons] at hlength
    dsimp only at hle hlength
    omega
  · intro hnone hletter
    have hfrom : w.fromWidth = w.layout.unit := by
      rw [fromWidth, hnone, Option.elim_none, fromLetter, hletter, Option.elim_none]
    by_contra hdigit
    rw [stops_iff, Bool.not_eq_false] at hdigit
    have hrest : d.rest = w.layout.unit.dropWhile Char.isDigit := by
      rw [Layout.eq_of_readWidth hwidth, hfrom]
      rfl
    cases hunit' : w.layout.unit with
    | nil =>
      rw [hunit'] at hdigit
      cases hdigit
    | cons c u =>
      rw [hunit'] at hdigit hrest hlength
      have hc : c.isDigit = true := hdigit
      have hshort : d.rest.length ≤ u.length := by
        rw [hrest, List.dropWhile_cons_of_pos hc]
        exact List.length_dropWhile_le Char.isDigit u
      have hd := ((Layout.passes_skipHyphen d).trans (Layout.passes_readAlignment _)).length_le
      rw [List.length_cons] at hlength
      dsimp only at hle hlength
      omega

/-! ## Columns and placeholders -/

theorem nil_or_endsSolid_append {t u : Text} (ht : t = [] ∨ EndsSolid t)
    (hu : u = [] ∨ EndsSolid u) : t ++ u = [] ∨ EndsSolid (t ++ u) := by
  rcases hu with rfl | hu
  · rwa [List.append_nil]
  · exact .inr (hu.append_left t)

theorem nil_or_endsSolid_part {α : Type} {write : α → Text} {given : Option (Hyphen × α)}
    (h : ∀ p ∈ given, EndsSolid (write p.2)) :
    part write given = [] ∨ EndsSolid (part write given) := by
  cases given with
  | none => exact .inl rfl
  | some p => exact .inr ((h p rfl).append_left p.1.text)

theorem endsSolid_of_isUnit {t : Text} (h : form.IsUnit t) : EndsSolid t := by
  cases form with
  | word => exact endsSolid_of_forall h.1 fun c hc => isBlank_of_isWordChar (h.2 c hc)
  | phrase => exact h.2.2

/-- A written layout ends in no blank. -/
theorem nil_or_endsSolid_text : w.text = [] ∨ EndsSolid w.text := by
  refine nil_or_endsSolid_append (nil_or_endsSolid_part fun p _ => ?_)
    (nil_or_endsSolid_append (nil_or_endsSolid_part fun p hp => ?_)
      (nil_or_endsSolid_part fun p hp => endsSolid_of_isUnit (w.isUnit p hp)))
  · exact endsSolid_of_forall (decimal_ne_nil p.2) fun _ hc =>
      isBlank_of_isDigit (isDigit_of_mem_decimal hc)
  · obtain ⟨a, ha⟩ := w.exists_alignment hp
    exact ⟨[], p.2, rfl, isBlank_of_isWordChar (Alignment.isWordChar_of_ofLetter? ha)⟩

theorem stops_text : Stops isWordChar w.text := by
  have hpart {α : Type} (write : α → Text) (given : Option (Hyphen × α)) :
      Stops isWordChar (part write given) :=
    stops_part write given (fun _ => isWordChar_of_isBlank) (by decide +kernel)
  exact (hpart _ _).append ((hpart _ _).append (hpart _ _))

/-- In what is read of a written layout, the unit tells whether it was taken for no other
part. -/
theorem exists_read_iff {α : Type} (value : Layout → α)
    (hvalue : ∀ l l', value l = value l' → l.unit = l'.unit) (n : Nat) :
    (∃ layout rest, Layout.read form ⟨w.text, n⟩ = .ok (layout, rest) ∧ rest.atEnd = true ∧
      value w.layout = value layout) ↔ w.Unambiguous := by
  constructor
  · intro h
    obtain ⟨layout, rest, hread, -, hsame⟩ := h
    exact w.unambiguous_of_read hread (hvalue _ _ hsame).symm
  · intro h
    obtain ⟨m, hread⟩ := w.read_text_of_unambiguous h n
    exact ⟨w.layout, _, hread, rfl, rfl⟩

/-- A column and a placeholder with a written layout are read with the parts that are given,
and with the default width, the center and no unit for the others, if and only if the unit is
taken for no other part. -/
theorem read_iff_unambiguous {name word : Text} {type : DataType}
    (hchars : ∀ c ∈ name, isNameChar c = true) (hsolid : isAllBlank name = false)
    (hword : DataType.ofKeyword? word = some type) (defaultWidth : Nat)
    (w : WrittenLayout .word) (v : WrittenLayout .phrase) :
    (Column.read (name ++ '|' :: (word ++ w.text)) defaultWidth =
        .ok ⟨toUpper (trim name), type, w.layout.width.getD defaultWidth,
          w.layout.alignment.getD .center, w.layout.unit⟩ ↔ w.Unambiguous) ∧
      (Placeholder.read (name ++ '|' :: v.text) =
        .ok ⟨toUpper (trim name), v.layout.width, v.layout.alignment.getD .center,
          v.layout.unit⟩ ↔ v.Unambiguous) := by
  constructor
  · obtain ⟨n, hread⟩ := Column.read_bar hchars hsolid (word ++ w.text) defaultWidth
    have hends : EndsSolid (word ++ w.text) := by
      rcases w.nil_or_endsSolid_text with hnil | htext
      · rw [hnil, List.append_nil]
        exact (DataType.solid_of_ofKeyword? hword).2
      · exact htext.append_left word
    let value (l : Layout) : Column := ⟨toUpper (trim name), type, l.width.getD defaultWidth,
      l.alignment.getD .center, l.unit⟩
    rw [hread, trimEnd_of_endsSolid hends, Column.readFormat_word_iff hword w.stops_text]
    exact w.exists_read_iff value (fun _ _ h => congrArg Column.unit h) _
  · obtain ⟨n, hread⟩ := Placeholder.read_bar hchars hsolid v.text
    let value (l : Layout) : Placeholder :=
      ⟨toUpper (trim name), l.width, l.alignment.getD .center, l.unit⟩
    rw [hread, Placeholder.readLayout_eq_ok_iff]
    exact v.exists_read_iff value (fun _ _ h => congrArg Placeholder.unit h) _

/-- A column without a width, with the Cyrillic letter and a unit that begins with a digit, and
a placeholder without an alignment, with the greatest width and a unit that begins with a
letter of an alignment which a word goes on after. -/
theorem read_iff_unambiguous_of_borders :
    let name : Text := " net, x "
    (∀ c ∈ name, isNameChar c = true) ∧ isAllBlank name = false ∧
      DataType.ofKeyword? "Float" = some .float ∧
      ∃ (w : WrittenLayout .word) (v : WrittenLayout .phrase),
        w.text = " \t-\nс-7кг" ∧ w.layout = ⟨none, some .center, "7кг"⟩ ∧ w.Unambiguous ∧
        v.text = "-18446744073709551615 \t-\ncm - l, r" ∧
        v.layout = ⟨some 18446744073709551615, none, "cm - l, r"⟩ ∧ v.Unambiguous ∧
        (Column.read (name ++ '|' :: ("Float" ++ w.text)) 5 =
          .ok ⟨toUpper (trim name), .float, w.layout.width.getD 5,
            w.layout.alignment.getD .center, w.layout.unit⟩ ↔ w.Unambiguous) ∧
        (Placeholder.read (name ++ '|' :: v.text) =
          .ok ⟨toUpper (trim name), v.layout.width, v.layout.alignment.getD .center,
            v.layout.unit⟩ ↔ v.Unambiguous) := by
  intro name
  have hchars : ∀ c ∈ name, isNameChar c = true := List.all_eq_true.1 (by decide +kernel)
  have hsolid : isAllBlank name = false := by decide +kernel
  have hword : DataType.ofKeyword? "Float" = some .float := by decide +kernel
  let hyphen : Hyphen :=
    ⟨" \t", "\n", List.all_eq_true.1 (by decide), List.all_eq_true.1 (by decide)⟩
  let bare : Hyphen := ⟨[], [], List.forall_mem_nil _, List.forall_mem_nil _⟩
  let w : WrittenLayout .word :=
    { width := none
      letter := some (hyphen, 'с')
      unit := some (bare, "7кг")
      width_pos := fun _ hp => by cases hp
      width_lt := fun _ hp => by cases hp
      letter_isSome := fun _ hp => by cases hp; rfl
      isUnit := fun _ hp => by
        cases hp
        exact ⟨by decide, List.all_eq_true.1 (by decide +kernel)⟩ }
  let v : WrittenLayout .phrase :=
    { width := some (bare, 18446744073709551615)
      letter := none
      unit := some (hyphen, "cm - l, r")
      width_pos := fun _ hp => by cases hp; decide
      width_lt := fun _ hp => by cases hp; decide
      letter_isSome := fun _ hp => by cases hp
      isUnit := fun _ hp => by
        cases hp
        exact ⟨by decide +kernel, List.all_eq_true.1 (by decide +kernel),
          ⟨"cm - l, ", 'r', rfl, by decide⟩⟩ }
  have hw : w.Unambiguous := by
    refine ⟨fun h => ?_, fun _ h => ?_⟩
    · cases h
    · cases h
  have hv : v.Unambiguous := by
    refine ⟨fun _ hlone => ?_, fun h => by cases h⟩
    obtain ⟨c, u, hcons, -, hstops⟩ := hlone
    cases hcons
    exact absurd (hstops 'm' rfl) (by decide +kernel)
  exact ⟨hchars, hsolid, hword, w, v, by decide +kernel, by decide +kernel, hw,
    by decide +kernel, by decide +kernel, hv, read_iff_unambiguous hchars hsolid hword 5 w v⟩

end WrittenLayout

end PlainReport
