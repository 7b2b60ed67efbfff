import PlainReport.Pattern.Layout
import PlainReport.Proofs.Number.Decimal
import PlainReport.Proofs.Text.Scanning

/-!
# Layouts as text

A layout is written as its width, its alignment and its unit with a hyphen before
each.  Reading takes the parts one after the other (`readWidth_append`,
`readAlignment_append`, `readUnit_word`), and so gives the layout back
(`read_text`).
-/

namespace PlainReport.Layout

open Text

/-- A unit as written: nothing, or a hyphen and the unit. -/
def unitText : Text → Text
  | [] => []
  | unit => '-' :: unit

/-- A layout with all its parts as written. -/
def text (width : Nat) (alignment : Alignment) (unit : Text) : Text :=
  '-' :: (decimal width ++ '-' :: (alignment.keyword ++ unitText unit))

/-- The text of a layout is made of the characters of names. -/
theorem isNameChar_of_mem_text {width : Nat} {a : Alignment} {unit : Text}
    (hunit : ∀ c ∈ unit, isWordChar c = true) {c : Char} (h : c ∈ text width a unit) :
    isNameChar c = true := by
  have hhyphen : isNameChar '-' = true := by decide +kernel
  have hletter : isNameChar a.letter = true := by
    cases a with
    | left => decide +kernel
    | center => decide +kernel
    | right => decide +kernel
  have hword : c ∈ unitText unit → isNameChar c = true := by
    intro hc
    cases unit with
    | nil => cases hc
    | cons x unit =>
      cases List.mem_cons.1 hc with
      | inl he => exact he ▸ hhyphen
      | inr hm => exact isNameChar_of_isWordChar (hunit c hm)
  rw [text, List.mem_cons, List.mem_append, List.mem_cons, List.mem_append] at h
  rcases h with rfl | hdigit | rfl | hkeyword | hu
  · exact hhyphen
  · exact isNameChar_of_isWordChar (isWordChar_of_isDigit (isDigit_of_mem_decimal hdigit))
  · exact hhyphen
  · exact List.mem_singleton.1 hkeyword ▸ hletter
  · exact hword hu

/-! ## The parts -/

theorem skipHyphen_nil (n : Nat) : skipHyphen ⟨[], n⟩ = ⟨[], n⟩ := rfl

theorem skipHyphen_cons {u : Text} (hu : Stops isBlank u) (n : Nat) :
    skipHyphen ⟨'-' :: u, n⟩ = ⟨u, n + 1⟩ := by
  have hstop : Stops isBlank ('-' :: u) := stops_cons (by decide) u
  rw [skipHyphen, Cursor.skipBlanks_of_stops hstop, Cursor.eat?_cons]
  exact Cursor.skipBlanks_of_stops hu (n + 1)

theorem readWidth_append {width : Nat} (hpos : 0 < width) (hlt : width < wordLimit) {u : Text}
    (hu : Stops Char.isDigit u) (n : Nat) :
    readWidth ⟨decimal width ++ u, n⟩ = .ok (some width, ⟨u, n + byteSize (decimal width)⟩) := by
  rw [readWidth, Cursor.takeWhile_append (fun _ => isDigit_of_mem_decimal) hu]
  simp only [readDecimal?_decimal]
  rw [if_neg (Nat.not_le.2 hlt), if_neg (Nat.ne_of_gt hpos)]

theorem ofLetter?_letter (a : Alignment) : Alignment.ofLetter? a.letter = some a := by
  cases a with
  | left => rfl
  | center => rfl
  | right => rfl

/-- A letter of an alignment is taken if no word goes on after it. -/
theorem readAlignment_cons {x : Char} {a : Alignment} (hx : Alignment.ofLetter? x = some a)
    {u : Text} (hu : Stops isWordChar u) (n : Nat) :
    readAlignment ⟨x :: u, n⟩ = (some a, ⟨u, n + x.utf8Size⟩) := by
  have hsecond : (Cursor.mk (x :: u) n).peekSecond?.any isWordChar = false := stops_iff.1 hu
  have hfirst : (Cursor.mk (x :: u) n).peek? = some x := rfl
  simp only [readAlignment, hsecond, hfirst, hx, Cursor.eat?_cons]
  rfl

theorem readAlignment_append (a : Alignment) {u : Text} (hu : Stops isWordChar u) (n : Nat) :
    readAlignment ⟨a.keyword ++ u, n⟩ = (some a, ⟨u, n + a.letter.utf8Size⟩) :=
  readAlignment_cons (ofLetter?_letter a) hu n

theorem readUnit_word {unit : Text} (h : ∀ c ∈ unit, isWordChar c = true) (n : Nat) :
    readUnit .word ⟨unit, n⟩ = (unit, ⟨[], n + byteSize unit⟩) := by
  cases unit with
  | nil => rfl
  | cons c unit =>
    have hc : (Cursor.mk (c :: unit) n).peek?.any isWordChar = true := h c List.mem_cons_self
    rw [readUnit, if_pos hc]
    exact Cursor.takeWhile_all h n

theorem skipHyphen_unitText {unit : Text} (h : ∀ c ∈ unit, isWordChar c = true) (n : Nat) :
    ∃ m, skipHyphen ⟨unitText unit, n⟩ = ⟨unit, m⟩ := by
  cases unit with
  | nil => exact ⟨n, skipHyphen_nil n⟩
  | cons c unit =>
    have hc : isBlank c = false := isBlank_of_isWordChar (h c List.mem_cons_self)
    exact ⟨n + 1, skipHyphen_cons (stops_cons hc unit) n⟩

theorem stops_unitText {p : Char → Bool} (h : p '-' = false) (unit : Text) :
    Stops p (unitText unit) := by
  cases unit with
  | nil => exact stops_nil p
  | cons c unit => exact stops_cons h (c :: unit)

/-! ## The whole -/

/-- A layout is read if its width is, and the other parts follow. -/
theorem read_eq_ok_iff {form : UnitSyntax} {c rest : Cursor} {layout : Layout} :
    Layout.read form c = .ok (layout, rest) ↔
      ∃ width d, readWidth (skipHyphen c) = .ok (width, d) ∧
        let aligned := readAlignment (skipHyphen d)
        let measured := readUnit form (skipHyphen aligned.2)
        layout = ⟨width, aligned.1, measured.1⟩ ∧ rest = measured.2.skipBlanks := by
  unfold Layout.read
  cases readWidth (skipHyphen c) with
  | error fault => simp
  | ok part =>
    obtain ⟨width, d⟩ := part
    simp only [Except.ok.injEq, Prod.mk.injEq]
    constructor
    · intro h
      exact ⟨width, d, ⟨rfl, rfl⟩, h.1.symm, h.2.symm⟩
    · intro h
      obtain ⟨_, _, ⟨rfl, rfl⟩, hlayout, hrest⟩ := h
      exact ⟨hlayout.symm, hrest.symm⟩

theorem isBlank_letter (a : Alignment) : isBlank a.letter = false := by
  cases a with
  | left => rfl
  | center => rfl
  | right => rfl

/-- A layout is read as it was written, and nothing is left. -/
theorem read_text {width : Nat} (hpos : 0 < width) (hlt : width < wordLimit) (a : Alignment)
    {unit : Text} (hunit : ∀ c ∈ unit, isWordChar c = true) (n : Nat) :
    ∃ m, read .word ⟨text width a unit, n⟩ = .ok (⟨some width, some a, unit⟩, ⟨[], m⟩) := by
  have hdigits : BeginsSolid (decimal width) :=
    beginsSolid_of_forall (decimal_ne_nil width) fun _ hc =>
      isBlank_of_isDigit (isDigit_of_mem_decimal hc)
  have hwidth := skipHyphen_cons (hdigits.append ('-' :: (a.keyword ++ unitText unit))).stops n
  have hletter : Stops isBlank (a.keyword ++ unitText unit) := stops_cons (isBlank_letter a) _
  have halign := skipHyphen_cons hletter (n + 1 + byteSize (decimal width))
  have hword : isWordChar '-' = false := by decide +kernel
  obtain ⟨m, hm⟩ :=
    skipHyphen_unitText hunit (n + 1 + byteSize (decimal width) + 1 + a.letter.utf8Size)
  refine ⟨m + byteSize unit, ?_⟩
  rw [read, text, hwidth, readWidth_append hpos hlt (stops_cons (by decide) _)]
  simp only [halign, readAlignment_append a (stops_unitText hword unit), hm, readUnit_word hunit]
  rfl

end PlainReport.Layout
