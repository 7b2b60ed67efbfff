import PlainReport.Text.Basic

/-!
# Pieces of a letter

A piece of a letter is text with placeholders in it.  The leftmost double brace
opens a placeholder and the nearest closing one after it ends it.  An opening
that no closing follows begins no placeholder, and then none comes after it.

`text_ofText` says that the spans and the tail of a piece make up its text.
-/

namespace PlainReport

/-- A placeholder as written, with the text before it. -/
structure Span where
  /-- The text before the opening braces. -/
  before : Text
  /-- The text between the braces. -/
  inner : Text
deriving DecidableEq, Repr

/-- A text divided at its placeholders. -/
structure Piece where
  /-- The placeholders with the texts before them. -/
  spans : List Span
  /-- The text after the last placeholder. -/
  tail : Text
deriving DecidableEq, Repr

/-- The text between the braces with the braces. -/
def Span.literal (s : Span) : Text := ['\x7b', '\x7b'] ++ s.inner ++ ['\x7d', '\x7d']

namespace Piece

/-- The piece with a character set before it. -/
def cons (c : Char) (p : Piece) : Piece :=
  match p.spans with
  | [] => ⟨[], c :: p.tail⟩
  | s :: rest => ⟨⟨c :: s.before, s.inner⟩ :: rest, p.tail⟩

mutual

/-- Divides a text at its placeholders. -/
def ofText : Text → Piece
  | [] => ⟨[], []⟩
  | '\x7b' :: '\x7b' :: t =>
    match closing? t with
    | none => ⟨[], '\x7b' :: '\x7b' :: t⟩
    | some (inner, p) => ⟨⟨[], inner⟩ :: p.spans, p.tail⟩
  | c :: t => cons c (ofText t)

/-- The text up to the nearest closing braces, and what follows them divided at its
placeholders. -/
def closing? : Text → Option (Text × Piece)
  | [] => none
  | '\x7d' :: '\x7d' :: t => some ([], ofText t)
  | c :: t =>
    match closing? t with
    | none => none
    | some (inner, p) => some (c :: inner, p)

end

/-- The text that was divided. -/
def text (p : Piece) : Text := p.spans.flatMap (fun s => s.before ++ s.literal) ++ p.tail

theorem text_cons (c : Char) (p : Piece) : (cons c p).text = c :: p.text := by
  unfold cons text
  split <;> rename_i h <;> simp [h, Span.literal]

/-- Dividing loses nothing, up to the end of a text or up to its closing braces. -/
theorem text_ofText_and_closing? :
    (∀ t, (ofText t).text = t) ∧
      ∀ t inner p, closing? t = some (inner, p) → t = inner ++ ['\x7d', '\x7d'] ++ p.text := by
  apply ofText.mutual_induct (fun t => (ofText t).text = t)
    (fun t => ∀ inner p, closing? t = some (inner, p) → t = inner ++ ['\x7d', '\x7d'] ++ p.text)
  · rfl
  · intro t h _
    simp [ofText, h, text]
  · intro t inner p h ih
    have ht := ih inner p h
    simp only [ofText, h]
    simp [text, Span.literal, ht]
  · intro c t hc ih
    rw [ofText, text_cons, ih]
    exact hc
  · simp [closing?]
  · intro t ih inner p h
    obtain ⟨rfl, rfl⟩ := Prod.mk.inj (Option.some.inj h)
    simp [ih]
  · intro c t hc h ih inner p hp
    rw [closing?, h] at hp
    · simp at hp
    · exact hc
  · intro c t hc inner p h ih inner' p' hp
    rw [closing?, h] at hp
    · obtain ⟨rfl, rfl⟩ := Prod.mk.inj (Option.some.inj hp)
      simp [ih inner p h]
    · exact hc

theorem text_ofText (t : Text) : (ofText t).text = t := text_ofText_and_closing?.1 t

end Piece

end PlainReport
