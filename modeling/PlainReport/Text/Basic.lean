/-!
# Text

Text is a list of characters.  Widths count characters, and positions count the
bytes of the UTF-8 form.  A text is cut into pieces at a separator and joined
from pieces by one.  The two are inverse: `join_pieces` says that joining the
pieces gives the text back, and `pieces_join` that cutting gives the pieces back
when none of them holds the separator.
-/

namespace PlainReport

/-- Text, character by character. -/
abbrev Text := List Char

/-- A literal is text. -/
instance : Coe String Text := ⟨String.toList⟩

namespace Text

/-- The number of bytes of the UTF-8 form. -/
def byteSize : Text → Nat
  | [] => 0
  | c :: t => c.utf8Size + byteSize t

/-- The pieces between the separators.  There is one more piece than there are
separators, so there is always one. -/
def pieces (sep : Char) : Text → List Text
  | [] => [[]]
  | c :: t =>
    if c = sep then [] :: pieces sep t
    else match pieces sep t with
      | [] => [[c]]
      | p :: ps => (c :: p) :: ps

/-- The texts with the joiner between each two. -/
def join (joiner : Text) : List Text → Text
  | [] => []
  | [t] => t
  | t :: ts => t ++ joiner ++ join joiner ts

/-- The lines, which a line feed ends. -/
def lines (t : Text) : List Text := pieces '\n' t

/-- The texts as lines. -/
def unlines (ts : List Text) : Text := join ['\n'] ts

/-- The text before the first separator and, if there is one, the text after it. -/
def cut (sep : Char) : Text → Text × Option Text
  | [] => ([], none)
  | c :: t => if c = sep then ([], some t) else ((c :: (cut sep t).1), (cut sep t).2)

/-- What stands before a given ending. -/
def dropEnding? (ending t : Text) : Option Text :=
  if ending.isSuffixOf t then some (t.take (t.length - ending.length)) else none

/-! ## Laws of cutting -/

@[simp] theorem byteSize_nil : byteSize [] = 0 := rfl

@[simp] theorem byteSize_cons (c : Char) (t : Text) :
    byteSize (c :: t) = c.utf8Size + byteSize t := rfl

@[simp] theorem byteSize_append (t u : Text) : byteSize (t ++ u) = byteSize t + byteSize u := by
  induction t with
  | nil => simp
  | cons c t ih => simp [ih, Nat.add_assoc]

theorem pieces_ne_nil (sep : Char) (t : Text) : pieces sep t ≠ [] := by
  cases t with
  | nil => simp [pieces]
  | cons c t =>
    unfold pieces
    split
    · simp
    · split <;> simp

/-- A character other than the separator goes to the front of the first piece. -/
theorem pieces_cons_of_ne {sep c : Char} (h : c ≠ sep) (t : Text) :
    ∃ p ps, pieces sep t = p :: ps ∧ pieces sep (c :: t) = (c :: p) :: ps := by
  obtain ⟨p, ps, hp⟩ := List.exists_cons_of_ne_nil (pieces_ne_nil sep t)
  exact ⟨p, ps, hp, by simp [pieces, h, hp]⟩

theorem join_pieces (sep : Char) (t : Text) : join [sep] (pieces sep t) = t := by
  induction t with
  | nil => rfl
  | cons c t ih =>
    by_cases h : c = sep
    · subst h
      obtain ⟨p, ps, hp⟩ := List.exists_cons_of_ne_nil (pieces_ne_nil c t)
      have : join [c] (p :: ps) = t := hp ▸ ih
      simp [pieces, hp, join, this]
    · obtain ⟨p, ps, hp, hc⟩ := pieces_cons_of_ne h t
      rw [hp] at ih
      rw [hc, ← ih]
      cases ps <;> simp [join]

theorem not_mem_of_mem_pieces {sep : Char} {t p : Text} (h : p ∈ pieces sep t) : sep ∉ p := by
  induction t generalizing p with
  | nil => simp_all [pieces]
  | cons c t ih =>
    by_cases hc : c = sep
    · simp only [pieces, hc, if_true, List.mem_cons] at h
      rcases h with rfl | h
      · simp
      · exact ih h
    · obtain ⟨q, qs, hq, hcq⟩ := pieces_cons_of_ne hc t
      rw [hcq, List.mem_cons] at h
      rcases h with rfl | h
      · simp only [List.mem_cons, not_or]
        exact ⟨fun e => hc e.symm, ih (by simp [hq])⟩
      · exact ih (by simp [hq, h])

/-- A text without the separator is its own only piece. -/
theorem pieces_of_not_mem {sep : Char} {t : Text} (h : sep ∉ t) : pieces sep t = [t] := by
  induction t with
  | nil => rfl
  | cons c t ih =>
    rw [List.mem_cons, not_or] at h
    simp [pieces, ih h.2, Ne.symm h.1]

/-- A separator divides the pieces before it from those after it. -/
theorem pieces_append_sep (sep : Char) (t u : Text) :
    pieces sep (t ++ sep :: u) = pieces sep t ++ pieces sep u := by
  induction t with
  | nil => simp [pieces]
  | cons c t ih =>
    by_cases h : c = sep
    · simp [pieces, h, ih]
    · obtain ⟨p, ps, hp, -⟩ := pieces_cons_of_ne h t
      simp [pieces, h, ih, hp]

theorem pieces_append_cons {sep : Char} {t : Text} (h : sep ∉ t) (u : Text) :
    pieces sep (t ++ sep :: u) = t :: pieces sep u := by
  rw [pieces_append_sep, pieces_of_not_mem h, List.singleton_append]

/-- The pieces of joined texts are those of each of them. -/
theorem pieces_join_eq_flatMap (sep : Char) {ts : List Text} (h : ts ≠ []) :
    pieces sep (join [sep] ts) = ts.flatMap (pieces sep) := by
  induction ts with
  | nil => exact absurd rfl h
  | cons t ts ih =>
    cases ts with
    | nil => simp [join]
    | cons u us =>
      have hjoin : join [sep] (t :: u :: us) = t ++ sep :: join [sep] (u :: us) := by simp [join]
      rw [hjoin, pieces_append_sep, List.flatMap_cons, ih (List.cons_ne_nil u us)]

theorem pieces_join {sep : Char} {ts : List Text} (hne : ts ≠ []) (h : ∀ t ∈ ts, sep ∉ t) :
    pieces sep (join [sep] ts) = ts := by
  rw [pieces_join_eq_flatMap sep hne]
  clear hne
  induction ts with
  | nil => rfl
  | cons t ts ih =>
    rw [List.flatMap_cons, pieces_of_not_mem (h t List.mem_cons_self),
      ih fun u hu => h u (List.mem_cons_of_mem _ hu), List.singleton_append]

end Text

end PlainReport
