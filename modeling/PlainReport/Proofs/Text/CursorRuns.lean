import PlainReport.Proofs.Text.Scanning

/-!
# Runs of a cursor

A cursor moves by bytes.  `advance?` splits the rest of the text after a number of bytes,
which is possible only between two characters (`isSome_splitAt?_iff`).  Every operation on
a cursor asks for a number of bytes or for none (`Operation.extent?`), and it always asks
for a place between two characters: `advance?_of_extent?`.

One operation takes a part from the front of the rest and moves the position by the bytes
of this part (`Operation.perform_divides`).  So, after any run of operations, what was
consumed and what is left make up the text, and the position counts the bytes of what was
consumed (`reached_run`).
-/

namespace PlainReport.Text

/-! ## Bytes -/

theorem utf8ByteSize_ofList (t : Text) : (String.ofList t).utf8ByteSize = byteSize t := by
  induction t with
  | nil => rfl
  | cons c t ih =>
    rw [← List.singleton_append, String.ofList_append, String.utf8ByteSize_append, ih,
      ← String.singleton_eq_ofList, String.utf8ByteSize_singleton]
    rfl

/-- A text split after a number of bytes.  There is nothing beyond its end, and nothing
inside a character. -/
def splitAt? : Nat → Text → Option (Text × Text)
  | 0, t => some ([], t)
  | _ + 1, [] => none
  | n + 1, c :: t =>
    if c.utf8Size ≤ n + 1 then
      (splitAt? (n + 1 - c.utf8Size) t).map fun (before, after) => (c :: before, after)
    else none

theorem splitAt?_append (t u : Text) : splitAt? (byteSize t) (t ++ u) = some (t, u) := by
  induction t with
  | nil => simp [splitAt?]
  | cons c t ih =>
    have hpos : 0 < c.utf8Size := c.utf8Size_pos
    obtain ⟨n, hn⟩ : ∃ n, c.utf8Size + byteSize t = n + 1 :=
      Nat.exists_eq_succ_of_ne_zero (by omega)
    have hleft : n + 1 - c.utf8Size = byteSize t := by omega
    rw [byteSize_cons, List.cons_append, hn, splitAt?, if_pos (by omega), hleft, ih]
    rfl

theorem eq_of_splitAt? {n : Nat} {t before after : Text}
    (h : splitAt? n t = some (before, after)) : t = before ++ after ∧ n = byteSize before := by
  induction t generalizing n before after with
  | nil =>
    cases n with
    | zero =>
      cases h
      exact ⟨rfl, rfl⟩
    | succ n => cases h
  | cons c t ih =>
    cases n with
    | zero =>
      cases h
      exact ⟨rfl, rfl⟩
    | succ n =>
      rw [splitAt?] at h
      split at h
      · obtain ⟨⟨front, back⟩, hsplit, heq⟩ := Option.map_eq_some_iff.1 h
        cases heq
        obtain ⟨ht, hn⟩ := ih hsplit
        refine ⟨congrArg (c :: ·) ht, ?_⟩
        rw [byteSize_cons, ← hn]
        omega
      · cases h

/-- A text can be split where a character begins, and at its end. -/
theorem isSome_splitAt?_iff {n : Nat} {t : Text} :
    (splitAt? n t).isSome ↔ String.Pos.Raw.IsValid (String.ofList t) ⟨n⟩ := by
  rw [String.Pos.Raw.isValid_ofList]
  constructor
  · intro h
    obtain ⟨⟨before, after⟩, hsplit⟩ := Option.isSome_iff_exists.1 h
    obtain ⟨rfl, rfl⟩ := eq_of_splitAt? hsplit
    refine ⟨before.length, ?_⟩
    rw [List.take_left, utf8ByteSize_ofList]
  · rintro ⟨i, hi⟩
    obtain rfl : n = byteSize (t.take i) := hi.trans (utf8ByteSize_ofList _)
    have hsplit := splitAt?_append (t.take i) (t.drop i)
    rw [List.take_append_drop] at hsplit
    rw [hsplit]
    rfl

-- the letter takes two bytes
example : splitAt? 1 "я" = none := by decide

/-- The characters of a text, each with the byte at which it begins. -/
def charIndices : Nat → Text → List (Nat × Char)
  | _, [] => []
  | n, c :: t => (n, c) :: charIndices (n + c.utf8Size) t

/-- The byte of the first character outside a class, or the end of the text. -/
def endOfRun (p : Char → Bool) (t : Text) : Nat :=
  (((charIndices 0 t).find? fun i => !p i.2).map Prod.fst).getD (byteSize t)

theorem find?_charIndices (p : Char → Bool) (n : Nat) (t : Text) :
    (((charIndices n t).find? fun i => !p i.2).map Prod.fst).getD (n + byteSize t) =
      n + byteSize (t.takeWhile p) := by
  induction t generalizing n with
  | nil => rfl
  | cons c t ih =>
    rw [charIndices, List.find?_cons, List.takeWhile_cons]
    cases hc : p c with
    | true =>
      have hrest := ih (n + c.utf8Size)
      rw [Nat.add_assoc, Nat.add_assoc] at hrest
      exact hrest
    | false => rfl

/-- The run of a class ends behind the characters that are taken. -/
theorem endOfRun_eq (p : Char → Bool) (t : Text) : endOfRun p t = byteSize (t.takeWhile p) := by
  have h := find?_charIndices p 0 t
  rwa [Nat.zero_add, Nat.zero_add] at h

/-- The longest beginning of a text in a class. -/
structure LongestRun (p : Char → Bool) (t run : Text) : Prop where
  /-- The text begins with it. -/
  begins : run <+: t
  /-- It stands in the class. -/
  inside : ∀ c ∈ run, p c = true
  /-- Every beginning in the class is a beginning of it. -/
  longest : ∀ u, u <+: t → (∀ c ∈ u, p c = true) → u <+: run

theorem longestRun_takeWhile (p : Char → Bool) (t : Text) : LongestRun p t (t.takeWhile p) where
  begins := List.takeWhile_prefix p
  inside := fun _ => List.mem_takeWhile_imp
  longest := by
    rintro u ⟨v, rfl⟩ hu
    rw [List.takeWhile_append_of_pos hu]
    exact List.prefix_append u _

namespace Cursor

/-- Takes a number of bytes from the front. -/
def advance? (n : Nat) (c : Cursor) : Option (Text × Cursor) :=
  (splitAt? n c.rest).map fun (taken, rest) => (taken, ⟨rest, c.position + n⟩)

/-! ## Operations -/

/-- What can be done with a cursor. -/
inductive Operation where
  | takeWhile (p : Char → Bool)
  | skipBlanks
  | eat (x : Char)
  | eatText (t : Text)
  | takeRest
  | peek
  | peekSecond

/-- What an operation answers. -/
inductive Answer where
  | nothing
  | taken (t : Text)
  | decision (b : Bool)
  | character (x : Option Char)
deriving DecidableEq, Repr

/-- What comes of an operation. -/
structure Outcome where
  /-- The answer. -/
  answer : Answer
  /-- The text that was stepped over. -/
  consumed : Text
  /-- The cursor afterwards. -/
  next : Cursor
deriving DecidableEq, Repr

namespace Operation

/-- The operation at a cursor. -/
def perform (c : Cursor) : Operation → Outcome
  | .takeWhile p => ⟨.taken (c.takeWhile p).1, (c.takeWhile p).1, (c.takeWhile p).2⟩
  | .skipBlanks => ⟨.nothing, (c.takeWhile isBlank).1, c.skipBlanks⟩
  | .eat x =>
    match c.eat? x with
    | some next => ⟨.decision true, [x], next⟩
    | none => ⟨.decision false, [], c⟩
  | .eatText t =>
    match c.eatText? t with
    | some next => ⟨.decision true, t, next⟩
    | none => ⟨.decision false, [], c⟩
  | .takeRest => ⟨.taken c.takeRest.1, c.takeRest.1, c.takeRest.2⟩
  | .peek => ⟨.character c.peek?, [], c⟩
  | .peekSecond => ⟨.character c.peekSecond?, [], c⟩

/-- The number of bytes that the operation advances by, if it advances at all. -/
def extent? (c : Cursor) : Operation → Option Nat
  | .takeWhile p => some (endOfRun p c.rest)
  | .skipBlanks => some (endOfRun isBlank c.rest)
  | .eat x => if c.peek? = some x then some x.utf8Size else none
  | .eatText t => if t <+: c.rest then some (byteSize t) else none
  | .takeRest => some (byteSize c.rest)
  | .peek => none
  | .peekSecond => none

theorem perform_eat (c : Cursor) (x : Char) :
    (eat x).perform c =
      if c.peek? = some x then
        ⟨.decision true, [x], ⟨c.rest.tail, c.position + x.utf8Size⟩⟩
      else ⟨.decision false, [], c⟩ := by
  obtain ⟨rest, n⟩ := c
  cases rest with
  | nil => rfl
  | cons y rest =>
    by_cases hy : y = x
    · subst hy
      simp [perform, eat?_cons, peek?]
    · simp [perform, eat?, peek?, hy]

theorem perform_eatText (c : Cursor) (t : Text) :
    (eatText t).perform c =
      if t <+: c.rest then
        ⟨.decision true, t, ⟨c.rest.drop t.length, c.position + byteSize t⟩⟩
      else ⟨.decision false, [], c⟩ := by
  by_cases ht : t <+: c.rest
  · simp [perform, eatText?, List.isPrefixOf_iff_prefix, ht]
  · simp [perform, eatText?, List.isPrefixOf_iff_prefix, ht]

/-- An operation takes a part from the front of the rest, and the position moves by the
bytes of this part. -/
theorem perform_divides (c : Cursor) (o : Operation) :
    c.rest = (o.perform c).consumed ++ (o.perform c).next.rest ∧
      (o.perform c).next.position = c.position + byteSize (o.perform c).consumed := by
  cases o with
  | takeWhile p => exact ⟨(c.takeWhile_divides p).1, rfl⟩
  | skipBlanks => exact ⟨(c.takeWhile_divides isBlank).1, rfl⟩
  | eat x =>
    rw [perform_eat]
    split
    · next hpeek => exact ⟨(List.cons_head?_tail hpeek).symm, rfl⟩
    · exact ⟨rfl, rfl⟩
  | eatText t =>
    rw [perform_eatText]
    split
    · next hstart => exact ⟨(List.prefix_iff_eq_append.1 hstart).symm, rfl⟩
    · exact ⟨rfl, rfl⟩
  | takeRest => exact ⟨(List.append_nil _).symm, rfl⟩
  | peek => exact ⟨rfl, rfl⟩
  | peekSecond => exact ⟨rfl, rfl⟩

/-- An operation advances by the bytes of what it consumes. -/
theorem extent?_eq (c : Cursor) (o : Operation) :
    o.extent? c = some (byteSize (o.perform c).consumed) ∨
      o.extent? c = none ∧ (o.perform c).consumed = [] := by
  cases o with
  | takeWhile p => exact .inl (congrArg some (endOfRun_eq p c.rest))
  | skipBlanks => exact .inl (congrArg some (endOfRun_eq isBlank c.rest))
  | eat x =>
    rw [perform_eat, extent?]
    split
    · exact .inl rfl
    · exact .inr ⟨rfl, rfl⟩
  | eatText t =>
    rw [perform_eatText, extent?]
    split
    · exact .inl rfl
    · exact .inr ⟨rfl, rfl⟩
  | takeRest => exact .inl rfl
  | peek => exact .inr ⟨rfl, rfl⟩
  | peekSecond => exact .inr ⟨rfl, rfl⟩

/-- The split by which an operation advances is possible, and gives what the operation
consumes. -/
theorem advance?_of_extent? {c : Cursor} {o : Operation} {n : Nat} (h : o.extent? c = some n) :
    c.advance? n = some ((o.perform c).consumed, (o.perform c).next) := by
  obtain ⟨hrest, hposition⟩ := o.perform_divides c
  rcases o.extent?_eq c with hsome | ⟨hnone, -⟩
  · obtain rfl : n = byteSize (o.perform c).consumed := Option.some.inj (h.symm.trans hsome)
    rw [advance?, hrest, splitAt?_append, ← hposition]
    rfl
  · rw [hnone] at h
    cases h

/-- Where nothing is consumed, nothing changes. -/
theorem next_eq_self {c : Cursor} {o : Operation} (h : (o.perform c).consumed = []) :
    (o.perform c).next = c := by
  obtain ⟨hrest, hposition⟩ := o.perform_divides c
  rw [h, List.nil_append] at hrest
  rw [h, byteSize_nil, Nat.add_zero] at hposition
  cases hnext : (o.perform c).next
  rw [hnext] at hrest hposition
  subst hrest hposition
  rfl

/-- An operation that answers no does not advance. -/
theorem extent?_of_no {c : Cursor} {o : Operation} (h : (o.perform c).answer = .decision false) :
    o.extent? c = none ∧ (o.perform c).consumed = [] := by
  cases o with
  | eat x =>
    rw [perform_eat] at h ⊢
    rw [extent?]
    split at h
    · cases h
    · next hpeek => exact ⟨if_neg hpeek, by rw [if_neg hpeek]⟩
  | eatText t =>
    rw [perform_eatText] at h ⊢
    rw [extent?]
    split at h
    · cases h
    · next hstart => exact ⟨if_neg hstart, by rw [if_neg hstart]⟩
  | takeWhile p => cases h
  | skipBlanks => cases h
  | takeRest => cases h
  | peek => cases h
  | peekSecond => cases h

end Operation

/-! ## Runs -/

/-- How far a text has been read. -/
structure Progress where
  /-- All that was consumed. -/
  consumed : Text
  /-- The place where reading goes on. -/
  cursor : Cursor
deriving DecidableEq, Repr

namespace Progress

/-- One operation more. -/
def step (s : Progress) (o : Operation) : Progress :=
  ⟨s.consumed ++ (o.perform s.cursor).consumed, (o.perform s.cursor).next⟩

/-- Operations in a row, from the start of a text. -/
def run (input : Text) (os : List Operation) : Progress :=
  os.foldl step ⟨[], ofText input⟩

/-- Nothing of the text is lost, and the position is that of the cursor in it. -/
structure Reached (input : Text) (s : Progress) : Prop where
  whole : s.consumed ++ s.cursor.rest = input
  position : s.cursor.position = byteSize s.consumed

variable {input : Text} {s : Progress}

theorem Reached.step (h : Reached input s) (o : Operation) : Reached input (s.step o) := by
  obtain ⟨hrest, hposition⟩ := o.perform_divides s.cursor
  constructor
  · calc s.consumed ++ (o.perform s.cursor).consumed ++ (o.perform s.cursor).next.rest
      _ = s.consumed ++ s.cursor.rest := by rw [List.append_assoc, ← hrest]
      _ = input := h.whole
  · calc (o.perform s.cursor).next.position
      _ = s.cursor.position + byteSize (o.perform s.cursor).consumed := hposition
      _ = byteSize (s.consumed ++ (o.perform s.cursor).consumed) := by
        rw [h.position, byteSize_append]

theorem Reached.foldl (h : Reached input s) (os : List Operation) :
    Reached input (os.foldl Progress.step s) := by
  induction os generalizing s with
  | nil => exact h
  | cons o os ih => exact ih (h.step o)

theorem reached_run (input : Text) (os : List Operation) : Reached input (run input os) := by
  have hstart : Reached input ⟨[], ofText input⟩ := ⟨rfl, rfl⟩
  exact hstart.foldl os

/-- The text can be split at the position of the cursor. -/
theorem Reached.isValid (h : Reached input s) :
    String.Pos.Raw.IsValid (String.ofList input) ⟨s.cursor.position⟩ := by
  rw [← isSome_splitAt?_iff, h.position, ← h.whole, splitAt?_append]
  rfl

end Progress

/-- After any operations on a text, what was consumed and what is left make it up, and the
position counts the bytes of what was consumed and lies between two characters.  A run of
a class is taken at its longest, an operation that answers no leaves the cursor as it was,
and the split for which an operation advances is always possible. -/
theorem run_loses_nothing :
    (∀ (input : Text) (os : List Operation),
      (Progress.run input os).consumed ++ (Progress.run input os).cursor.rest = input ∧
      (Progress.run input os).cursor.position =
        (String.ofList (Progress.run input os).consumed).utf8ByteSize ∧
      String.Pos.Raw.IsValid (String.ofList input) ⟨(Progress.run input os).cursor.position⟩) ∧
    (∀ (c : Cursor) (p : Char → Bool),
      ∃ run, ((Operation.takeWhile p).perform c).answer = .taken run ∧
        ((Operation.takeWhile p).perform c).consumed = run ∧ LongestRun p c.rest run) ∧
    (∀ (c : Cursor) (o : Operation), (o.perform c).answer = .decision false →
      o.extent? c = none ∧ (o.perform c).consumed = [] ∧ (o.perform c).next = c) ∧
    ∀ (c : Cursor) (o : Operation),
      (o.extent? c = none ∧ (o.perform c).consumed = [] ∧ (o.perform c).next = c) ∨
      ∃ n, o.extent? c = some n ∧
        c.advance? n = some ((o.perform c).consumed, (o.perform c).next) := by
  refine ⟨fun input os => ?_, fun c p => ?_, fun c o hno => ?_, fun c o => ?_⟩
  · have hreached := Progress.reached_run input os
    refine ⟨hreached.whole, ?_, hreached.isValid⟩
    rw [utf8ByteSize_ofList]
    exact hreached.position
  · exact ⟨_, rfl, rfl, longestRun_takeWhile p c.rest⟩
  · obtain ⟨hextent, hconsumed⟩ := Operation.extent?_of_no hno
    exact ⟨hextent, hconsumed, Operation.next_eq_self hconsumed⟩
  · rcases o.extent?_eq c with hsome | ⟨hnone, hconsumed⟩
    · exact .inr ⟨_, hsome, Operation.advance?_of_extent? hsome⟩
    · exact .inl ⟨hnone, hconsumed, Operation.next_eq_self hconsumed⟩

/-- A letter of two bytes and a bar are taken.  A second letter and a second bar are not there. -/
theorem run_loses_nothing_of_letters :
    let s := Progress.run "я|b" [.eatText "яя", .takeWhile (· ≠ '|'), .eat '|']
    let again := (Operation.eat '|').perform s.cursor
    s = ⟨"я|", ⟨"b", 3⟩⟩ ∧
      s.consumed ++ s.cursor.rest = "я|b" ∧
      s.cursor.position = (String.ofList s.consumed).utf8ByteSize ∧
      String.Pos.Raw.IsValid (String.ofList "я|b") ⟨s.cursor.position⟩ ∧
      again.answer = .decision false ∧ again.consumed = [] ∧ again.next = s.cursor := by
  intro s again
  have hrun : s = ⟨"я|", ⟨"b", 3⟩⟩ := by decide
  have hno : again.answer = .decision false := by decide
  obtain ⟨hwhole, hposition, hvalid⟩ :=
    run_loses_nothing.1 "я|b" [.eatText "яя", .takeWhile (· ≠ '|'), .eat '|']
  obtain ⟨-, hconsumed, hnext⟩ := run_loses_nothing.2.2.1 s.cursor (.eat '|') hno
  exact ⟨hrun, hwhole, hposition, hvalid, hno, hconsumed, hnext⟩

end Cursor

end PlainReport.Text
