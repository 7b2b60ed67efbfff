import Mathlib.Data.List.Basic
import PlainReport.Proofs.Text.Classes
import PlainReport.Proofs.Text.Trimming
import PlainReport.Text.Find

/-!
# Scanning a text made of parts

A run of a class is taken whole when the text after it does not go on in the class
(`takeWhile_append`).  From this follows what each step of a cursor does on a text
whose parts are known.  Conversely, what a step takes is such a run
(`takeWhile_divides`), and a text is divided in one way only into a run and what
follows it (`append_inj_of_stops`).  A word whose last character stands nowhere else in
a text is found where it stands (`cutLast?_of_once`).
-/

namespace PlainReport.Text

/-- The text does not begin in the class. -/
def Stops (p : Char → Bool) (t : Text) : Prop := ∀ c ∈ t.head?, p c = false

theorem stops_nil (p : Char → Bool) : Stops p [] := nofun

theorem stops_cons {p : Char → Bool} {c : Char} (h : p c = false) (t : Text) :
    Stops p (c :: t) := by
  intro d hd
  cases hd
  exact h

theorem BeginsSolid.stops {t : Text} (h : BeginsSolid t) : Stops isBlank t := fun _ => h.head?_eq

theorem stops_of_forall {p : Char → Bool} {t : Text} (h : ∀ c ∈ t, p c = false) : Stops p t :=
  fun c hc => h c (List.mem_of_mem_head? hc)

theorem Stops.append {p : Char → Bool} {t u : Text} (ht : Stops p t) (hu : Stops p u) :
    Stops p (t ++ u) := by
  cases t with
  | nil => exact hu
  | cons c t => exact ht

theorem stops_iff {p : Char → Bool} {t : Text} : Stops p t ↔ t.head?.any p = false := by
  cases t with
  | nil => exact iff_of_true (stops_nil p) rfl
  | cons c t => exact ⟨fun h => h c rfl, fun h => stops_cons h t⟩

theorem stops_dropWhile (p : Char → Bool) (t : Text) : Stops p (t.dropWhile p) := by
  intro c hc
  have h := List.head?_dropWhile_not p t
  rw [Option.mem_def.1 hc] at h
  simpa using h

theorem takeWhile_eq_of_stops {p : Char → Bool} {t u : Text} (ht : ∀ c ∈ t, p c = true)
    (hu : Stops p u) : (t ++ u).takeWhile p = t ∧ (t ++ u).dropWhile p = u := by
  rw [List.takeWhile_append_of_pos ht, List.dropWhile_append_of_pos ht]
  cases u with
  | nil => exact ⟨List.append_nil t, rfl⟩
  | cons c u =>
    have hc : ¬ p c = true := by simp [hu c rfl]
    rw [List.takeWhile_cons_of_neg hc, List.dropWhile_cons_of_neg hc]
    exact ⟨List.append_nil t, rfl⟩

/-- A text begins with one run of a class only that the class does not go on after. -/
theorem append_inj_of_stops {p : Char → Bool} {t u v w : Text} (ht : ∀ c ∈ t, p c = true)
    (hv : ∀ c ∈ v, p c = true) (hu : Stops p u) (hw : Stops p w) (h : t ++ u = v ++ w) :
    t = v ∧ u = w := by
  obtain ⟨htake, hdrop⟩ := takeWhile_eq_of_stops ht hu
  obtain ⟨htake', hdrop'⟩ := takeWhile_eq_of_stops hv hw
  rw [h] at htake hdrop
  exact ⟨htake.symm.trans htake', hdrop.symm.trans hdrop'⟩

namespace Cursor

/-- A run of the class is taken whole if the class does not go on after it. -/
theorem takeWhile_append {p : Char → Bool} {t u : Text} (ht : ∀ c ∈ t, p c = true)
    (hu : Stops p u) (n : Nat) :
    (Cursor.mk (t ++ u) n).takeWhile p = (t, ⟨u, n + byteSize t⟩) := by
  obtain ⟨htake, hdrop⟩ := takeWhile_eq_of_stops ht hu
  simp only [takeWhile, htake, hdrop]

/-- A text of the class is taken to its end. -/
theorem takeWhile_all {p : Char → Bool} {t : Text} (ht : ∀ c ∈ t, p c = true) (n : Nat) :
    (Cursor.mk t n).takeWhile p = (t, ⟨[], n + byteSize t⟩) := by
  have h := takeWhile_append ht (stops_nil p) n
  rwa [List.append_nil] at h

/-- What is taken is a run of the class, and the class does not go on after it. -/
theorem takeWhile_divides (p : Char → Bool) (c : Cursor) :
    c.rest = (c.takeWhile p).1 ++ (c.takeWhile p).2.rest ∧
      (∀ x ∈ (c.takeWhile p).1, p x = true) ∧ Stops p (c.takeWhile p).2.rest :=
  ⟨List.takeWhile_append_dropWhile.symm, fun _ => List.mem_takeWhile_imp,
    stops_dropWhile p c.rest⟩

/-- What is stepped over is blank, and no blank follows it. -/
theorem skipBlanks_divides (c : Cursor) : ∃ b, (∀ x ∈ b, isBlank x = true) ∧
    c.rest = b ++ c.skipBlanks.rest ∧ Stops isBlank c.skipBlanks.rest := by
  obtain ⟨hrest, hblank, hstops⟩ := c.takeWhile_divides isBlank
  exact ⟨_, hblank, hrest, hstops⟩

theorem skipBlanks_append {b u : Text} (hb : ∀ c ∈ b, isBlank c = true) (hu : Stops isBlank u)
    (n : Nat) : (Cursor.mk (b ++ u) n).skipBlanks = ⟨u, n + byteSize b⟩ := by
  rw [skipBlanks, takeWhile_append hb hu]

theorem skipBlanks_of_stops {u : Text} (hu : Stops isBlank u) (n : Nat) :
    (Cursor.mk u n).skipBlanks = ⟨u, n⟩ :=
  skipBlanks_append (b := []) nofun hu n

theorem skipBlanks_space {u : Text} (hu : Stops isBlank u) (n : Nat) :
    (Cursor.mk (' ' :: u) n).skipBlanks = ⟨u, n + 1⟩ :=
  skipBlanks_append (b := [' ']) (List.forall_mem_singleton.2 rfl) hu n

theorem eat?_cons (x : Char) (t : Text) (n : Nat) :
    (Cursor.mk (x :: t) n).eat? x = some ⟨t, n + x.utf8Size⟩ := by
  simp [eat?]

theorem rest_of_eat? {x : Char} {c d : Cursor} (h : c.eat? x = some d) : c.rest = x :: d.rest := by
  unfold eat? at h
  split at h
  · cases h
  · next y rest hrest =>
    split at h
    · next hy =>
      cases h
      rw [hrest, hy]
    · cases h

theorem eatText?_append (t u : Text) (n : Nat) :
    (Cursor.mk (t ++ u) n).eatText? t = some ⟨u, n + byteSize t⟩ := by
  simp [eatText?]

theorem rest_of_eatText? {t : Text} {c d : Cursor} (h : c.eatText? t = some d) :
    c.rest = t ++ d.rest := by
  unfold eatText? at h
  split at h
  · next hstart =>
    cases h
    exact (List.prefix_iff_eq_append.1 (List.isPrefixOf_iff_prefix.1 hstart)).symm
  · cases h

end Cursor

/-! ## Finding a word -/

theorem cutLast?_append_ne_none {word : Text} (hword : word ≠ []) (before after : Text) :
    cutLast? word (before ++ word ++ after) ≠ none := by
  induction before with
  | nil =>
    obtain ⟨c, w, rfl⟩ := List.exists_cons_of_ne_nil hword
    have hp : (c :: w).isPrefixOf (c :: (w ++ after)) = true :=
      List.isPrefixOf_iff_prefix.2 (List.prefix_append (c :: w) after)
    rw [List.nil_append, List.cons_append, cutLast?]
    cases cutLast? (c :: w) (w ++ after) with
    | none => simp [hp]
    | some cut => simp
  | cons c before ih =>
    rw [List.cons_append, List.cons_append, cutLast?]
    cases h : cutLast? word (before ++ word ++ after) with
    | none => exact absurd h ih
    | some cut => simp

/-- A word is found where it stands if its last character stands nowhere else. -/
theorem cutLast?_of_once {start before after : Text} {x : Char} (hbefore : x ∉ before)
    (hstart : x ∉ start) (hafter : x ∉ after) :
    cutLast? (start ++ [x]) (before ++ (start ++ [x]) ++ after) = some (before, after) := by
  have hne : start ++ [x] ≠ [] := List.append_ne_nil_of_right_ne_nil _ (List.cons_ne_nil x [])
  cases h : cutLast? (start ++ [x]) (before ++ (start ++ [x]) ++ after) with
  | none => exact absurd h (cutLast?_append_ne_none hne before after)
  | some cut =>
    obtain ⟨b, a⟩ := cut
    have hcut : (before ++ start) ++ x :: after = (b ++ start) ++ x :: a := by
      simpa using cutLast?_eq h
    have hfront : x ∉ before ++ start := by simp [hbefore, hstart]
    obtain ⟨hb, -, ha⟩ := (List.append_cons_inj_of_notMem hfront hafter).1 hcut
    rw [List.append_left_inj] at hb
    rw [hb, ha]

end PlainReport.Text
