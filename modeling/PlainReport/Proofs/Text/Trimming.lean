import Mathlib.Data.List.TakeWhile
import PlainReport.Text.Blank

/-!
# Trimming

A text is solid at an end when it has a character there that is no blank.  A text
that is solid at both ends is what trimming leaves of it among any blanks
(`trim_padded`), and what trimming leaves is empty or solid at both ends
(`solid_trim`).  Joined texts are solid where the first and the last of them are
(`beginsSolid_join_of_head`, `endsSolid_join_of_last`).
-/

namespace PlainReport.Text

/-! ## Solid ends -/

/-- The text begins with a character that is no blank. -/
def BeginsSolid (t : Text) : Prop := ∃ c rest, t = c :: rest ∧ isBlank c = false

/-- The text ends in a character that is no blank. -/
def EndsSolid (t : Text) : Prop := ∃ rest c, t = rest ++ [c] ∧ isBlank c = false

theorem BeginsSolid.append {t : Text} (h : BeginsSolid t) (u : Text) : BeginsSolid (t ++ u) := by
  obtain ⟨c, rest, rfl, hc⟩ := h
  exact ⟨c, rest ++ u, rfl, hc⟩

theorem EndsSolid.append_left {u : Text} (h : EndsSolid u) (t : Text) : EndsSolid (t ++ u) := by
  obtain ⟨rest, c, rfl, hc⟩ := h
  exact ⟨t ++ rest, c, by rw [List.append_assoc], hc⟩

theorem BeginsSolid.head?_eq {t : Text} (h : BeginsSolid t) {c : Char} (hc : c ∈ t.head?) :
    isBlank c = false := by
  obtain ⟨d, rest, rfl, hd⟩ := h
  cases hc
  exact hd

/-- A text without blanks is solid at both ends, unless it is empty. -/
theorem beginsSolid_of_forall {t : Text} (hne : t ≠ []) (h : ∀ c ∈ t, isBlank c = false) :
    BeginsSolid t := by
  obtain ⟨c, rest, rfl⟩ := List.exists_cons_of_ne_nil hne
  exact ⟨c, rest, rfl, h c List.mem_cons_self⟩

theorem endsSolid_of_forall {t : Text} (hne : t ≠ []) (h : ∀ c ∈ t, isBlank c = false) :
    EndsSolid t := by
  refine ⟨t.dropLast, t.getLast hne, (List.dropLast_concat_getLast hne).symm, ?_⟩
  exact h _ (List.getLast_mem hne)

/-- A text that is solid somewhere is not blank. -/
theorem isAllBlank_of_beginsSolid {t : Text} (h : BeginsSolid t) (b : Text) :
    isAllBlank (b ++ t) = false := by
  obtain ⟨c, rest, rfl, hc⟩ := h
  simp [isAllBlank, hc]

/-! ## Cutting off blanks -/

theorem trimStart_append {a t : Text} (ha : ∀ c ∈ a, isBlank c = true) (ht : BeginsSolid t) :
    trimStart (a ++ t) = t := by
  obtain ⟨c, rest, rfl, hc⟩ := ht
  rw [trimStart, List.dropWhile_append_of_pos ha, List.dropWhile_cons_of_neg (by simp [hc])]

theorem trimEnd_append {t b : Text} (hb : ∀ c ∈ b, isBlank c = true) (ht : EndsSolid t) :
    trimEnd (t ++ b) = t := by
  obtain ⟨rest, c, rfl, hc⟩ := ht
  have hb' : ∀ x ∈ b.reverse, isBlank x = true := fun x hx => hb x (List.mem_reverse.1 hx)
  rw [trimEnd, List.reverse_append, List.dropWhile_append_of_pos hb', List.reverse_append,
    List.reverse_singleton, List.singleton_append, List.dropWhile_cons_of_neg (by simp [hc]),
    List.reverse_cons, List.reverse_reverse]

/-- Trimming takes the blanks around a text away. -/
theorem trim_padded {a t b : Text} (ha : ∀ c ∈ a, isBlank c = true) (hb : ∀ c ∈ b, isBlank c = true)
    (hbegin : BeginsSolid t) (hend : EndsSolid t) : trim (a ++ t ++ b) = t := by
  rw [trim, List.append_assoc, trimStart_append ha (hbegin.append b), trimEnd_append hb hend]

theorem trim_of_solid {t : Text} (hbegin : BeginsSolid t) (hend : EndsSolid t) : trim t = t := by
  have h := trim_padded (a := []) (b := []) nofun nofun hbegin hend
  rwa [List.nil_append, List.append_nil] at h

theorem trim_space (t : Text) : trim (' ' :: t) = trim t := rfl

theorem trim_append_of_blanks {a : Text} (ha : ∀ c ∈ a, isBlank c = true) (t : Text) :
    trim (a ++ t) = trim t := by
  rw [trim, trim, trimStart, trimStart, List.dropWhile_append_of_pos ha]

theorem trimEnd_append_of_blanks (t : Text) {b : Text} (hb : ∀ c ∈ b, isBlank c = true) :
    trimEnd (t ++ b) = trimEnd t := by
  have hb' : ∀ x ∈ b.reverse, isBlank x = true := fun x hx => hb x (List.mem_reverse.1 hx)
  rw [trimEnd, trimEnd, List.reverse_append, List.dropWhile_append_of_pos hb']

/-- Blanks after a text do not count. -/
theorem trim_append_blanks (t : Text) {b : Text} (hb : ∀ c ∈ b, isBlank c = true) :
    trim (t ++ b) = trim t := by
  rw [trim, trim, trimStart, trimStart, List.dropWhile_append]
  split
  · next hempty =>
    rw [List.dropWhile_eq_nil_iff.2 hb, List.isEmpty_iff.1 hempty]
  · exact trimEnd_append_of_blanks _ hb

theorem trim_among_blanks {a b : Text} (ha : ∀ c ∈ a, isBlank c = true)
    (hb : ∀ c ∈ b, isBlank c = true) (t : Text) : trim (a ++ t ++ b) = trim t := by
  rw [trim_append_blanks _ hb, trim_append_of_blanks ha]

theorem trimEnd_of_endsSolid {t : Text} (hend : EndsSolid t) : trimEnd t = t := by
  have h := trimEnd_append (b := []) nofun hend
  rwa [List.append_nil] at h

theorem trim_trimStart (t : Text) : trim (trimStart t) = trim t := by
  have h := trim_append_of_blanks (a := t.takeWhile isBlank) (fun _ => List.mem_takeWhile_imp)
    (trimStart t)
  rwa [trimStart, List.takeWhile_append_dropWhile, eq_comm] at h

/-! ## What trimming leaves -/

theorem trimStart_solid (t : Text) : trimStart t = [] ∨ BeginsSolid (trimStart t) := by
  induction t with
  | nil => exact .inl rfl
  | cons c t ih =>
    cases hc : isBlank c with
    | false =>
      rw [trimStart, List.dropWhile_cons_of_neg (by simp [hc])]
      exact .inr ⟨c, t, rfl, hc⟩
    | true =>
      rw [trimStart, List.dropWhile_cons_of_pos hc]
      exact ih

theorem trimEnd_solid (t : Text) : trimEnd t = [] ∨ EndsSolid (trimEnd t) := by
  cases trimStart_solid t.reverse with
  | inl h =>
    rw [trimStart] at h
    exact .inl (by rw [trimEnd, h, List.reverse_nil])
  | inr h =>
    obtain ⟨c, rest, hc, hb⟩ := h
    rw [trimStart] at hc
    exact .inr ⟨rest.reverse, c, by rw [trimEnd, hc, List.reverse_cons], hb⟩

/-- Trimming at the end takes blanks away. -/
theorem trimEnd_append_blanks (t : Text) :
    ∃ b, (∀ c ∈ b, isBlank c = true) ∧ trimEnd t ++ b = t := by
  refine ⟨(t.reverse.takeWhile isBlank).reverse, fun c hc => ?_, ?_⟩
  · exact List.mem_takeWhile_imp (List.mem_reverse.1 hc)
  · rw [trimEnd, ← List.reverse_append, List.takeWhile_append_dropWhile, List.reverse_reverse]

theorem trimEnd_subset (t : Text) : trimEnd t ⊆ t := by
  obtain ⟨b, -, ht⟩ := trimEnd_append_blanks t
  intro x hx
  exact ht ▸ List.mem_append_left b hx

theorem length_trimEnd_le (t : Text) : (trimEnd t).length ≤ t.length := by
  obtain ⟨b, -, ht⟩ := trimEnd_append_blanks t
  have hlength := congrArg List.length ht
  rw [List.length_append] at hlength
  omega

theorem trimEnd_append_cons (t : Text) {x : Char} (hx : isBlank x = false) (u : Text) :
    trimEnd (t ++ x :: u) = t ++ x :: trimEnd u := by
  obtain ⟨b, hb, hu⟩ := trimEnd_append_blanks u
  have hend : EndsSolid (t ++ x :: trimEnd u) := by
    cases trimEnd_solid u with
    | inl hnil => exact ⟨t, x, by rw [hnil], hx⟩
    | inr hsolid => exact (hsolid.append_left [x]).append_left t
  have h := trimEnd_append hb hend
  rwa [List.append_assoc, List.cons_append, hu] at h

/-- Between a text that is not blank and one after a sign, trimming takes nothing away. -/
theorem trim_append_cons {t : Text} (ht : isAllBlank t = false) {x : Char}
    (hx : isBlank x = false) (u : Text) : trim (t ++ x :: u) = trimStart t ++ x :: trimEnd u := by
  have hstart : (t.dropWhile isBlank).isEmpty = false := by
    rw [List.isEmpty_eq_false_iff, ne_eq, List.dropWhile_eq_nil_iff, ← List.all_eq_true]
    rwa [Bool.not_eq_true]
  rw [trim, trimStart, List.dropWhile_append, hstart]
  exact trimEnd_append_cons _ hx u

/-- A text is what trimming leaves of it among blanks. -/
theorem exists_trim (t : Text) : ∃ a b : Text, (∀ c ∈ a, isBlank c = true) ∧
    (∀ c ∈ b, isBlank c = true) ∧ t = a ++ trim t ++ b := by
  obtain ⟨b, hb, hend⟩ := trimEnd_append_blanks (trimStart t)
  refine ⟨t.takeWhile isBlank, b, fun c => List.mem_takeWhile_imp, hb, ?_⟩
  rw [trim, List.append_assoc, hend, trimStart, List.takeWhile_append_dropWhile]

/-- Nothing is left of a text of blanks only. -/
theorem trim_eq_nil_iff {t : Text} : trim t = [] ↔ isAllBlank t = true := by
  rw [isAllBlank, List.all_eq_true]
  constructor
  · intro hnil
    obtain ⟨a, b, ha, hb, ht⟩ := exists_trim t
    rw [hnil, List.append_nil] at ht
    intro c hc
    rw [ht] at hc
    exact (List.mem_append.1 hc).elim (ha c) (hb c)
  · intro hblank
    have h := trim_append_of_blanks hblank []
    rwa [List.append_nil] at h

theorem isEmpty_trim (t : Text) : (trim t).isEmpty = isAllBlank t := by
  rw [Bool.eq_iff_iff, List.isEmpty_iff]
  exact trim_eq_nil_iff

theorem trim_subset (t : Text) : trim t ⊆ t := by
  obtain ⟨a, b, -, -, ht⟩ := exists_trim t
  intro x hx
  rw [ht]
  exact List.mem_append_left b (List.mem_append_right a hx)

/-- What trimming leaves is solid at both ends, unless nothing is left. -/
theorem solid_trim {t : Text} (hne : trim t ≠ []) : BeginsSolid (trim t) ∧ EndsSolid (trim t) := by
  refine ⟨?_, (trimEnd_solid (trimStart t)).resolve_left hne⟩
  -- cutting at the end leaves the first character of a text that is not empty
  obtain ⟨b, -, hb⟩ := trimEnd_append_blanks (trimStart t)
  change trim t ++ b = trimStart t at hb
  obtain ⟨c, rest, hc⟩ := List.exists_cons_of_ne_nil hne
  rw [hc] at hb ⊢
  cases trimStart_solid t with
  | inl hnil =>
    rw [hnil] at hb
    cases hb
  | inr hbegin =>
    obtain ⟨d, tail, hd, hsolid⟩ := hbegin
    rw [hd] at hb
    cases hb
    exact ⟨c, rest, rfl, hsolid⟩

/-- A trimmed text is solid at both ends, unless it is empty. -/
theorem solid_of_trim_eq {t : Text} (h : trim t = t) (hne : t ≠ []) :
    BeginsSolid t ∧ EndsSolid t := by
  rw [← h] at hne ⊢
  exact solid_trim hne

/-- Trimming is done at once. -/
theorem trim_trim (t : Text) : trim (trim t) = trim t := by
  by_cases h : trim t = []
  · rw [h]
    rfl
  · obtain ⟨hbegin, hend⟩ := solid_trim h
    exact trim_of_solid hbegin hend

/-! ## Joined texts -/

theorem beginsSolid_join {joiner t : Text} (h : BeginsSolid t) (ts : List Text) :
    BeginsSolid (join joiner (t :: ts)) := by
  cases ts with
  | nil => exact h
  | cons u us =>
    show BeginsSolid (t ++ joiner ++ join joiner (u :: us))
    rw [List.append_assoc]
    exact h.append _

theorem endsSolid_join {joiner : Text} {ts : List Text} (hne : ts ≠ [])
    (h : ∀ t ∈ ts, EndsSolid t) : EndsSolid (join joiner ts) := by
  induction ts with
  | nil => exact absurd rfl hne
  | cons t ts ih =>
    cases ts with
    | nil => exact h t List.mem_cons_self
    | cons u us =>
      have hrest := ih (List.cons_ne_nil u us) fun v hv => h v (List.mem_cons_of_mem t hv)
      exact hrest.append_left (t ++ joiner)

/-- Texts joined by a sign begin with no blank, if the first of them does not. -/
theorem beginsSolid_join_of_head {x : Char} (hx : isBlank x = false) {ts : List Text}
    (hne : ts ≠ []) (hempty : ts ≠ [[]])
    (h : ∀ c ∈ ts.head?.bind List.head?, isBlank c = false) : BeginsSolid (join [x] ts) := by
  obtain ⟨t, ts, rfl⟩ := List.exists_cons_of_ne_nil hne
  cases t with
  | cons c t => exact beginsSolid_join ⟨c, t, rfl, h c rfl⟩ ts
  | nil =>
    cases ts with
    | nil => exact absurd rfl hempty
    | cons u us => exact ⟨x, join [x] (u :: us), rfl, hx⟩

/-- Texts joined by a sign end in no blank, if the last of them does not. -/
theorem endsSolid_join_of_last {x : Char} (hx : isBlank x = false) {ts : List Text}
    (hne : ts ≠ []) (hempty : ts ≠ [[]])
    (h : ∀ c ∈ ts.getLast?.bind List.getLast?, isBlank c = false) : EndsSolid (join [x] ts) := by
  induction ts with
  | nil => exact absurd rfl hne
  | cons t ts ih =>
    cases ts with
    | nil =>
      have ht : t ≠ [] := fun he => hempty (by rw [he])
      refine ⟨t.dropLast, t.getLast ht, (List.dropLast_concat_getLast ht).symm, h _ ?_⟩
      exact List.getLast?_eq_some_getLast ht
    | cons u us =>
      by_cases hlast : u :: us = [[]]
      · -- the sign itself comes last
        rw [hlast]
        exact ⟨t, x, by simp [join], hx⟩
      · have hrest : EndsSolid (join [x] (u :: us)) := by
          refine ih (List.cons_ne_nil u us) hlast fun c hc => h c ?_
          rwa [List.getLast?_cons_cons]
        exact hrest.append_left (t ++ [x])

end PlainReport.Text
