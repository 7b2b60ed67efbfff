import Mathlib.Data.List.Basic
import PlainReport.Proofs.Text.Classes
import PlainReport.Proofs.Text.Parts
import PlainReport.Proofs.Text.Trimming

/-!
# Pieces up to blanks

Text without the separator at the ends of a text belongs to its first or its last piece.
So trimming a text changes its pieces at their ends only (`map_trim_pieces_trim`).

Pieces that give nothing can be left out of a text (`filterMap_pieces_keepPieces`).
-/

namespace PlainReport.Text

/-! ## The ends of a text -/

theorem pieces_append_left {sep : Char} {a : Text} (ha : sep ∉ a) (t : Text) :
    ∃ first rest, pieces sep t = first :: rest ∧ pieces sep (a ++ t) = (a ++ first) :: rest := by
  induction a with
  | nil =>
    obtain ⟨first, rest, ht⟩ := List.exists_cons_of_ne_nil (pieces_ne_nil sep t)
    exact ⟨first, rest, ht, ht⟩
  | cons c a ih =>
    obtain ⟨hc, ha⟩ := not_or.1 (mt List.mem_cons.2 ha)
    obtain ⟨first, rest, ht, hat⟩ := ih ha
    obtain ⟨p, ps, hp, hcp⟩ := pieces_cons_of_ne (Ne.symm hc) (a ++ t)
    rw [hat] at hp
    cases hp
    exact ⟨first, rest, ht, hcp⟩

theorem pieces_append_right {sep : Char} {b : Text} (hb : sep ∉ b) (t : Text) :
    ∃ front last, pieces sep t = front ++ [last] ∧ pieces sep (t ++ b) = front ++ [last ++ b] := by
  induction t with
  | nil => exact ⟨[], [], rfl, pieces_of_not_mem hb⟩
  | cons c t ih =>
    obtain ⟨front, last, ht, htb⟩ := ih
    rw [List.cons_append]
    by_cases hc : c = sep
    · refine ⟨[] :: front, last, ?_, ?_⟩
      · rw [pieces, if_pos hc, ht, List.cons_append]
      · rw [pieces, if_pos hc, htb, List.cons_append]
    · obtain ⟨p, ps, hp, hcp⟩ := pieces_cons_of_ne hc t
      obtain ⟨q, qs, hq, hcq⟩ := pieces_cons_of_ne hc (t ++ b)
      rw [hcp, hcq]
      rw [hp] at ht
      rw [hq] at htb
      -- the character belongs to the last piece if it is the only one
      cases front with
      | nil =>
        cases ht
        cases htb
        exact ⟨[], c :: last, rfl, rfl⟩
      | cons first front =>
        obtain ⟨hfirst, hrest⟩ := List.cons.inj ht
        obtain ⟨hfirst', hrest'⟩ := List.cons.inj htb
        rw [hfirst, hrest, hfirst', hrest']
        exact ⟨(c :: first) :: front, last, rfl, rfl⟩

/-- Blanks after a text belong to its last piece. -/
theorem map_trim_pieces_append_blanks {sep : Char} (hsep : isBlank sep = false) (t : Text)
    {b : Text} (hb : ∀ c ∈ b, isBlank c = true) :
    (pieces sep (t ++ b)).map trim = (pieces sep t).map trim := by
  obtain ⟨front, last, hpieces, hright⟩ := pieces_append_right (not_mem_of_class hb hsep) t
  rw [hright, hpieces, List.map_append, List.map_append, List.map_singleton, List.map_singleton,
    trim_append_blanks last hb]

/-- Trimming a text changes its pieces at their ends only. -/
theorem map_trim_pieces_trim {sep : Char} (hsep : isBlank sep = false) (t : Text) :
    (pieces sep (trim t)).map trim = (pieces sep t).map trim := by
  obtain ⟨a, b, ha, hb, ht⟩ := exists_trim t
  obtain ⟨first, rest, hpieces, hleft⟩ := pieces_append_left (not_mem_of_class ha hsep) (trim t)
  have hend : (pieces sep t).map trim = (pieces sep (a ++ trim t)).map trim := by
    conv_lhs => rw [ht]
    exact map_trim_pieces_append_blanks hsep (a ++ trim t) hb
  rw [hend, hleft, hpieces, List.map_cons, List.map_cons, trim_append_of_blanks ha first]

/-! ## Leaving pieces out -/

/-- The text without the pieces that fail a test. -/
def keepPieces (sep : Char) (keep : Text → Bool) (t : Text) : Text :=
  join [sep] ((pieces sep t).filter keep)

/-- The pieces of joined texts are these texts, up to a piece of nothing. -/
theorem mem_pieces_join {sep : Char} {ts : List Text} (h : ∀ t ∈ ts, sep ∉ t) {p : Text}
    (hp : p ∈ pieces sep (join [sep] ts)) : p = [] ∨ p ∈ ts := by
  cases ts with
  | nil => exact .inl (List.mem_singleton.1 hp)
  | cons t ts =>
    rw [pieces_join (List.cons_ne_nil t ts) h] at hp
    exact .inr hp

theorem not_mem_of_mem_filter_pieces {sep : Char} {keep : Text → Bool} {t p : Text}
    (hp : p ∈ (pieces sep t).filter keep) : sep ∉ p :=
  not_mem_of_mem_pieces (List.mem_filter.1 hp).1

theorem mem_pieces_keepPieces {sep : Char} {keep : Text → Bool} {t p : Text}
    (hp : p ∈ pieces sep (keepPieces sep keep t)) : p = [] ∨ keep p = true :=
  (mem_pieces_join (fun _ => not_mem_of_mem_filter_pieces) hp).imp_right fun hmem =>
    (List.mem_filter.1 hmem).2

/-- Leaving pieces out brings nothing in. -/
theorem not_mem_keepPieces {sep x : Char} (hx : x ≠ sep) (keep : Text → Bool) {t : Text}
    (ht : x ∉ t) : x ∉ keepPieces sep keep t := by
  refine not_mem_join (mt List.mem_singleton.1 hx) fun p hp hmem => ?_
  exact ht (mem_of_mem_pieces (List.mem_filter.1 hp).1 hmem)

section

variable {β : Type} {sep : Char} {f : Text → Option β}

theorem filterMap_pieces_join (hnil : f [] = none) {ts : List Text} (h : ∀ t ∈ ts, sep ∉ t) :
    (pieces sep (join [sep] ts)).filterMap f = ts.filterMap f := by
  cases ts with
  | nil => exact List.filterMap_cons_none hnil
  | cons t ts => rw [pieces_join (List.cons_ne_nil t ts) h]

/-- Pieces that give nothing can be left out. -/
theorem filterMap_pieces_keepPieces (hnil : f [] = none) {keep : Text → Bool}
    (hkeep : ∀ p, (f p).isSome = true → keep p = true) (t : Text) :
    (pieces sep (keepPieces sep keep t)).filterMap f = (pieces sep t).filterMap f := by
  rw [keepPieces, filterMap_pieces_join hnil fun _ => not_mem_of_mem_filter_pieces,
    List.filterMap_filter]
  refine List.filterMap_congr fun p _ => ?_
  cases hp : f p with
  | none => rw [ite_self]
  | some b => rw [if_pos (hkeep p (by rw [hp]; rfl))]

end

end PlainReport.Text
