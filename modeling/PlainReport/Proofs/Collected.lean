import Mathlib.Data.List.Induction
import Mathlib.Data.List.Nodup
import PlainReport.Keyed

/-!
# Entries collected by key

A keyed list is made by putting in the entries of a list one after the other.  Its
keys are those of the list without the repeats, each where it first comes
(`keys_ofList`), and the entry of a key is the last one of the list
(`find?_ofList`).  Entries with distinct keys are kept as they stand
(`entries_ofList`).  The entries of a second list are laid over those of a first
(`ofList_append`).

A keyed list can also be a table, with one entry made for each key of a list.
`find?_table` and `putIn_table` are look-up and putting in for tables.
-/

namespace PlainReport

/-! ## Elements without repeats -/

section

variable {α : Type} [BEq α] [LawfulBEq α]

/-- A repeated element does not count. -/
theorem eraseDups_concat_of_mem {l : List α} {a : α} (h : a ∈ l) :
    (l ++ [a]).eraseDups = l.eraseDups := by
  simp [List.eraseDups_append, List.removeAll, h]

/-- A new element comes last. -/
theorem eraseDups_concat_of_not_mem {l : List α} {a : α} (h : a ∉ l) :
    (l ++ [a]).eraseDups = l.eraseDups ++ [a] := by
  simp [List.eraseDups_append, List.removeAll, h, List.eraseDups_cons]

theorem nodup_eraseDups (l : List α) : l.eraseDups.Nodup := by
  induction l using List.reverseRecOn with
  | nil => exact List.nodup_nil
  | append_singleton l a ih =>
    by_cases ha : a ∈ l
    · rwa [eraseDups_concat_of_mem ha]
    · rw [eraseDups_concat_of_not_mem ha]
      refine List.Nodup.append ih (List.nodup_singleton a) ?_
      simpa using ha

/-- Different elements stay different under an injective function. -/
theorem eraseDups_map {β : Type} [BEq β] [LawfulBEq β] {f : α → β} (hf : Function.Injective f)
    (l : List α) : (l.map f).eraseDups = l.eraseDups.map f := by
  induction l using List.reverseRecOn with
  | nil => rfl
  | append_singleton l a ih =>
    rw [List.map_append, List.map_singleton]
    by_cases ha : a ∈ l
    · rw [eraseDups_concat_of_mem (List.mem_map_of_mem ha), ih, eraseDups_concat_of_mem ha]
    · have hfa : f a ∉ l.map f := by rwa [List.mem_map_of_injective hf]
      rw [eraseDups_concat_of_not_mem hfa, ih, eraseDups_concat_of_not_mem ha, List.map_append,
        List.map_singleton]

/-- Leaving elements out leaves them out of the ones without repeats. -/
theorem eraseDups_filter (p : α → Bool) (l : List α) :
    (l.filter p).eraseDups = l.eraseDups.filter p := by
  induction l using List.reverseRecOn with
  | nil => rfl
  | append_singleton l a ih =>
    rw [List.filter_append]
    cases hp : p a with
    | false =>
      rw [List.filter_singleton, hp, cond_false, List.append_nil, ih]
      by_cases ha : a ∈ l
      · rw [eraseDups_concat_of_mem ha]
      · rw [eraseDups_concat_of_not_mem ha, List.filter_append, List.filter_singleton, hp,
          cond_false, List.append_nil]
    | true =>
      rw [List.filter_singleton, hp, cond_true]
      by_cases ha : a ∈ l
      · rw [eraseDups_concat_of_mem (List.mem_filter.2 ⟨ha, hp⟩), ih, eraseDups_concat_of_mem ha]
      · have hfa : a ∉ l.filter p := fun h => ha (List.mem_filter.1 h).1
        rw [eraseDups_concat_of_not_mem hfa, ih, eraseDups_concat_of_not_mem ha, List.filter_append,
          List.filter_singleton, hp, cond_true]

end

namespace Keyed

variable {α κ : Type} {key : α → κ}

/-! ## Look-up -/

section

variable [DecidableEq κ]

theorem key_of_find? {m : Keyed key} {k : κ} {a : α} (h : m.find? k = some a) : key a = k := by
  simpa using List.find?_some h

theorem mem_of_find? {m : Keyed key} {k : κ} {a : α} (h : m.find? k = some a) :
    a ∈ m.entries := List.mem_of_find?_eq_some h

/-- An entry is found under its key. -/
theorem find?_of_mem {m : Keyed key} {a : α} (h : a ∈ m.entries) : m.find? (key a) = some a := by
  have hc : m.contains (key a) = true :=
    (mem_keys_iff_contains m _).1 (List.mem_map_of_mem h)
  obtain ⟨b, hb⟩ := Option.isSome_iff_exists.1 hc
  have hk : key b = key a := key_of_find? hb
  rw [hb, List.inj_on_of_nodup_map m.distinct (mem_of_find? hb) h hk]

theorem find?_eq_none_iff (m : Keyed key) (k : κ) : m.find? k = none ↔ k ∉ m.keys := by
  rw [mem_keys_iff_contains, contains, Bool.not_eq_true, Option.isSome_eq_false_iff,
    Option.isNone_iff_eq_none]

/-! ## Keyed lists made from lists -/

theorem putIn_of_not_mem {a : α} {l : List α} (h : key a ∉ l.map key) :
    putIn key a l = l ++ [a] := by
  induction l with
  | nil => rfl
  | cons b rest ih =>
    rw [List.map_cons, List.mem_cons, not_or] at h
    rw [putIn, if_neg (Ne.symm h.1), ih h.2, List.cons_append]

theorem mem_putIn {a b : α} {l : List α} (h : b ∈ putIn key a l) : b = a ∨ b ∈ l := by
  induction l with
  | nil => exact .inl (List.mem_singleton.1 h)
  | cons c rest ih =>
    unfold putIn at h
    split at h
    · cases List.mem_cons.1 h with
      | inl heq => exact .inl heq
      | inr hrest => exact .inr (List.mem_cons_of_mem c hrest)
    · cases List.mem_cons.1 h with
      | inl heq => exact .inr (heq ▸ List.mem_cons_self)
      | inr hput =>
        cases ih hput with
        | inl heq => exact .inl heq
        | inr hrest => exact .inr (List.mem_cons_of_mem c hrest)

/-- A function that keeps the keys is applied before or after putting in. -/
theorem putIn_map {f : α → α} (hf : ∀ a, key (f a) = key a) (a : α) (l : List α) :
    putIn key (f a) (l.map f) = (putIn key a l).map f := by
  induction l with
  | nil => rfl
  | cons b rest ih =>
    by_cases h : key b = key a
    · simp [putIn, hf, h]
    · simp [putIn, hf, h, ih]

theorem ofList_concat (l : List α) (a : α) :
    (ofList (l ++ [a]) : Keyed key) = (ofList l).put a := by
  rw [ofList, List.foldl_append]
  rfl

theorem mem_of_mem_ofList {a : α} {l : List α} (h : a ∈ (ofList l : Keyed key).entries) :
    a ∈ l := by
  induction l using List.reverseRecOn with
  | nil => cases h
  | append_singleton l b ih =>
    rw [ofList_concat] at h
    cases mem_putIn h with
    | inl hab => exact List.mem_append_right l (List.mem_singleton.2 hab)
    | inr hold => exact List.mem_append_left [b] (ih hold)

theorem entries_ofList_map {f : α → α} (hf : ∀ a, key (f a) = key a) (l : List α) :
    (ofList (l.map f) : Keyed key).entries = (ofList l : Keyed key).entries.map f := by
  induction l using List.reverseRecOn with
  | nil => rfl
  | append_singleton l a ih =>
    rw [List.map_append, List.map_singleton, ofList_concat, ofList_concat, entries_put,
      entries_put, ih, putIn_map hf]

/-- The keys are those of the list without the repeats, each where it first comes. -/
theorem keys_ofList [BEq κ] [LawfulBEq κ] (l : List α) :
    (ofList l : Keyed key).keys = (l.map key).eraseDups := by
  induction l using List.reverseRecOn with
  | nil => rfl
  | append_singleton l a ih =>
    rw [ofList_concat, keys_put, ih, List.map_append, List.map_singleton]
    by_cases ha : key a ∈ l.map key
    · rw [if_pos (List.mem_eraseDups.2 ha), eraseDups_concat_of_mem ha]
    · rw [if_neg (mt List.mem_eraseDups.1 ha), eraseDups_concat_of_not_mem ha]

/-- The entry of a key is the last one of the list. -/
theorem find?_ofList (l : List α) (k : κ) :
    (ofList l : Keyed key).find? k = l.reverse.find? (key · = k) := by
  induction l using List.reverseRecOn with
  | nil => rfl
  | append_singleton l a ih =>
    rw [ofList_concat, find?_put, ih, List.reverse_append, List.reverse_singleton,
      List.singleton_append, List.find?_cons]
    by_cases h : key a = k <;> simp [h]

/-- Entries with distinct keys are kept as they stand. -/
theorem entries_ofList {l : List α} (h : (l.map key).Nodup) :
    (ofList l : Keyed key).entries = l := by
  induction l using List.reverseRecOn with
  | nil => rfl
  | append_singleton l a ih =>
    rw [List.map_append, List.nodup_append] at h
    obtain ⟨hl, -, hd⟩ := h
    have ha : key a ∉ l.map key := fun hm => hd _ hm _ (by simp) rfl
    rw [ofList_concat, entries_put, ih hl, putIn_of_not_mem ha]

/-! ## One list laid over another -/

/-- Keyed lists are equal if they have the same keys in the same order and find the same. -/
theorem ext_find? {m n : Keyed key} (hkeys : m.keys = n.keys)
    (hfind : ∀ k, m.find? k = n.find? k) : m = n := by
  have hentries (m : Keyed key) : m.entries.map some = m.keys.map m.find? := by
    rw [keys, List.map_map]
    exact List.map_congr_left fun a ha => (find?_of_mem ha).symm
  refine ext_entries (List.map_injective_iff.2 (fun _ _ => Option.some.inj) ?_)
  rw [hentries, hentries, hkeys]
  exact List.map_congr_left fun k _ => hfind k

section

variable (m n : Keyed key)

theorem key_getD_find? (a : α) : key ((n.find? (key a)).getD a) = key a := by
  cases h : n.find? (key a) with
  | none => rfl
  | some b => exact key_of_find? h

theorem map_key_overlay :
    (m.entries.map (fun a => (n.find? (key a)).getD a) ++
      n.entries.filter fun b => !m.contains (key b)).map key =
      m.keys ++ n.keys.filter fun k => !m.contains k := by
  rw [List.map_append, List.map_map, keys, keys, List.filter_map]
  exact congrArg (· ++ _) (List.map_congr_left fun a _ => n.key_getD_find? a)

/-- The entries of the first list, each replaced by the one of its key in the second, and then
the entries of the second with new keys. -/
def overlay : Keyed key where
  entries := m.entries.map (fun a => (n.find? (key a)).getD a) ++
    n.entries.filter fun b => !m.contains (key b)
  distinct := by
    rw [map_key_overlay]
    refine List.Nodup.append m.keys_nodup (n.keys_nodup.filter _) fun k hm hn => ?_
    have hnew := (List.mem_filter.1 hn).2
    rw [(mem_keys_iff_contains m k).1 hm] at hnew
    cases hnew

theorem keys_overlay : (m.overlay n).keys = m.keys ++ n.keys.filter fun k => !m.contains k :=
  map_key_overlay m n

/-- The second list is asked first. -/
theorem find?_overlay (k : κ) : (m.overlay n).find? k = (n.find? k).or (m.find? k) := by
  have hreplaced : (m.entries.map fun a => (n.find? (key a)).getD a).find? (key · = k) =
      (m.find? k).map fun a => (n.find? (key a)).getD a := by
    rw [List.find?_map]
    simp only [Function.comp_def, key_getD_find?]
    rfl
  rw [find?, overlay, List.find?_append, hreplaced, List.find?_filter]
  cases hm : m.find? k with
  | some a =>
    rw [Option.map_some, Option.some_or, key_of_find? hm]
    cases n.find? k with
    | none => rfl
    | some b => rfl
  | none =>
    -- the key is new, so its entry in the second list is kept
    have hnew : m.contains k = false := by rw [contains, hm]; rfl
    rw [Option.map_none, Option.none_or, Option.or_none]
    refine congrArg (List.find? · n.entries) (funext fun b => ?_)
    by_cases hb : key b = k
    · simp [hb, hnew]
    · simp [hb]

end

theorem ofList_append (l others : List α) :
    (ofList (l ++ others) : Keyed key) = (ofList l).overlay (ofList others) := by
  refine ext_find? ?_ fun k => ?_
  · have hkept : ((others.map key).filter fun k => !(l.map key).elem k) =
        (others.map key).filter fun k => !(ofList l : Keyed key).contains k := by
      refine List.filter_congr fun k _ => congrArg (!·) ?_
      rw [Bool.eq_iff_iff, List.elem_iff, ← mem_keys_iff_contains, keys_ofList, List.mem_eraseDups]
    rw [keys_overlay, keys_ofList, keys_ofList, keys_ofList, List.map_append,
      List.eraseDups_append, List.removeAll, hkept, eraseDups_filter]
  · rw [find?_overlay, find?_ofList, find?_ofList, find?_ofList, List.reverse_append,
      List.find?_append]

/-! ## Tables -/

/-- A key of a table finds its entry. -/
theorem find?_table {f : κ → α} (hf : ∀ k, key (f k) = k) {ks : List κ} {k : κ} (hk : k ∈ ks) :
    (ks.map f).find? (key · = k) = some (f k) := by
  induction ks with
  | nil => cases hk
  | cons j ks ih =>
    by_cases h : j = k
    · subst h
      simp [hf]
    · have hk' : k ∈ ks := (List.mem_cons.1 hk).resolve_left fun e => h e.symm
      simp only [List.map_cons, List.find?_cons, hf, h, decide_false, ih hk']

theorem find?_table_of_not_mem {f : κ → α} (hf : ∀ k, key (f k) = k) {ks : List κ} {k : κ}
    (hk : k ∉ ks) : (ks.map f).find? (key · = k) = none := by
  refine List.find?_eq_none.2 fun a ha => ?_
  obtain ⟨j, hj, rfl⟩ := List.mem_map.1 ha
  rw [hf, decide_eq_true_eq]
  rintro rfl
  exact hk hj

/-- An entry put into a table takes the place of the one of its key. -/
theorem putIn_table {f : κ → α} (hf : ∀ k, key (f k) = k) {ks : List κ} (hks : ks.Nodup) {a : α}
    (ha : key a ∈ ks) :
    putIn key a (ks.map f) = ks.map fun k => if k = key a then a else f k := by
  induction ks with
  | nil => cases ha
  | cons j ks ih =>
    obtain ⟨hj, hks⟩ := List.nodup_cons.1 hks
    by_cases h : j = key a
    · -- the other keys differ from this one, so the rest of the table stays
      have hrest : ∀ k ∈ ks, (if k = key a then a else f k) = f k := by
        intro k hk
        refine if_neg fun e => hj ?_
        rwa [h, ← e]
      rw [List.map_cons, putIn, if_pos ((hf j).trans h), List.map_cons, if_pos h,
        List.map_congr_left hrest]
    · have ha' : key a ∈ ks := (List.mem_cons.1 ha).resolve_left fun e => h e.symm
      rw [List.map_cons, putIn, if_neg fun e => h ((hf j).symm.trans e), ih hks ha',
        List.map_cons, if_neg h]

theorem putIn_table_of_not_mem {f : κ → α} (hf : ∀ k, key (f k) = k) {ks : List κ} {a : α}
    (ha : key a ∉ ks) : putIn key a (ks.map f) = ks.map f ++ [a] := by
  refine putIn_of_not_mem ?_
  rw [List.map_map, show key ∘ f = id from funext hf, List.map_id]
  exact ha

end

end Keyed

end PlainReport
