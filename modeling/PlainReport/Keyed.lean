/-!
# Keyed lists

A list of entries no two of which have the same key.  The entries stand in the
order in which their keys first came.  Putting in an entry whose key is present
replaces the old entry in its place, and any other entry goes to the end.

`keys_put` says what putting does to the keys and `find?_put` what it does to
look-up.
-/

namespace PlainReport

/-- A list of entries with distinct keys. -/
structure Keyed {α κ : Type} (key : α → κ) where
  /-- The entries, in the order in which their keys first came. -/
  entries : List α
  /-- No key occurs twice. -/
  distinct : (entries.map key).Nodup

namespace Keyed

variable {α κ : Type} {key : α → κ}

/-- Two keyed lists are equal when their entries are. -/
theorem ext_entries {m n : Keyed key} (h : m.entries = n.entries) : m = n := by
  cases m
  cases n
  cases h
  rfl

instance [DecidableEq α] : DecidableEq (Keyed key) := fun x y =>
  if h : x.entries = y.entries then
    .isTrue (ext_entries h)
  else .isFalse fun e => h (e ▸ rfl)

/-- No entries. -/
def empty : Keyed key := ⟨[], List.nodup_nil⟩

/-- The keys, in the order in which they first came. -/
def keys (m : Keyed key) : List κ := m.entries.map key

/-- The number of entries. -/
def size (m : Keyed key) : Nat := m.entries.length

/-- Whether there are no entries. -/
def isEmpty (m : Keyed key) : Bool := m.entries.isEmpty

theorem keys_nodup (m : Keyed key) : m.keys.Nodup := m.distinct

@[simp] theorem keys_empty : (empty : Keyed key).keys = [] := rfl

variable [DecidableEq κ]

/-- Replaces the entry of the same key in its place, or adds the entry at the end. -/
def putIn (key : α → κ) (a : α) : List α → List α
  | [] => [a]
  | b :: rest => if key b = key a then a :: rest else b :: putIn key a rest

theorem map_putIn (a : α) (l : List α) :
    (putIn key a l).map key = if key a ∈ l.map key then l.map key else l.map key ++ [key a] := by
  induction l with
  | nil => simp [putIn]
  | cons b rest ih =>
    by_cases h : key b = key a
    · simp [putIn, h]
    · have h' : key a ≠ key b := fun e => h e.symm
      simp only [putIn, h, if_false, List.map_cons, ih, List.mem_cons, h', false_or]
      split <;> simp

theorem nodup_putIn (a : α) {l : List α} (h : (l.map key).Nodup) :
    ((putIn key a l).map key).Nodup := by
  rw [map_putIn]
  split
  · exact h
  · rename_i ha
    exact List.nodup_append.2 ⟨h, by simp, fun x hx y hy => by simp_all [ne_of_mem_of_not_mem hx]⟩

/-- Puts an entry in. -/
def put (m : Keyed key) (a : α) : Keyed key := ⟨putIn key a m.entries, nodup_putIn a m.distinct⟩

/-- Puts in the entries of a list, one after the other. -/
def ofList (l : List α) : Keyed key := l.foldl put empty

/-- The entry with a key. -/
def find? (m : Keyed key) (k : κ) : Option α := m.entries.find? (key · = k)

/-- Whether there is an entry with a key. -/
def contains (m : Keyed key) (k : κ) : Bool := (m.find? k).isSome

/-! ## Laws -/

@[simp] theorem entries_put (m : Keyed key) (a : α) : (m.put a).entries = putIn key a m.entries :=
  rfl

/-- Putting in keeps the keys if the key is among them, and else adds it at the end. -/
theorem keys_put (m : Keyed key) (a : α) :
    (m.put a).keys = if key a ∈ m.keys then m.keys else m.keys ++ [key a] :=
  map_putIn a m.entries

theorem find?_putIn (a : α) (l : List α) (k : κ) :
    (putIn key a l).find? (key · = k) = if key a = k then some a else l.find? (key · = k) := by
  induction l with
  | nil => by_cases h : key a = k <;> simp [putIn, h]
  | cons b rest ih =>
    by_cases hb : key b = key a
    · by_cases h : key a = k <;> simp [putIn, hb, h]
    · by_cases h : key a = k
      · have hk : key b ≠ k := fun e => hb (e.trans h.symm)
        simp [putIn, hk, ih, h]
      · simp only [putIn, if_neg hb, List.find?_cons, ih, if_neg h]

/-- The entry that was put in is found under its key, and all others as before. -/
theorem find?_put (m : Keyed key) (a : α) (k : κ) :
    (m.put a).find? k = if key a = k then some a else m.find? k :=
  find?_putIn a m.entries k

@[simp] theorem find?_empty (k : κ) : (empty : Keyed key).find? k = none := rfl

theorem mem_keys_iff_contains (m : Keyed key) (k : κ) : k ∈ m.keys ↔ m.contains k = true := by
  simp [keys, contains, find?, List.find?_isSome]

end Keyed

end PlainReport
