import Mathlib.Data.Finset.Card
import PlainReport.Proofs.Collected
import PlainReport.Row

/-!
# Rows and schemas in an ordered map

Rows and schemas keep their entries in an ordered map, which comes from elsewhere.
`OrderedMap` has the operations of such a map that they use, and `OrderedMap.Lawful` says what
each operation does when it is done once.

What a map holds after many insertions follows by induction (`holds_insertAll`).  It holds the
keys in the order in which they first came, and the last value of every key.  So a row has for
every name the value that was put in last, and a schema the last definition, whatever lawful map
they are kept in (`rows_and_schemas_faithful`).

Keyed lists are a lawful map (`Keyed.orderedMap_lawful`), and in any other one rows and schemas
are the same.
-/

namespace PlainReport

/-! ## The map -/

/-- The operations of an ordered map. -/
structure OrderedMap (κ ν : Type) where
  /-- The maps. -/
  Map : Type
  /-- The map without entries. -/
  empty : Map
  /-- Puts a value under a key. -/
  insert : Map → κ → ν → Map
  /-- Puts in the entries of a list. -/
  extend : Map → List (κ × ν) → Map
  /-- The value under a key. -/
  get? : Map → κ → Option ν
  /-- Whether there is a value under a key. -/
  contains : Map → κ → Bool
  /-- The keys in their order. -/
  keys : Map → List κ
  /-- The values in the order of their keys. -/
  values : Map → List ν
  /-- The number of entries. -/
  size : Map → Nat

namespace OrderedMap

variable {α κ ν : Type}

/-- What the operations do. -/
structure Lawful (M : OrderedMap κ ν) : Prop where
  /-- At first there are no keys. -/
  keys_empty : M.keys M.empty = []
  /-- At first there are no values. -/
  get?_empty : ∀ k, M.get? M.empty k = none
  /-- A key that is there keeps its place. -/
  keys_insert_of_mem : ∀ m k v, k ∈ M.keys m → M.keys (M.insert m k v) = M.keys m
  /-- Another key comes last. -/
  keys_insert_of_not_mem : ∀ m k v, k ∉ M.keys m → M.keys (M.insert m k v) = M.keys m ++ [k]
  /-- The value put in replaces that of its key. -/
  get?_insert_self : ∀ m k v, M.get? (M.insert m k v) k = some v
  /-- The values of other keys stay. -/
  get?_insert_of_ne : ∀ m k v other, other ≠ k → M.get? (M.insert m k v) other = M.get? m other
  /-- No entries change nothing. -/
  extend_nil : ∀ m, M.extend m [] = m
  /-- Of several entries the first is put in first. -/
  extend_cons : ∀ m k v l, M.extend m ((k, v) :: l) = M.extend (M.insert m k v) l
  /-- There are values under the keys. -/
  contains_iff_mem : ∀ m k, M.contains m k = true ↔ k ∈ M.keys m
  /-- The values are those under the keys. -/
  values_eq : ∀ m, M.values m = (M.keys m).filterMap (M.get? m)
  /-- There are as many entries as keys. -/
  size_eq : ∀ m, M.size m = (M.keys m).length

variable (M : OrderedMap κ ν) (key : α → κ) (value : α → ν)

/-- Puts in what is listed, one after the other. -/
def insertAll (m : M.Map) (l : List α) : M.Map :=
  l.foldl (fun m a => M.insert m (key a) (value a)) m

/-- Whether a map holds the keys of a list in the order in which they first came, and under each
the last value. -/
structure Holds [DecidableEq κ] [BEq κ] (l : List α) (m : M.Map) : Prop where
  /-- The keys stand in the order in which they first came. -/
  keys : M.keys m = (l.map key).eraseDups
  /-- Under a key stands its last value. -/
  get? : ∀ k, M.get? m k = ((l.filter (key · = k)).getLast?).map value

variable {M key value}

/-- Extending a map puts in the entries one after the other. -/
theorem Lawful.extend_eq_insertAll (hM : M.Lawful) (m : M.Map) (l : List α) :
    M.extend m (l.map fun a => (key a, value a)) = M.insertAll key value m l := by
  induction l generalizing m with
  | nil => exact hM.extend_nil m
  | cons a l ih => exact (hM.extend_cons ..).trans (ih _)

variable [DecidableEq κ] [BEq κ] [LawfulBEq κ] {l : List α} {m : M.Map}

/-- One more insertion. -/
theorem Holds.insert (hM : M.Lawful) (h : M.Holds key value l m) (a : α) :
    M.Holds key value (l ++ [a]) (M.insert m (key a) (value a)) := by
  constructor
  case keys =>
    rw [List.map_append, List.map_singleton]
    by_cases ha : key a ∈ l.map key
    · have hmem : key a ∈ M.keys m := h.keys ▸ List.mem_eraseDups.2 ha
      rw [hM.keys_insert_of_mem _ _ _ hmem, h.keys, eraseDups_concat_of_mem ha]
    · have hmem : key a ∉ M.keys m := fun hm => ha (List.mem_eraseDups.1 (h.keys ▸ hm))
      rw [hM.keys_insert_of_not_mem _ _ _ hmem, h.keys, eraseDups_concat_of_not_mem ha]
  case get? =>
    intro k
    rw [List.filter_append]
    by_cases hk : k = key a
    · rw [hk, hM.get?_insert_self, List.filter_singleton, decide_eq_true rfl]
      simp
    · rw [hM.get?_insert_of_ne _ _ _ _ hk, h.get?, List.filter_singleton,
        decide_eq_false (Ne.symm hk)]
      simp

/-- All insertions, by induction on the last. -/
theorem holds_insertAll (hM : M.Lawful) (l : List α) :
    M.Holds key value l (M.insertAll key value M.empty l) := by
  induction l using List.reverseRecOn with
  | nil => exact ⟨hM.keys_empty, hM.get?_empty⟩
  | append_singleton l a ih =>
    rw [insertAll, List.foldl_concat]
    exact ih.insert hM a

theorem Holds.nodup_keys (h : M.Holds key value l m) : (M.keys m).Nodup :=
  h.keys ▸ nodup_eraseDups _

theorem Holds.contains_eq_isSome (hM : M.Lawful) (h : M.Holds key value l m) (k : κ) :
    M.contains m k = (M.get? m k).isSome := by
  rw [Bool.eq_iff_iff, hM.contains_iff_mem, h.keys, List.mem_eraseDups, h.get?]
  simp

theorem Holds.size_eq_card (hM : M.Lawful) (h : M.Holds key value l m) :
    M.size m = (l.map key).toFinset.card := by
  have hkeys : (M.keys m).toFinset = (l.map key).toFinset := by
    ext k
    rw [List.mem_toFinset, List.mem_toFinset, h.keys, List.mem_eraseDups]
  rw [hM.size_eq, ← List.toFinset_card_of_nodup h.nodup_keys, hkeys]

end OrderedMap

/-! ## Rows and schemas -/

/-- A row kept in an ordered map. -/
structure MapRow (M : OrderedMap Text Value) where
  /-- The values under their names. -/
  values : M.Map

namespace MapRow

variable {M : OrderedMap Text Value}

/-- No cells. -/
def empty : MapRow M := ⟨M.empty⟩

/-- The value of a column. -/
def value? (row : MapRow M) (name : Text) : Option Value := M.get? row.values name

/-- Sets a cell. -/
def insert (row : MapRow M) (name : Text) (value : Value) : MapRow M :=
  ⟨M.insert row.values name value⟩

/-- Whether there is a cell of a column. -/
def contains (row : MapRow M) (name : Text) : Bool := M.contains row.values name

/-- The names of the columns. -/
def names (row : MapRow M) : List Text := M.keys row.values

/-- The number of cells. -/
def size (row : MapRow M) : Nat := M.size row.values

/-- The row of some cells. -/
def collect (cells : List Cell) : MapRow M :=
  ⟨M.extend M.empty (cells.map fun cell => (cell.name, cell.value))⟩

/-- The row that comes of inserting cells one after the other. -/
def ofInsertions (cells : List Cell) : MapRow M :=
  cells.foldl (fun row cell => row.insert cell.name cell.value) empty

/-- Whether a row is the ordered map of some cells. -/
structure Faithful (row : MapRow M) (cells : List Cell) : Prop where
  /-- No name stands twice. -/
  nodup_names : row.names.Nodup
  /-- Names stand in the order in which they first came. -/
  names_eq : row.names = (cells.map Cell.name).eraseDups
  /-- Under a name stands its last value, and none under a name that never came. -/
  value?_eq : ∀ name,
    row.value? name = ((cells.filter (·.name = name)).getLast?).map Cell.value
  /-- There is a cell of every name with a value. -/
  contains_eq : ∀ name, row.contains name = (row.value? name).isSome
  /-- There are as many cells as different names. -/
  size_eq : row.size = (cells.map Cell.name).toFinset.card

theorem values_ofInsertions (cells : List Cell) :
    (ofInsertions cells : MapRow M).values =
      M.insertAll Cell.name Cell.value M.empty cells := by
  induction cells using List.reverseRecOn with
  | nil => rfl
  | append_singleton cells cell ih =>
    rw [ofInsertions, List.foldl_concat, OrderedMap.insertAll, List.foldl_concat]
    exact congrArg (M.insert · cell.name cell.value) ih

theorem holds_ofInsertions (hM : M.Lawful) (cells : List Cell) :
    M.Holds Cell.name Cell.value cells (ofInsertions cells : MapRow M).values :=
  values_ofInsertions (M := M) cells ▸ OrderedMap.holds_insertAll hM cells

theorem faithful_ofInsertions (hM : M.Lawful) (cells : List Cell) :
    (ofInsertions cells : MapRow M).Faithful cells := by
  have h := holds_ofInsertions hM cells
  exact ⟨h.nodup_keys, h.keys, h.get?, h.contains_eq_isSome hM, h.size_eq_card hM⟩

theorem collect_eq_ofInsertions (hM : M.Lawful) (cells : List Cell) :
    (collect cells : MapRow M) = ofInsertions cells := by
  have hvalues := (hM.extend_eq_insertAll M.empty cells).trans (values_ofInsertions cells).symm
  exact congrArg MapRow.mk hvalues

end MapRow

/-- A schema kept in an ordered map. -/
structure MapSchema (M : OrderedMap Text Column) where
  /-- The columns under their names. -/
  columns : M.Map

namespace MapSchema

variable {M : OrderedMap Text Column}

/-- The schema of some columns. -/
def ofColumns (columns : List Column) : MapSchema M :=
  ⟨M.extend M.empty (columns.map fun column => (column.name, column))⟩

/-- The column with a name. -/
def find? (schema : MapSchema M) (name : Text) : Option Column := M.get? schema.columns name

/-- Whether there is a column with a name. -/
def contains (schema : MapSchema M) (name : Text) : Bool := M.contains schema.columns name

/-- The names. -/
def names (schema : MapSchema M) : List Text := M.keys schema.columns

/-- The columns in their order. -/
def toList (schema : MapSchema M) : List Column := M.values schema.columns

/-- Whether a schema is the ordered map of some columns. -/
structure Faithful (schema : MapSchema M) (columns : List Column) : Prop where
  /-- No name stands twice. -/
  nodup_names : schema.names.Nodup
  /-- Names stand in the order in which they first came. -/
  names_eq : schema.names = (columns.map Column.name).eraseDups
  /-- Under a name stands its last definition. -/
  find?_eq : ∀ name, schema.find? name = (columns.filter (·.name = name)).getLast?
  /-- There is a column of every name with a definition. -/
  contains_eq : ∀ name, schema.contains name = (schema.find? name).isSome
  /-- The columns stand in the order of their names. -/
  toList_eq : schema.toList = schema.names.filterMap schema.find?
  /-- A column stands under its own name. -/
  name_of_find? : ∀ name column, schema.find? name = some column → column.name = name

theorem holds_ofColumns (hM : M.Lawful) (columns : List Column) :
    M.Holds Column.name id columns (ofColumns columns : MapSchema M).columns := by
  have hcolumns : (ofColumns columns : MapSchema M).columns =
      M.insertAll Column.name id M.empty columns := hM.extend_eq_insertAll M.empty columns
  exact hcolumns ▸ OrderedMap.holds_insertAll hM columns

theorem faithful_ofColumns (hM : M.Lawful) (columns : List Column) :
    (ofColumns columns : MapSchema M).Faithful columns := by
  have h := holds_ofColumns hM columns
  have hfind : ∀ name, (ofColumns columns : MapSchema M).find? name =
      (columns.filter (·.name = name)).getLast? :=
    fun name => (h.get? name).trans Option.map_id_apply
  refine ⟨h.nodup_keys, h.keys, hfind, h.contains_eq_isSome hM, hM.values_eq _, ?_⟩
  intro name column hcolumn
  have hmem := List.mem_of_getLast? ((hfind name).symm.trans hcolumn)
  exact of_decide_eq_true (List.mem_filter.1 hmem).2

end MapSchema

/-! ## Keyed lists -/

namespace Keyed

variable {α κ ν : Type} {key : α → κ} {value : α → ν} {make : κ → ν → α}

theorem size_eq_length_keys (m : Keyed key) : m.size = m.keys.length := (List.length_map key).symm

variable [DecidableEq κ]

/-- The entries are those that are found under the keys, in the order of the keys. -/
theorem entries_eq_filterMap (m : Keyed key) : m.entries = m.keys.filterMap m.find? := by
  have hfind : ∀ a ∈ m.entries, (m.find? ∘ key) a = some a := fun _ => find?_of_mem
  rw [keys, List.filterMap_map, List.filterMap_congr hfind, List.filterMap_some]

/-- An entry that is listed is found unless another comes after it under its key. -/
theorem find?_ofList_eq_getLast? (l : List α) (k : κ) :
    (ofList l : Keyed key).find? k = (l.filter (key · = k)).getLast? := by
  rw [find?_ofList, List.getLast?_filter]

/-- Keyed lists as ordered maps, with entries that are made of a key and a value. -/
def orderedMap (key : α → κ) (value : α → ν) (make : κ → ν → α) : OrderedMap κ ν where
  Map := Keyed key
  empty := empty
  insert m k v := m.put (make k v)
  extend m l := l.foldl (fun m entry => m.put (make entry.1 entry.2)) m
  get? m k := (m.find? k).map value
  contains := contains
  keys := keys
  values m := m.entries.map value
  size := size

/-- Keyed lists are lawful if entries have the key and the value that they are made of. -/
theorem orderedMap_lawful (hkey : ∀ k v, key (make k v) = k)
    (hvalue : ∀ k v, value (make k v) = v) :
    (orderedMap key value make).Lawful where
  keys_empty := rfl
  get?_empty _ := rfl
  keys_insert_of_mem m k v h := by
    have hmem : key (make k v) ∈ m.keys := (hkey k v).symm ▸ h
    exact (keys_put m _).trans (if_pos hmem)
  keys_insert_of_not_mem m k v h := by
    have hmem : key (make k v) ∉ m.keys := (hkey k v).symm ▸ h
    exact ((keys_put m _).trans (if_neg hmem)).trans (by rw [hkey]; rfl)
  get?_insert_self m k v := by
    have hfind : (m.put (make k v)).find? k = some (make k v) :=
      (find?_put m _ k).trans (if_pos (hkey k v))
    exact (congrArg (Option.map value) hfind).trans (congrArg some (hvalue k v))
  get?_insert_of_ne m k v other h := by
    have hother : key (make k v) ≠ other := (hkey k v).symm ▸ h.symm
    exact congrArg (Option.map value) ((find?_put m _ other).trans (if_neg hother))
  extend_nil _ := rfl
  extend_cons _ _ _ _ := rfl
  contains_iff_mem m k := (mem_keys_iff_contains m k).symm
  values_eq m := by
    have hentries := congrArg (List.map value) (entries_eq_filterMap m)
    rwa [List.map_filterMap] at hentries
  size_eq m := size_eq_length_keys m

end Keyed

/-- The map that rows are kept in. -/
def Row.orderedMap : OrderedMap Text Value := Keyed.orderedMap Cell.name Cell.value Cell.mk

theorem Row.orderedMap_lawful : Row.orderedMap.Lawful :=
  Keyed.orderedMap_lawful (fun _ _ => rfl) fun _ _ => rfl

/-! ## Faithfulness -/

/-- In every lawful map, cells inserted into an empty row one after the other give a faithful row,
collecting them gives the same row, and columns give a faithful schema.  `Row` and `Schema` have
the same names and entries. -/
theorem OrderedMap.rows_and_schemas_faithful {M : OrderedMap Text Value}
    {N : OrderedMap Text Column} (hM : M.Lawful) (hN : N.Lawful) :
    (∀ cells : List Cell,
      let row : MapRow M := MapRow.ofInsertions cells
      row.Faithful cells ∧ MapRow.collect cells = row ∧
        (Keyed.ofList cells : Row).keys = row.names ∧
        ∀ name, Row.value? (Keyed.ofList cells) name = row.value? name) ∧
    ∀ columns : List Column,
      let schema : MapSchema N := MapSchema.ofColumns columns
      schema.Faithful columns ∧ (Keyed.ofList columns : Schema).entries = schema.toList ∧
        ∀ name, (Keyed.ofList columns : Schema).find? name = schema.find? name := by
  constructor
  · intro cells row
    have hrow : row.Faithful cells := MapRow.faithful_ofInsertions hM cells
    refine ⟨hrow, MapRow.collect_eq_ofInsertions hM cells, ?_, fun name => ?_⟩
    · rw [Keyed.keys_ofList, hrow.names_eq]
    · rw [Row.value?, Keyed.find?_ofList_eq_getLast?, hrow.value?_eq]
  · intro columns schema
    have hschema : schema.Faithful columns := MapSchema.faithful_ofColumns hN columns
    have hfind (name : Text) :
        (Keyed.ofList columns : Schema).find? name = schema.find? name := by
      rw [Keyed.find?_ofList_eq_getLast?, hschema.find?_eq]
    refine ⟨hschema, ?_, hfind⟩
    rw [Keyed.entries_eq_filterMap, Keyed.keys_ofList, ← hschema.names_eq, hschema.toList_eq]
    exact List.filterMap_congr fun name _ => hfind name

/-- A cell that comes again keeps its place and gets the new value, and so does a column. -/
theorem OrderedMap.rows_and_schemas_faithful_of_repeated :
    let N : OrderedMap Text Column := Keyed.orderedMap Prod.fst Prod.snd Prod.mk
    let cells : List Cell := [⟨"B", .int 1⟩, ⟨"A", .int 2⟩, ⟨"B", .text "x"⟩]
    let row : MapRow Row.orderedMap := MapRow.ofInsertions cells
    let first : Column := ⟨"B", .int, 5, .left, []⟩
    let second : Column := ⟨"B", .text, 7, .center, []⟩
    let other : Column := ⟨"A", .float, 9, .right, []⟩
    let schema : MapSchema N := MapSchema.ofColumns [first, other, second]
    Row.orderedMap.Lawful ∧ N.Lawful ∧
      row.names = ["B", "A"] ∧ row.value? "B" = some (.text "x") ∧ row.value? "C" = none ∧
      row.size = 2 ∧ MapRow.collect cells = row ∧
      schema.names = ["B", "A"] ∧ schema.find? "B" = some second ∧ second.name = "B" ∧
      (Keyed.ofList [first, other, second] : Schema).entries = [second, other] := by
  intro N cells row first second other schema
  have hM : Row.orderedMap.Lawful := Row.orderedMap_lawful
  have hN : N.Lawful := Keyed.orderedMap_lawful (fun _ _ => rfl) fun _ _ => rfl
  obtain ⟨hrows, hschemas⟩ := rows_and_schemas_faithful hM hN
  obtain ⟨hrow, hcollect, -, -⟩ := hrows cells
  obtain ⟨hschema, hentries, -⟩ := hschemas [first, other, second]
  have hfind : schema.find? "B" = some second := hschema.find?_eq "B"
  exact ⟨hM, hN, hrow.names_eq, hrow.value?_eq "B", hrow.value?_eq "C", hrow.size_eq, hcollect,
    hschema.names_eq, hfind, hschema.name_of_find? "B" second hfind, hentries⟩

end PlainReport
