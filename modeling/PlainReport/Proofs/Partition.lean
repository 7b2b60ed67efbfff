import Mathlib.Data.List.Forall2
import Mathlib.Data.List.Perm.Lattice
import PlainReport.Proofs.Collected
import PlainReport.Table.Grouped

/-!
# Grouping as a partition

Grouping puts one row after the other into the group that shows the same values
in the fields.  The result can be said without the order of these steps.  The
tuples of displayed values, each where it first comes, are the groups, and the
members of a group are the rows that show its tuple (`entries_groups`).

`apply_partitions` reads the rows that stand for the groups off this: their
columns, their key cells and their targets.  The members of all groups together
are the rows, each as often as it was given.
-/

namespace PlainReport

/-! ## Splitting a list by the values of a function -/

section

variable {α κ : Type} [DecidableEq κ] (f : α → κ)

/-- The elements with each of some distinct values make up the whole list, if every
element has one of the values. -/
theorem perm_flatMap_filter {ks : List κ} (hks : ks.Nodup) {l : List α} (h : ∀ a ∈ l, f a ∈ ks) :
    (ks.flatMap fun k => l.filter fun a => decide (f a = k)).Perm l := by
  induction ks generalizing l with
  | nil =>
    cases l with
    | nil => exact .refl _
    | cons a l => cases h a List.mem_cons_self
  | cons j ks ih =>
    obtain ⟨hj, hks⟩ := List.nodup_cons.1 hks
    let others := l.filter fun a => !decide (f a = j)
    -- the elements with the other values are found among `others`
    have hothers : (ks.flatMap fun k => l.filter fun a => decide (f a = k)) =
        ks.flatMap fun k => others.filter fun a => decide (f a = k) := by
      refine List.flatMap_congr fun k hk => ?_
      rw [List.filter_filter]
      refine List.filter_congr fun a _ => ?_
      by_cases hak : f a = k
      · have hne : f a ≠ j := fun e => hj (e ▸ hak ▸ hk)
        simp [hak, hak ▸ hne]
      · simp [hak]
    have hmem : ∀ a ∈ others, f a ∈ ks := by
      intro a ha
      obtain ⟨hal, hne⟩ := List.mem_filter.1 ha
      exact (List.mem_cons.1 (h a hal)).resolve_left (by simpa using hne)
    rw [List.flatMap_cons, hothers]
    exact ((ih hks hmem).append_left _).trans (List.filter_append_perm _ l)

end

/-! ## Rows with a cell for each of some fields -/

namespace Row

/-- The row with a cell for each field, of which some may be repeated. -/
theorem value?_ofFields (f : Text → Value) (fields : List Text) (name : Text) :
    Row.value? (Keyed.ofList (fields.map fun field => ⟨field, f field⟩)) name =
      if name ∈ fields then some (f name) else none := by
  have hname : ∀ field, (Cell.mk field (f field)).name = field := fun _ => rfl
  rw [value?, Keyed.find?_ofList, ← List.map_reverse]
  by_cases h : name ∈ fields
  · rw [Keyed.find?_table hname (List.mem_reverse.2 h), if_pos h]
    rfl
  · rw [Keyed.find?_table_of_not_mem hname (mt List.mem_reverse.1 h), if_neg h]
    rfl

theorem value?_put (row : Row) (cell : Cell) (name : Text) :
    Row.value? (row.put cell) name =
      if cell.name = name then some cell.value else Row.value? row name := by
  rw [value?, Keyed.find?_put]
  split <;> rfl

/-- A cell that the row lacks counts as the zero of its column, which is empty text if
there is no such column. -/
theorem valueOrZero_eq (row : Row) (schema : Schema) (name : Text) :
    Row.valueOrZero row schema name =
      match Row.value? row name, schema.find? name with
      | some value, _ => value
      | none, some column => column.type.zero
      | none, none => .text [] := by
  unfold valueOrZero Schema.zeroOf
  cases Row.value? row name with
  | some value => rfl
  | none => cases schema.find? name <;> rfl

end Row

namespace Grouping

variable (g : Grouping) (schema : Schema)

/-! ## Groups -/

/-- The tuple of the displayed values of the fields. -/
def shownKey (row : Row) : List Text := (g.keyOf schema row).map Value.display

/-- The value of the target in a row. -/
def targetOf (row : Row) : Value := Row.valueOrZero row schema g.target

/-- The rows that show a tuple. -/
def members (rows : List Row) (tuple : List Text) : List Row :=
  rows.filter fun row => decide (g.shownKey schema row = tuple)

/-- The tuples that the rows show, each where it first comes. -/
def tuples (rows : List Row) : List (List Text) := (rows.map (g.shownKey schema)).eraseDups

/-- The group of the members of a tuple. -/
def groupOf (rows : List Row) (tuple : List Text) : Group where
  shown := tuple
  key := ((g.members schema rows tuple).head?.map (g.keyOf schema)).getD []
  targets := (g.members schema rows tuple).map (g.targetOf schema)

@[simp] theorem shown_groupOf (rows : List Row) (tuple : List Text) :
    (g.groupOf schema rows tuple).shown = tuple := rfl

theorem members_concat (rows : List Row) (row : Row) (tuple : List Text) :
    g.members schema (rows ++ [row]) tuple =
      g.members schema rows tuple ++ if g.shownKey schema row = tuple then [row] else [] := by
  rw [members, List.filter_append]
  by_cases h : g.shownKey schema row = tuple <;> simp [members, h]

theorem display_eq_of_shownKey_eq {row other : Row}
    (h : g.shownKey schema row = g.shownKey schema other) {field : Text}
    (hfield : field ∈ g.fields) :
    (Row.valueOrZero row schema field).display = (Row.valueOrZero other schema field).display := by
  simp only [shownKey, keyOf, List.map_map, List.map_inj_left, Function.comp_apply] at h
  exact h field hfield

theorem mem_members {rows : List Row} {tuple : List Text} {row : Row} :
    row ∈ g.members schema rows tuple ↔ row ∈ rows ∧ g.shownKey schema row = tuple := by
  rw [members, List.mem_filter, decide_eq_true_eq]

theorem mem_tuples (rows : List Row) (tuple : List Text) :
    tuple ∈ g.tuples schema rows ↔ ∃ row ∈ rows, g.shownKey schema row = tuple := by
  rw [tuples, List.mem_eraseDups, List.mem_map]

theorem nodup_tuples (rows : List Row) : (g.tuples schema rows).Nodup := nodup_eraseDups _

theorem tuples_concat_of_mem {rows : List Row} {row : Row}
    (h : g.shownKey schema row ∈ g.tuples schema rows) :
    g.tuples schema (rows ++ [row]) = g.tuples schema rows := by
  rw [tuples, List.map_append, List.map_singleton]
  exact eraseDups_concat_of_mem (List.mem_eraseDups.1 h)

theorem tuples_concat_of_not_mem {rows : List Row} {row : Row}
    (h : g.shownKey schema row ∉ g.tuples schema rows) :
    g.tuples schema (rows ++ [row]) = g.tuples schema rows ++ [g.shownKey schema row] := by
  rw [tuples, List.map_append, List.map_singleton]
  exact eraseDups_concat_of_not_mem (mt List.mem_eraseDups.2 h)

theorem members_eq_nil {rows : List Row} {tuple : List Text}
    (h : tuple ∉ g.tuples schema rows) : g.members schema rows tuple = [] := by
  refine List.filter_eq_nil_iff.2 fun row hrow => ?_
  have hne : g.shownKey schema row ≠ tuple := fun e =>
    h ((g.mem_tuples schema rows tuple).2 ⟨row, hrow, e⟩)
  simpa using hne

theorem members_ne_nil {rows : List Row} {tuple : List Text}
    (h : tuple ∈ g.tuples schema rows) : g.members schema rows tuple ≠ [] := by
  obtain ⟨row, hrow, ht⟩ := (g.mem_tuples schema rows tuple).1 h
  exact List.ne_nil_of_mem (List.mem_filter.2 ⟨hrow, decide_eq_true ht⟩)

/-- A further row changes the group of its own tuple only. -/
theorem groupOf_concat_of_ne {rows : List Row} {row : Row} {tuple : List Text}
    (h : g.shownKey schema row ≠ tuple) :
    g.groupOf schema (rows ++ [row]) tuple = g.groupOf schema rows tuple := by
  rw [groupOf, groupOf, members_concat, if_neg h, List.append_nil]

/-- A further row adds its target to the group of its tuple. -/
theorem groupOf_concat_of_mem {rows : List Row} {row : Row}
    (h : g.shownKey schema row ∈ g.tuples schema rows) :
    g.groupOf schema (rows ++ [row]) (g.shownKey schema row) =
      { g.groupOf schema rows (g.shownKey schema row) with
        targets := (g.groupOf schema rows (g.shownKey schema row)).targets ++
          [g.targetOf schema row] } := by
  obtain ⟨first, rest, hm⟩ := List.exists_cons_of_ne_nil (g.members_ne_nil schema h)
  simp [groupOf, members_concat, hm]

/-- The first row of a tuple makes its group. -/
theorem groupOf_concat_of_not_mem {rows : List Row} {row : Row}
    (h : g.shownKey schema row ∉ g.tuples schema rows) :
    g.groupOf schema (rows ++ [row]) (g.shownKey schema row) =
      ⟨g.shownKey schema row, g.keyOf schema row, [g.targetOf schema row]⟩ := by
  simp [groupOf, members_concat, g.members_eq_nil schema h]

theorem entries_assign_of_find? {groups : Keyed Group.shown} {row : Row} {group : Group}
    (h : groups.find? (g.shownKey schema row) = some group) :
    (g.assign schema groups row).entries = Keyed.putIn Group.shown
      { group with targets := group.targets ++ [g.targetOf schema row] } groups.entries := by
  unfold assign
  rw [shownKey] at h
  simp only [h]
  rfl

theorem entries_assign_of_find?_eq_none {groups : Keyed Group.shown} {row : Row}
    (h : groups.find? (g.shownKey schema row) = none) :
    (g.assign schema groups row).entries = Keyed.putIn Group.shown
      ⟨g.shownKey schema row, g.keyOf schema row, [g.targetOf schema row]⟩ groups.entries := by
  unfold assign
  rw [shownKey] at h
  simp only [h]
  rfl

/-- One step puts a row into the group of its tuple. -/
theorem entries_assign {rows : List Row} {groups : Keyed Group.shown}
    (h : groups.entries = (g.tuples schema rows).map (g.groupOf schema rows)) (row : Row) :
    (g.assign schema groups row).entries =
      (g.tuples schema (rows ++ [row])).map (g.groupOf schema (rows ++ [row])) := by
  have hshown := g.shown_groupOf schema rows
  by_cases hmem : g.shownKey schema row ∈ g.tuples schema rows
  · have hfind : groups.find? (g.shownKey schema row) = _ :=
      (congrArg _ h).trans (Keyed.find?_table hshown hmem)
    rw [g.entries_assign_of_find? schema hfind, h, g.tuples_concat_of_mem schema hmem]
    refine Eq.trans (Keyed.putIn_table hshown (g.nodup_tuples schema rows) hmem) ?_
    refine List.map_congr_left fun tuple _ => ?_
    by_cases ht : tuple = g.shownKey schema row
    · rw [ht, groupOf_concat_of_mem g schema hmem]
      exact if_pos rfl
    · rw [groupOf_concat_of_ne g schema fun e => ht e.symm]
      exact if_neg ht
  · have hfind : groups.find? (g.shownKey schema row) = none :=
      (congrArg _ h).trans (Keyed.find?_table_of_not_mem hshown hmem)
    rw [g.entries_assign_of_find?_eq_none schema hfind, h, g.tuples_concat_of_not_mem schema hmem,
      List.map_append, List.map_singleton, groupOf_concat_of_not_mem g schema hmem]
    refine Eq.trans (Keyed.putIn_table_of_not_mem hshown hmem) ?_
    refine congrArg (· ++ [_]) (List.map_congr_left fun tuple ht => ?_)
    rw [groupOf_concat_of_ne g schema]
    rintro rfl
    exact hmem ht

/-- The groups are those of the tuples, in their order. -/
theorem entries_groups (rows : List Row) :
    (g.groups schema rows).entries = (g.tuples schema rows).map (g.groupOf schema rows) := by
  induction rows using List.reverseRecOn with
  | nil => rfl
  | append_singleton rows row ih =>
    rw [groups, List.foldl_append]
    exact g.entries_assign schema ih row

/-! ## The rows that stand for the groups -/

/-- What the row that stands for the members of a tuple is. -/
structure StandsFor (rows : List Row) (tuple : List Text) (out : Row) : Prop where
  /-- The columns are the distinct fields in their order, and then the target. -/
  columns : out.keys = g.fields.eraseDups ++ [g.target]
  /-- The key cells are those of the first row that shows the tuple. -/
  key : ∃ first, rows.find? (fun row => decide (g.shownKey schema row = tuple)) = some first ∧
    ∀ field ∈ g.fields, Row.value? out field = some (Row.valueOrZero first schema field)
  /-- The target is the aggregate over the members.  A target of no column is summed up
  as a binary number. -/
  target : Row.value? out g.target = some (g.aggregate.apply
    ((g.members schema rows tuple).map fun row => Row.valueOrZero row schema g.target)
    (((schema.find? g.target).map Column.type).getD .float))

theorem targetType_eq :
    g.targetType schema = ((schema.find? g.target).map Column.type).getD .float := by
  rw [targetType]
  cases schema.find? g.target <;> rfl

section

variable {rows : List Row} {tuple : List Text} {first : Row}
  (hfirst : (g.members schema rows tuple).head? = some first)

include hfirst

/-- The key cells of a group, of which repeated fields give equal ones. -/
theorem cells_groupOf :
    g.fields.zipWith Cell.mk (g.groupOf schema rows tuple).key =
      g.fields.map fun field => ⟨field, Row.valueOrZero first schema field⟩ := by
  rw [groupOf, hfirst, Option.map_some, Option.getD_some, keyOf, List.zipWith_map_right,
    List.zipWith_self]

/-- The columns are the fields and the target, without the repeats. -/
theorem keys_rowOf :
    (g.rowOf schema (g.groupOf schema rows tuple)).keys = (g.fields ++ [g.target]).eraseDups := by
  have hnames : (g.fields.map fun field =>
      Cell.mk field (Row.valueOrZero first schema field)).map Cell.name = g.fields := by
    rw [List.map_map]
    exact List.map_id _
  rw [rowOf, g.cells_groupOf schema hfirst, Keyed.keys_put, Keyed.keys_ofList, hnames]
  by_cases h : g.target ∈ g.fields
  · rw [if_pos (List.mem_eraseDups.2 h), eraseDups_concat_of_mem h]
  · rw [if_neg (mt List.mem_eraseDups.1 h), eraseDups_concat_of_not_mem h]

/-- The cell of the target is the aggregate, and the other cells are those of the first
member. -/
theorem value?_rowOf (name : Text) :
    Row.value? (g.rowOf schema (g.groupOf schema rows tuple)) name =
      if g.target = name then some (g.aggregate.apply
        ((g.members schema rows tuple).map (g.targetOf schema)) (g.targetType schema))
      else if name ∈ g.fields then some (Row.valueOrZero first schema name) else none := by
  rw [rowOf, g.cells_groupOf schema hfirst, Row.value?_put, Row.value?_ofFields]
  rfl

end

/-- A tuple that some row shows has a first member. -/
theorem exists_head?_members {rows : List Row} {tuple : List Text}
    (h : tuple ∈ g.tuples schema rows) :
    ∃ first ∈ rows, (g.members schema rows tuple).head? = some first := by
  obtain ⟨first, rest, hm⟩ := List.exists_cons_of_ne_nil (g.members_ne_nil schema h)
  have hmem : first ∈ g.members schema rows tuple := hm ▸ List.mem_cons_self
  exact ⟨first, (List.mem_filter.1 hmem).1, by rw [hm, List.head?_cons]⟩

theorem mem_apply {rows : List Row} {out : Row} (h : out ∈ g.apply schema rows) :
    ∃ tuple ∈ g.tuples schema rows, out = g.rowOf schema (g.groupOf schema rows tuple) := by
  rw [apply, entries_groups, List.map_map] at h
  obtain ⟨tuple, ht, rfl⟩ := List.mem_map.1 h
  exact ⟨tuple, ht, rfl⟩

theorem standsFor_rowOf (htarget : g.target ∉ g.fields) {rows : List Row} {tuple : List Text}
    (h : tuple ∈ g.tuples schema rows) :
    g.StandsFor schema rows tuple (g.rowOf schema (g.groupOf schema rows tuple)) := by
  obtain ⟨first, -, hfirst⟩ := g.exists_head?_members schema h
  constructor
  · rw [g.keys_rowOf schema hfirst, eraseDups_concat_of_not_mem htarget]
  · refine ⟨first, ?_, fun field hfield => ?_⟩
    · rw [← hfirst, members, List.head?_filter]
    · have hne : g.target ≠ field := fun e => htarget (e ▸ hfield)
      rw [g.value?_rowOf schema hfirst, if_neg hne, if_pos hfield]
  · rw [g.value?_rowOf schema hfirst, if_pos rfl, targetType_eq]
    rfl

/-- Grouping gives one row for each tuple of displayed values, in the order in which
the tuples first come, and every row is a member of one group and counted once. -/
theorem apply_partitions (rows : List Row) (htarget : g.target ∉ g.fields) :
    List.Forall₂ (g.StandsFor schema rows) (g.tuples schema rows) (g.apply schema rows) ∧
      ((g.tuples schema rows).flatMap (g.members schema rows)).Perm rows ∧
      ∀ row name, Row.valueOrZero row schema name =
        match Row.value? row name, schema.find? name with
        | some value, _ => value
        | none, some column => column.type.zero
        | none, none => .text [] := by
  refine ⟨?_, ?_, fun row name => row.valueOrZero_eq schema name⟩
  · rw [apply, entries_groups, List.map_map, List.forall₂_map_right_iff, List.forall₂_same]
    exact fun tuple h => g.standsFor_rowOf schema htarget h
  · refine perm_flatMap_filter (g.shownKey schema) (g.nodup_tuples schema rows) fun row hrow => ?_
    exact (g.mem_tuples schema rows _).2 ⟨row, hrow, rfl⟩

/-- Two tuples that read alike when joined come in turn, with a field repeated and a
cell lacking. -/
theorem apply_partitions_interleaved :
    let g : Grouping := ⟨["A", "B", "A"], .sum, "N"⟩
    let schema : Schema := Keyed.ofList [⟨"N", .int, 5, .right, []⟩]
    let rows : List Row := [
      Keyed.ofList [⟨"A", .text "x"⟩, ⟨"B", .text "yz"⟩, ⟨"N", .int 1⟩],
      Keyed.ofList [⟨"A", .text "xy"⟩, ⟨"B", .text "z"⟩, ⟨"N", .int 2⟩],
      Keyed.ofList [⟨"N", .int 4⟩, ⟨"A", .text "x"⟩, ⟨"B", .text "yz"⟩],
      Keyed.ofList [⟨"A", .text "x"⟩]]
    let tuples : List (List Text) := [["x", "yz", "x"], ["xy", "z", "xy"], ["x", [], "x"]]
    g.target ∉ g.fields ∧ List.Forall₂ (g.StandsFor schema rows) tuples (g.apply schema rows) := by
  intro g schema rows tuples
  have htarget : g.target ∉ g.fields := by decide
  have htuples : g.tuples schema rows = tuples := by decide
  exact ⟨htarget, htuples ▸ (apply_partitions g schema rows htarget).1⟩

end Grouping

end PlainReport
