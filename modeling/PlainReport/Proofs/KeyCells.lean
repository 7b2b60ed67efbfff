import PlainReport.Proofs.Stages

/-!
# Key cells

The row that stands for a group shows in each grouping field what all rows of the group
show there, and no two of these rows show the same in all fields (`keepsKeys`).  This
needs a target that is no grouping field.  A field that is summed up as well shows the
aggregate in the place of the key, and rows of different groups can then look alike
(`not_keepsKeys_of_target`).
-/

namespace PlainReport.Grouping

variable (g : Grouping) (schema : Schema)

/-- What a row shows in the fields. -/
def shownCells (row : Row) : List (Option Text) :=
  g.fields.map fun field => (Row.value? row field).map Value.display

/-- A row stands for the members of a tuple and shows what they all show in the fields. -/
structure ShowsKey (rows : List Row) (tuple : List Text) (out : Row) : Prop where
  /-- It stands for some rows. -/
  members_ne_nil : g.members schema rows tuple ≠ []
  /-- Their targets are summed up in it. -/
  target : Row.value? out g.target = some (g.aggregate.apply
    ((g.members schema rows tuple).map fun row => Row.valueOrZero row schema g.target)
    (((schema.find? g.target).map Column.type).getD .float))
  /-- A cell of a field shows what it shows in each of them. -/
  cell : ∀ row ∈ g.members schema rows tuple, ∀ field ∈ g.fields,
    (Row.value? out field).map Value.display = some (Row.valueOrZero row schema field).display

/-- The rows that stand for the groups show their keys and differ in them. -/
structure KeepsKeys (rows : List Row) : Prop where
  /-- Each row shows the key of its group. -/
  shown : List.Forall₂ (g.ShowsKey schema rows) (g.tuples schema rows) (g.apply schema rows)
  /-- No two rows show the same in all fields. -/
  distinct : (g.apply schema rows).Pairwise fun out other => g.shownCells out ≠ g.shownCells other

variable {g schema} {rows : List Row} {tuple : List Text}

/-- A field other than the target shows what it shows in all members. -/
theorem display_value?_rowOf (ht : tuple ∈ g.tuples schema rows) {row : Row}
    (hrow : row ∈ g.members schema rows tuple) {field : Text} (hfield : field ∈ g.fields)
    (hne : field ≠ g.target) :
    (Row.value? (g.rowOf schema (g.groupOf schema rows tuple)) field).map Value.display =
      some (Row.valueOrZero row schema field).display := by
  obtain ⟨first, -, hhead⟩ := g.exists_head?_members schema ht
  have hfirst := (g.mem_members schema).1 (List.mem_of_mem_head? hhead)
  have hshown : g.shownKey schema first = g.shownKey schema row :=
    hfirst.2.trans ((g.mem_members schema).1 hrow).2.symm
  rw [g.value?_rowOf schema hhead, if_neg (Ne.symm hne), if_pos hfield, Option.map_some,
    g.display_eq_of_shownKey_eq schema hshown hfield]

theorem showsKey_rowOf (htarget : g.target ∉ g.fields) (ht : tuple ∈ g.tuples schema rows) :
    g.ShowsKey schema rows tuple (g.rowOf schema (g.groupOf schema rows tuple)) where
  members_ne_nil := g.members_ne_nil schema ht
  target := (g.standsFor_rowOf schema htarget ht).target
  cell := by
    intro row hrow field hfield
    refine display_value?_rowOf ht hrow hfield ?_
    rintro rfl
    exact htarget hfield

theorem shownCells_rowOf (htarget : g.target ∉ g.fields) (ht : tuple ∈ g.tuples schema rows) :
    g.shownCells (g.rowOf schema (g.groupOf schema rows tuple)) = tuple.map some := by
  obtain ⟨first, -, hhead⟩ := g.exists_head?_members schema ht
  have hfirst := List.mem_of_mem_head? hhead
  have hcell := (showsKey_rowOf htarget ht).cell first hfirst
  have hshown : g.shownKey schema first = tuple := ((g.mem_members schema).1 hfirst).2
  calc g.shownCells (g.rowOf schema (g.groupOf schema rows tuple))
      = g.fields.map fun field => some (Row.valueOrZero first schema field).display :=
        List.map_congr_left hcell
    _ = (g.shownKey schema first).map some := by
        rw [shownKey, keyOf, List.map_map, List.map_map]
        rfl
    _ = tuple.map some := by rw [hshown]

/-- Grouped rows keep their keys if the target is no grouping field. -/
theorem keepsKeys (g : Grouping) (schema : Schema) (rows : List Row)
    (htarget : g.target ∉ g.fields) : g.KeepsKeys schema rows where
  shown := by
    rw [apply, entries_groups, List.map_map, List.forall₂_map_right_iff, List.forall₂_same]
    intro tuple ht
    exact showsKey_rowOf htarget ht
  distinct := by
    rw [apply, entries_groups, List.map_map, List.pairwise_map]
    refine (g.nodup_tuples schema rows).imp_of_mem fun {tuple other} ht ho hne heq => hne ?_
    simp only [Function.comp_apply, shownCells_rowOf htarget ht, shownCells_rowOf htarget ho] at heq
    exact List.map_injective_iff.2 (fun _ _ => Option.some.inj) heq

/-- Two tuples that read alike when joined, with a field repeated and a cell lacking. -/
theorem keepsKeys_of_repeated :
    let g : Grouping := ⟨["A", "B", "A"], .sum, "N"⟩
    let schema : Schema := Keyed.ofList [⟨"N", .int, 5, .right, []⟩]
    let rows : List Row := [
      Keyed.ofList [⟨"A", .text "x"⟩, ⟨"B", .text "yz"⟩, ⟨"N", .int 1⟩],
      Keyed.ofList [⟨"A", .text "xy"⟩, ⟨"B", .text "z"⟩, ⟨"N", .int 2⟩],
      Keyed.ofList [⟨"N", .int 4⟩, ⟨"A", .text "x"⟩, ⟨"B", .text "yz"⟩],
      Keyed.ofList [⟨"A", .text "x"⟩]]
    g.target ∉ g.fields ∧ g.KeepsKeys schema rows := by
  intro g schema rows
  have htarget : g.target ∉ g.fields := by decide
  exact ⟨htarget, keepsKeys g schema rows htarget⟩

/-- Groups of 1 and 2 both show 2 when their field is summed up as well. -/
theorem not_keepsKeys_of_target :
    let pattern : Text := "table columns: A|int-3#group: fields|A; data|sum; A"
    let data : Text := "a\n1#1#2"
    let p := (TablePattern.ofText 20 pattern).result
    let g : Grouping := ⟨["A"], .sum, "A"⟩
    let rows : List Row := ["1", "1", "2"].map fun a => Keyed.ofList [⟨"A", .text a⟩]
    p.grouping = some g ∧ Table.load data = .ok rows ∧
      g.tuples p.schema (p.castRows rows) = [[("1" : Text)], ["2"]] ∧
      (g.apply p.schema (p.castRows rows)).map g.shownCells = [[some ("2" : Text)], [some "2"]] ∧
      ¬ g.KeepsKeys p.schema (p.castRows rows) := by
  intro pattern data p g rows
  have hcells : (g.apply p.schema (p.castRows rows)).map g.shownCells =
      [[some ("2" : Text)], [some "2"]] := by decide +kernel
  refine ⟨by decide +kernel, by decide +kernel, by decide +kernel, hcells, fun h => ?_⟩
  have hdistinct := List.pairwise_map.2 h.distinct
  rw [hcells] at hdistinct
  exact absurd hdistinct (by decide)

end PlainReport.Grouping
