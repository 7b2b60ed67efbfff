import Mathlib.Algebra.GroupWithZero.Nat
import PlainReport.Proofs.Stages
import PlainReport.Proofs.Text.Fitting

/-!
# The geometry of a sheet

The header, the separators and the lines of the rows are made apart from each other.
They fit together since all rows have the same declared columns and every field is
as wide as its column.

`Framed` says that a line has its borders where the widths of the columns put them and
which text stands between them.  `Drawn` says what each line of a sheet is.  A sheet
with rows is drawn (`drawn_ofRows`), and a sheet without rows has a separator for its
body (`sheet_drawn`).
-/

namespace PlainReport

/-! ## Elements of joined blocks -/

/-- An element of a block stands behind the elements of the blocks before it. -/
theorem getElem?_flatMap {α β : Type} (f : α → List β) {l : List α} {i : Nat} {a : α}
    (ha : l[i]? = some a) {k : Nat} (hk : k < (f a).length) :
    (l.flatMap f)[((l.take i).map fun b => (f b).length).sum + k]? = (f a)[k]? := by
  induction l generalizing i with
  | nil => simp at ha
  | cons b l ih =>
    rw [List.flatMap_cons]
    cases i with
    | zero =>
      obtain rfl : b = a := by simpa using ha
      simpa using List.getElem?_append_left hk
    | succ i =>
      rw [List.take_succ_cons, List.map_cons, List.sum_cons, Nat.add_assoc,
        List.getElem?_append_right (Nat.le_add_right _ _), Nat.add_sub_cancel_left]
      exact ih (by simpa using ha)

theorem foldr_max_eq_max? {l : List Nat} (h : l ≠ []) (d : Nat) :
    l.max?.getD d = l.foldr max 0 := by
  induction l with
  | nil => exact absurd rfl h
  | cons n l ih =>
    rw [List.max?_cons, Option.getD_some, List.foldr_cons]
    cases l with
    | nil => simp
    | cons m l =>
      rw [← ih (List.cons_ne_nil m l), List.max?_cons]
      rfl

/-! ## Fields between borders -/

namespace Sheet

/-- Where the border before a field stands. -/
def borderAt (widths : List Nat) (j : Nat) : Nat := ((widths.take j).map (· + 1)).sum

/-- A line with a border before and after each of some fields of given widths. -/
structure Framed (widths : List Nat) (fields : List Text) (t : Text) : Prop where
  /-- The fields and the borders make up the line. -/
  length : t.length = 1 + (widths.map (· + 1)).sum
  /-- The borders stand where the widths put them. -/
  border : ∀ j ≤ widths.length, t[borderAt widths j]? = some '|'
  /-- The texts between the borders are the fields. -/
  field : ∀ j (hj : j < widths.length),
    fields[j]? = some ((t.drop (borderAt widths j + 1)).take widths[j])

end Sheet

namespace Row

theorem bordered_cons (field : Text) (fields : List Text) :
    bordered (field :: fields) = '|' :: (field ++ bordered fields) := by
  simp [bordered]

theorem length_bordered (fields : List Text) :
    (bordered fields).length = 1 + ((fields.map List.length).map (· + 1)).sum := by
  induction fields with
  | nil => rfl
  | cons field fields ih =>
    rw [bordered_cons, List.length_cons, List.length_append, ih, List.map_cons, List.map_cons,
      List.sum_cons]
    omega

/-- From a border on, a line is the one of the fields that follow. -/
theorem drop_bordered (fields : List Text) (j : Nat) :
    (bordered fields).drop (Sheet.borderAt (fields.map List.length) j) =
      bordered (fields.drop j) := by
  induction fields generalizing j with
  | nil => simp [Sheet.borderAt]
  | cons field fields ih =>
    cases j with
    | zero => simp [Sheet.borderAt]
    | succ j =>
      have hat : Sheet.borderAt ((field :: fields).map List.length) (j + 1) =
          (field.length + Sheet.borderAt (fields.map List.length) j) + 1 := by
        simp [Sheet.borderAt, Nat.add_right_comm]
      rw [hat, bordered_cons, List.drop_succ_cons, List.drop_append, List.drop_succ_cons, ← ih j]
      simp

theorem framed_bordered {fields : List Text} {widths : List Nat}
    (h : fields.map List.length = widths) : Sheet.Framed widths fields (bordered fields) := by
  subst h
  constructor
  · exact length_bordered fields
  · intro j _
    have hdrop := drop_bordered fields j
    rw [← List.head?_drop, hdrop]
    rfl
  · intro j hj
    have hlen : j < fields.length := by simpa using hj
    rw [List.drop_add_one_eq_tail_drop, drop_bordered, List.drop_eq_getElem_cons hlen,
      bordered_cons, List.tail_cons, List.getElem?_eq_getElem hlen, List.getElem_map,
      List.take_left]

theorem mem_bordered_iff {x : Char} (hx : x ≠ '|') {fields : List Text} :
    x ∈ bordered fields ↔ ∃ field ∈ fields, x ∈ field := by
  simp [bordered, List.mem_flatMap, hx]

theorem not_mem_bordered {fields : List Text} (h : ∀ field ∈ fields, '\n' ∉ field) :
    '\n' ∉ bordered fields := by
  rw [mem_bordered_iff (by decide)]
  rintro ⟨field, hfield, hbreak⟩
  exact h field hfield hbreak

end Row

/-! ## Lines of a row -/

/-- A line of a cell fitted to the column.  Below its last line a cell goes on with
blanks. -/
def Column.lineOf (column : Column) (n : Nat) (cell : Cell) : Text :=
  match (Text.lines cell.value.display)[n]? with
  | some line => column.alignment.fitLine line column.width
  | none => List.replicate column.width ' '

namespace Column

theorem length_lineOf (column : Column) (n : Nat) (cell : Cell) :
    (column.lineOf n cell).length = column.width := by
  unfold lineOf
  split
  · exact column.alignment.length_fitLine _ _
  · exact List.length_replicate

theorem not_mem_lineOf (column : Column) (n : Nat) (cell : Cell) :
    '\n' ∉ column.lineOf n cell := by
  unfold lineOf
  split
  · next line h =>
    exact column.alignment.not_mem_fitLine _
      (Text.not_mem_of_mem_lines (List.mem_of_getElem? h))
  · intro h
    exact absurd (List.eq_of_mem_replicate h) (by decide)

/-- The lines of a fitted cell, continued with blanks, are those of the column. -/
theorem lineOfCell_fit (column : Column) (n : Nat) (cell : Cell) :
    Row.lineOfCell n (Text.lines (column.alignment.fit cell.value.display column.width)) =
      column.lineOf n cell := by
  obtain ⟨first, rest, hlines⟩ :=
    List.exists_cons_of_ne_nil (Text.lines_ne_nil cell.value.display)
  rw [Alignment.lines_fit, Row.lineOfCell, lineOf, List.getElem?_map, hlines]
  cases (first :: rest)[n]? with
  | some line => rfl
  | none => simp

end Column

namespace Row

/-- How many lines the cell with the most lines has. -/
def lineCount (row : Row) : Nat :=
  (row.entries.map fun cell => (Text.lines cell.value.display).length).foldr max 0

/-- A line of the row with its cells in some columns. -/
def fieldsOf (columns : List Column) (n : Nat) (row : Row) : List Text :=
  columns.zipWith (fun column cell => column.lineOf n cell) row.entries

variable {schema : Schema} {columns : List Column} {row : Row}

theorem length_entries (hkeys : row.keys = columns.map Column.name) :
    row.entries.length = columns.length := by
  have h := congrArg List.length hkeys
  rwa [Keyed.keys, List.length_map, List.length_map] at h

theorem map_length_fieldsOf (n : Nat) (hkeys : row.keys = columns.map Column.name) :
    (fieldsOf columns n row).map List.length = columns.map Column.width := by
  rw [fieldsOf, List.map_zipWith]
  simp only [Column.length_lineOf]
  rw [← List.map_uncurry_zip_eq_zipWith]
  have hfst := List.map_fst_zip (Nat.le_of_eq (length_entries hkeys).symm)
  calc (columns.zip row.entries).map (Function.uncurry fun column _ => column.width)
      = ((columns.zip row.entries).map Prod.fst).map Column.width := by
        rw [List.map_map]
        rfl
    _ = columns.map Column.width := by rw [hfst]

theorem not_mem_fieldsOf {n : Nat} {field : Text} (h : field ∈ fieldsOf columns n row) :
    '\n' ∉ field := by
  rw [fieldsOf, ← List.map_uncurry_zip_eq_zipWith] at h
  obtain ⟨pair, -, rfl⟩ := List.mem_map.1 h
  exact pair.1.not_mem_lineOf n pair.2

/-- What is done to a cell by look-up of its column can be done column by column. -/
theorem map_entries_eq_zipWith {β : Type} {f : Cell → β} {g : Column → Cell → β}
    (hkeys : row.keys = columns.map Column.name)
    (h : ∀ column ∈ columns, ∀ cell, cell.name = column.name → f cell = g column cell) :
    row.entries.map f = columns.zipWith g row.entries := by
  rw [Keyed.keys] at hkeys
  generalize row.entries = cells at hkeys
  induction cells generalizing columns with
  | nil =>
    cases columns with
    | nil => rfl
    | cons column columns => cases hkeys
  | cons cell cells ih =>
    cases columns with
    | nil => cases hkeys
    | cons column columns =>
      obtain ⟨hname, hrest⟩ := List.cons.inj hkeys
      rw [List.map_cons, List.zipWith_cons_cons, h column List.mem_cons_self cell hname,
        ih (fun c hc => h c (List.mem_cons_of_mem _ hc)) hrest]

/-- The lines of a fitted cell. -/
def fittedLines (schema : Schema) (cell : Cell) : List Text :=
  Text.lines (match schema.find? cell.name with
    | some column => column.alignment.fit cell.value.display column.width
    | none => cell.value.display)

theorem length_fittedLines (schema : Schema) (cell : Cell) :
    (fittedLines schema cell).length = (Text.lines cell.value.display).length := by
  unfold fittedLines
  split
  · rw [Alignment.lines_fit, List.length_map]
  · rfl

theorem printed_fit (schema : Schema) (row : Row) :
    (row.fit schema).printed =
      Text.unlines ((List.range (height (row.entries.map (fittedLines schema)))).map fun n =>
        bordered ((row.entries.map (fittedLines schema)).map (lineOfCell n))) := by
  have hcells : (row.fit schema).entries.map (fun cell => Text.lines cell.value.display) =
      row.entries.map (fittedLines schema) := by
    rw [fit, mapValues, List.map_map]
    rfl
  rw [printed, hcells]

theorem height_fittedLines (hne : row.entries ≠ []) :
    height (row.entries.map (fittedLines schema)) = row.lineCount := by
  rw [height, List.map_map, lineCount]
  have hlen : List.length ∘ fittedLines schema =
      fun cell => (Text.lines cell.value.display).length := funext (length_fittedLines schema)
  rw [hlen, foldr_max_eq_max? (mt List.map_eq_nil_iff.1 hne)]

theorem lineCount_pos (hne : row.entries ≠ []) : 0 < row.lineCount := by
  obtain ⟨cell, cells, hcells⟩ := List.exists_cons_of_ne_nil hne
  have hcell : 0 < (Text.lines cell.value.display).length :=
    List.length_pos_of_ne_nil (Text.lines_ne_nil _)
  rw [lineCount, hcells, List.map_cons, List.foldr_cons]
  exact Nat.lt_of_lt_of_le hcell (Nat.le_max_left _ _)

/-- A printed row has a line for each line of its tallest cell, with the fields of its
columns between borders. -/
theorem lines_printed_fit (hne : row.entries ≠ []) (hkeys : row.keys = columns.map Column.name)
    (hdeclared : ∀ column ∈ columns, schema.find? column.name = some column) :
    Text.lines (row.fit schema).printed =
      (List.range row.lineCount).map fun n => bordered (fieldsOf columns n row) := by
  have hfields (n : Nat) :
      (row.entries.map (fittedLines schema)).map (lineOfCell n) = fieldsOf columns n row := by
    rw [List.map_map]
    refine map_entries_eq_zipWith hkeys fun column hc cell hname => ?_
    rw [Function.comp_apply, fittedLines, hname, hdeclared column hc]
    exact column.lineOfCell_fit n cell
  rw [printed_fit, height_fittedLines hne]
  simp only [hfields]
  refine Text.lines_unlines ?_ fun line hline => ?_
  · have hpos := lineCount_pos hne
    simp only [ne_eq, List.map_eq_nil_iff, List.range_eq_nil]
    omega
  · obtain ⟨n, -, rfl⟩ := List.mem_map.1 hline
    exact not_mem_bordered fun field => not_mem_fieldsOf

end Row

/-! ## Lines of a sheet -/

namespace Sheet

/-- Where the lines of a row begin in the body, behind the first separator and the rows
before it. -/
def blockAt (rows : List Row) (i : Nat) : Nat :=
  1 + ((rows.take i).map fun row => row.lineCount + 1).sum

/-- What the header and each line of the body of a sheet are, for the rows that it shows
and their columns. -/
structure Drawn (schema : Schema) (columns : List Column) (rows : List Row) (sheet : Sheet) :
    Prop where
  /-- The columns are declared. -/
  declared : ∀ column ∈ columns, schema.find? column.name = some column
  /-- All rows have these columns. -/
  same : ∀ row ∈ rows, row.keys = columns.map Column.name
  /-- The header has the captions between its borders. -/
  header : Framed (columns.map Column.width)
    (columns.map fun column => column.alignment.fitLine column.caption column.width) sheet.header
  /-- The body has a line for each line of each row, and the separators. -/
  lineCount : (Text.lines sheet.body).length =
    1 + (rows.map fun row => row.lineCount + 1).sum
  /-- All lines are as long as the header. -/
  lineLength : ∀ line ∈ Text.lines sheet.body, line.length = sheet.header.length
  /-- The first line is a separator. -/
  top : (Text.lines sheet.body)[0]? = some (List.replicate sheet.header.length '-')
  /-- The line after the lines of a row is a separator. -/
  separators : ∀ i row, rows[i]? = some row →
    (Text.lines sheet.body)[blockAt rows i + row.lineCount]? =
      some (List.replicate sheet.header.length '-')
  /-- The lines of a row have the fitted lines of its cells between their borders. -/
  content : ∀ i row, rows[i]? = some row → ∀ k < row.lineCount, ∃ line,
    (Text.lines sheet.body)[blockAt rows i + k]? = some line ∧
      Framed (columns.map Column.width) (Row.fieldsOf columns k row) line

theorem not_mem_separator (width : Nat) : '\n' ∉ separator width := by
  intro h
  exact absurd (List.eq_of_mem_replicate h) (by decide)

/-- The body is a separator, and then the lines of each row with a separator. -/
theorem lines_bodyOf (rows : List Row) (width : Nat) :
    Text.lines (bodyOf rows width) =
      separator width :: rows.flatMap fun row => Text.lines row.printed ++ [separator width] := by
  have hsep : Text.lines (separator width) = [separator width] :=
    Text.pieces_of_not_mem (not_mem_separator width)
  rw [bodyOf, Text.lines, Text.unlines, Text.pieces_join_eq_flatMap _ (List.cons_ne_nil _ _),
    List.flatMap_cons, List.flatMap_assoc]
  change Text.lines (separator width) ++ _ = _
  rw [hsep, List.singleton_append]
  refine congrArg _ (List.flatMap_congr fun row _ => ?_)
  change Text.lines row.printed ++ (Text.lines (separator width) ++ []) = _
  rw [hsep, List.append_nil]

/-- The lines of a row with its cells in some columns, and the separator after them. -/
def block (columns : List Column) (width : Nat) (row : Row) : List Text :=
  (List.range row.lineCount).map (fun n => Row.bordered (Row.fieldsOf columns n row)) ++
    [separator width]

@[simp] theorem length_block (columns : List Column) (width : Nat) (row : Row) :
    (block columns width row).length = row.lineCount + 1 := by
  simp [block]

theorem mem_block {columns : List Column} {width : Nat} {row : Row} {line : Text}
    (h : line ∈ block columns width row) :
    line = separator width ∨ ∃ k, line = Row.bordered (Row.fieldsOf columns k row) := by
  rw [block, List.mem_append, List.mem_singleton] at h
  cases h with
  | inl hline =>
    obtain ⟨k, -, rfl⟩ := List.mem_map.1 hline
    exact .inr ⟨k, rfl⟩
  | inr hsep => exact .inl hsep

section

variable {schema : Schema} {columns : List Column} {rows : List Row}
  (hdeclared : ∀ column ∈ columns, schema.find? column.name = some column)
  (hrows : ∀ row ∈ rows, row.entries ≠ [] ∧ row.keys = columns.map Column.name)

include hdeclared hrows

/-- The heads over the cells of the first row are the captions of the columns. -/
theorem headerLine_fit (defaultWidth : Nat) (hne : rows ≠ []) :
    headerLine schema defaultWidth (rows.map (Row.fit schema)) =
      Row.bordered
        (columns.map fun column => column.alignment.fitLine column.caption column.width) := by
  obtain ⟨first, rest, rfl⟩ := List.exists_cons_of_ne_nil hne
  obtain ⟨-, hkeys⟩ := hrows first List.mem_cons_self
  have hfit : (first.fit schema).keys = columns.map Column.name :=
    (first.keys_fit schema).trans hkeys
  rw [List.map_cons, headerLine]
  refine congrArg Row.bordered ?_
  rw [Row.map_entries_eq_zipWith hfit
    (g := fun column _ => column.alignment.fitLine column.caption column.width)]
  · rw [← List.map_uncurry_zip_eq_zipWith]
    have hfst := List.map_fst_zip (Nat.le_of_eq (Row.length_entries hfit).symm)
    conv_rhs => rw [← hfst, List.map_map]
    rfl
  · intro column hc cell hname
    rw [head, hname, hdeclared column hc]

/-- The body is a separator, and then a block of lines for each row. -/
theorem lines_bodyOf_fit (width : Nat) :
    Text.lines (bodyOf (rows.map (Row.fit schema)) width) =
      separator width :: rows.flatMap (block columns width) := by
  rw [lines_bodyOf, List.flatMap_map]
  refine congrArg _ (List.flatMap_congr fun row hrow => ?_)
  obtain ⟨hne, hkeys⟩ := hrows row hrow
  rw [Row.lines_printed_fit hne hkeys hdeclared, block]

/-- A line of the body behind the start of a row is a line of its block. -/
theorem getElem?_lines_bodyOf_fit (width i : Nat) (row : Row) (hrow : rows[i]? = some row)
    {k : Nat} (hk : k ≤ row.lineCount) :
    (Text.lines (bodyOf (rows.map (Row.fit schema)) width))[blockAt rows i + k]? =
      (block columns width row)[k]? := by
  have hlt : k < (block columns width row).length := by
    rw [length_block]
    exact Nat.lt_succ_of_le hk
  have hflat := getElem?_flatMap (block columns width) hrow hlt
  simp only [length_block] at hflat
  rw [lines_bodyOf_fit hdeclared hrows, blockAt, Nat.add_assoc, Nat.add_comm 1,
    List.getElem?_cons_succ, hflat]

/-- A sheet of fitted rows is drawn. -/
theorem drawn_ofRows (defaultWidth : Nat) (title : Option Text) (hne : rows ≠ []) :
    Drawn schema columns rows (ofRows schema defaultWidth title (rows.map (Row.fit schema))) := by
  have hheader : Framed (columns.map Column.width)
      (columns.map fun column => column.alignment.fitLine column.caption column.width)
      (headerLine schema defaultWidth (rows.map (Row.fit schema))) := by
    rw [headerLine_fit hdeclared hrows defaultWidth hne]
    refine Row.framed_bordered ?_
    simp [Function.comp_def]
  have hwidth := hheader.length
  -- every line of a row is framed in the same way as the header
  have hframed : ∀ row ∈ rows, ∀ k, Framed (columns.map Column.width)
      (Row.fieldsOf columns k row) (Row.bordered (Row.fieldsOf columns k row)) := fun row hrow k =>
    Row.framed_bordered (Row.map_length_fieldsOf k (hrows row hrow).2)
  unfold ofRows
  generalize hw : (headerLine schema defaultWidth (rows.map (Row.fit schema))).length = width
    at hwidth
  have hbody := lines_bodyOf_fit hdeclared hrows width
  have hat := getElem?_lines_bodyOf_fit hdeclared hrows width
  subst hw
  constructor
  · exact hdeclared
  · exact fun row hrow => (hrows row hrow).2
  · exact hheader
  · rw [hbody]
    simp only [List.length_cons, List.length_flatMap, length_block]
    omega
  · intro line hline
    rw [hbody, List.mem_cons, List.mem_flatMap] at hline
    rcases hline with rfl | ⟨row, hrow, hmem⟩
    · exact List.length_replicate
    · cases mem_block hmem with
      | inl hsep =>
        subst hsep
        exact List.length_replicate
      | inr hk =>
        obtain ⟨k, rfl⟩ := hk
        exact (hframed row hrow k).length.trans hwidth.symm
  · rw [hbody]
    rfl
  · intro i row hrow
    rw [hat i row hrow (Nat.le_refl _), block, List.getElem?_append_right (by simp)]
    simp [separator]
  · intro i row hrow k hk
    refine ⟨_, ?_, hframed row (List.mem_of_getElem? hrow) k⟩
    rw [hat i row hrow (Nat.le_of_lt hk), block, List.getElem?_append_left (by simpa using hk)]
    simp [hk]

end

end Sheet

namespace TablePattern

/-- The sheet of every pattern and every table that is accepted is drawn, and without
rows to show its body is one separator. -/
theorem sheet_drawn (defaultWidth : Nat) (pattern data : Text) (rows : List Row)
    (h : Table.load data = .ok rows) :
    let p := (ofText defaultWidth pattern).result
    let selected := (p.select rows).result
    let sheet := (p.sheet defaultWidth rows).result
    (selected = [] → sheet.body = List.replicate sheet.header.length '-') ∧
      (selected ≠ [] → ∃ columns, Sheet.Drawn p.schema columns selected sheet) := by
  intro p selected sheet
  have hp : p.Checked := checked_ofText defaultWidth pattern
  have hsheet : sheet =
      Sheet.ofRows p.schema defaultWidth p.title (selected.map (Row.fit p.schema)) := rfl
  rw [hsheet]
  constructor
  · intro hempty
    rw [hempty]
    rfl
  · intro hne
    obtain ⟨columns, hdeclared, hcolumns⟩ := columns_groupedRows hp fun _ => Table.keys_of_load h
    have hselected : selected.Sublist (p.groupedRows rows) := Condition.select_sublist _ _
    exact ⟨columns, Sheet.drawn_ofRows hdeclared
      (fun row hrow => hcolumns row (hselected.subset hrow)) defaultWidth p.title hne⟩

/-- A grouped table with a name of no column, a cell of two lines and a cut one. -/
theorem sheet_drawn_of_lines :
    let pattern : Text :=
      "table columns: A|str-5; N|int-3-r-kg#group: fields|A; data|sum; N#filter: N > 1"
    let data : Text := "a,n,x\nup\ndown,2,0#longer,7,0#up\ndown,3,0#b,1,0"
    let row (a n : String) : Row := Keyed.ofList
      [⟨"A", .text a⟩, ⟨"N", .text n⟩, ⟨"X", .text "0"⟩]
    let rows : List Row := [row "up\ndown" "2", row "longer" "7", row "up\ndown" "3", row "b" "1"]
    let p := (ofText 20 pattern).result
    Table.load data = .ok rows ∧
      ∃ columns, Sheet.Drawn p.schema columns (p.select rows).result (p.sheet 20 rows).result := by
  intro pattern data row rows p
  have hload : Table.load data = .ok rows := by decide +kernel
  have hne : (p.select rows).result ≠ [] := by decide +kernel
  exact ⟨hload, (sheet_drawn 20 pattern data rows hload).2 hne⟩

end TablePattern

end PlainReport
