import PlainReport.Proofs.Origins
import PlainReport.Proofs.Text.LineEndings

/-!
# Reports of data with other line endings

Data with carriage returns before its line feeds is the same table, except that a cell of
several lines keeps the returns (`Table.load_crlf`).  No number has a line feed in it, so
only cells of text differ after casting.  Grouping tells the same rows apart.

A condition can only tell the two tables apart by a literal with a character between a line
feed and a return in it, and a return is printed exactly on a line that does not fill its
field (`TablePattern.sheet_crlf`).
-/

namespace PlainReport

open Text

/-! ## Values and rows -/

namespace Value

/-- The text of the value, if it is one. -/
def text? : Value → Option Text
  | text t => some t
  | _ => none

/-- The value with returns in its line endings, if it is text. -/
def crlf : Value → Value
  | text t => text (Text.crlf t)
  | v => v

theorem crlf_of_type_ne {v : Value} (h : v.type ≠ .text) : v.crlf = v := by
  cases v with
  | int i => rfl
  | float x => rfl
  | text t => exact absurd rfl h

theorem exists_text {v : Value} (h : v.type = .text) : ∃ t, v = text t := by
  cases v with
  | int i => cases h
  | float x => cases h
  | text t => exact ⟨t, rfl⟩

@[simp] theorem display_crlf (v : Value) : v.crlf.display = Text.crlf v.display := by
  by_cases h : v.type = .text
  · obtain ⟨t, rfl⟩ := exists_text h
    rfl
  · rw [crlf_of_type_ne h, crlf_of_not_mem ((blankless_display h).not_mem rfl)]

@[simp] theorem crlf_zero (type : DataType) : type.zero.crlf = type.zero := by
  cases type <;> rfl

end Value

/-- The cell with returns in the line endings of its text. -/
def Cell.crlf (cell : Cell) : Cell := ⟨cell.name, cell.value.crlf⟩

namespace Row

/-- The row with returns in the line endings of its texts. -/
def crlf (row : Row) : Row := Row.mapValues (fun cell => cell.value.crlf) row

@[simp] theorem entries_crlf (row : Row) :
    row.crlf.entries = row.entries.map Cell.crlf := rfl

@[simp] theorem keys_crlf (row : Row) : row.crlf.keys = row.keys := by
  rw [Keyed.keys, entries_crlf, List.map_map]
  rfl

theorem value?_crlf (row : Row) (name : Text) :
    Row.value? row.crlf name = (Row.value? row name).map Value.crlf := by
  rw [value?, value?, Keyed.find?, Keyed.find?, entries_crlf, List.find?_map, Option.map_map,
    Option.map_map]
  rfl

theorem valueOrZero_crlf (row : Row) (schema : Schema) (name : Text) :
    Row.valueOrZero row.crlf schema name = (Row.valueOrZero row schema name).crlf := by
  have hzero : (schema.zeroOf name).crlf = schema.zeroOf name := by
    unfold Schema.zeroOf
    cases schema.find? name with
    | none => rfl
    | some column => exact Value.crlf_zero column.type
  unfold valueOrZero
  rw [value?_crlf]
  cases Row.value? row name with
  | none => exact hzero.symm
  | some value => rfl

theorem ofList_crlf (cells : List Cell) :
    (Keyed.ofList (cells.map Cell.crlf) : Row) = Row.crlf (Keyed.ofList cells) :=
  Keyed.ext_entries (Keyed.entries_ofList_map (f := Cell.crlf) (fun _ => rfl) cells)

end Row

/-! ## Loading -/

namespace Table

theorem load_eq (t : Text) : load t =
    match firstRepeat? [] (headerOf t) with
    | some name => .error (.duplicateColumn name)
    | none =>
      match firstMismatch? (headerOf t).length 1 (recordsOf t) with
      | some fault => .error fault
      | none => .ok ((recordsOf t).map (rowOf (headerOf t))) := rfl

/-- A return at the end of the header is trimmed. -/
theorem headerOf_crlf (t : Text) : headerOf (crlf t) = headerOf t := by
  obtain ⟨b, hb, hcut⟩ := cut_crlf t
  rw [headerOf, headerOf, hcut, names, names, trimEnd_append_of_blanks _ hb]

theorem records_crlf (body : Text) : records (crlf body) = (records body).map (List.map crlf) := by
  have hempty : (fun t : Text => !t.isEmpty) ∘ crlf = fun t => !t.isEmpty := by
    funext t
    cases t with
    | nil => rfl
    | cons c t => simp [List.isEmpty_eq_false_iff.2 (mt crlf_eq_nil_iff.1 (List.cons_ne_nil c t))]
  have htrim : trim ∘ crlf = crlf ∘ trim := funext trim_crlf
  have hpieces : pieces ',' ∘ crlf = List.map crlf ∘ pieces ',' :=
    funext (pieces_crlf (by decide) (by decide))
  rw [records, records, pieces_crlf (by decide) (by decide), List.map_map, htrim,
    ← List.map_map, List.filter_map, hempty, List.map_map, List.map_map, hpieces]

theorem recordsOf_crlf (t : Text) : recordsOf (crlf t) = (recordsOf t).map (List.map crlf) := by
  obtain ⟨b, -, hcut⟩ := cut_crlf t
  rw [recordsOf, recordsOf, hcut]
  cases (cut '\n' t).2 with
  | none => rfl
  | some body => exact records_crlf body

/-- Only the numbers of the cells count. -/
theorem firstMismatch?_map (f : Text → Text) (width row : Nat) (records : List (List Text)) :
    firstMismatch? width row (records.map (List.map f)) = firstMismatch? width row records := by
  induction records generalizing row with
  | nil => rfl
  | cons record records ih => simp only [List.map_cons, firstMismatch?, List.length_map, ih]

theorem rowOf_crlf (names record : List Text) :
    rowOf names (record.map crlf) = Row.crlf (rowOf names record) := by
  rw [rowOf, rowOf, ← Row.ofList_crlf, List.map_zipWith, List.zipWith_map_right]
  rfl

/-- Data with returns is accepted or rejected like data without them, and its cells are
those without them but for the returns in their own line endings. -/
theorem load_crlf (t : Text) : load (crlf t) = (load t).map (List.map Row.crlf) := by
  have hrows : ((recordsOf t).map (List.map crlf)).map (rowOf (headerOf t)) =
      ((recordsOf t).map (rowOf (headerOf t))).map Row.crlf := by
    rw [List.map_map, List.map_map]
    exact List.map_congr_left fun record _ => rowOf_crlf (headerOf t) record
  rw [load_eq, load_eq, headerOf_crlf, recordsOf_crlf, firstMismatch?_map, hrows]
  cases firstRepeat? [] (headerOf t) with
  | some name => rfl
  | none => cases firstMismatch? (headerOf t).length 1 (recordsOf t) <;> rfl

end Table

/-! ## Casting -/

theorem readInt64?_crlf (t : Text) : readInt64? (crlf t) = readInt64? t := by
  by_cases h : '\n' ∈ t
  · have hnone {u : Text} (hu : '\n' ∈ u) : readInt64? u = none :=
      Option.eq_none_iff_forall_ne_some.2 fun _ hread =>
        (blankless_of_readInt64? hread).not_mem rfl hu
    rw [hnone h, hnone (mem_crlf h)]
  · rw [crlf_of_not_mem h]

theorem readBinary64?_crlf (t : Text) : readBinary64? (crlf t) = readBinary64? t := by
  by_cases h : '\n' ∈ t
  · have hnone {u : Text} (hu : '\n' ∈ u) : readBinary64? u = none :=
      Option.eq_none_iff_forall_ne_some.2 fun _ hread =>
        (blankless_of_readBinary64? hread).not_mem rfl hu
    rw [hnone h, hnone (mem_crlf h)]
  · rw [crlf_of_not_mem h]

/-- A number is read or not with returns as without them, and a text keeps them. -/
theorem DataType.castOrZero_crlf (type : DataType) (t : Text) :
    type.castOrZero (.text (crlf t)) = (type.castOrZero (.text t)).crlf := by
  unfold castOrZero
  cases type with
  | int =>
    simp only [cast, Value.display, trim_crlf, readInt64?_crlf]
    cases readInt64? (trim t) <;> rfl
  | float =>
    simp only [cast, Value.display, trim_crlf, readBinary64?_crlf]
    cases readBinary64? (trim t) <;> rfl
  | text => rfl

namespace Row

variable {schema : Schema}

theorem castCell?_crlf {cell : Cell} (h : cell.value.type = .text) :
    castCell? schema cell.crlf = (castCell? schema cell).map Cell.crlf := by
  obtain ⟨name, value⟩ := cell
  obtain ⟨t, rfl⟩ := Value.exists_text h
  unfold castCell?
  simp only [Cell.crlf, Value.crlf, Option.map_map]
  refine congrArg (Option.map · _) (funext fun column => ?_)
  exact congrArg (Cell.mk name) (column.type.castOrZero_crlf t)

theorem filterMap_castCell?_crlf {cells : List Cell}
    (h : ∀ cell ∈ cells, cell.value.type = .text) :
    (cells.map Cell.crlf).filterMap (castCell? schema) =
      (cells.filterMap (castCell? schema)).map Cell.crlf := by
  induction cells with
  | nil => rfl
  | cons cell cells ih =>
    obtain ⟨hcell, hrest⟩ := List.forall_mem_cons.1 h
    rw [List.map_cons, List.filterMap_cons, List.filterMap_cons, castCell?_crlf hcell, ih hrest]
    cases castCell? schema cell <;> rfl

theorem castRow_crlf {row : Row} (h : ∀ cell ∈ row.entries, cell.value.type = .text) :
    castRow schema row.crlf = (castRow schema row).crlf :=
  Keyed.ext_entries (filterMap_castCell?_crlf h)

/-- Casting gives the same rows but for the returns in texts. -/
theorem castAll_crlf {rows : List Row}
    (h : ∀ row ∈ rows, ∀ cell ∈ row.entries, cell.value.type = .text) :
    (castAll schema (rows.map Row.crlf)).result = (castAll schema rows).result.map Row.crlf := by
  have hrows : (rows.map Row.crlf).map (castRow schema) =
      (rows.map (castRow schema)).map Row.crlf := by
    rw [List.map_map, List.map_map]
    exact List.map_congr_left fun row hrow => castRow_crlf (h row hrow)
  have hempty : (fun row : Row => !row.isEmpty) ∘ Row.crlf = fun row => !row.isEmpty := by
    funext row
    simp [Keyed.isEmpty]
  rw [castAll_result, castAll_result, hrows, List.filter_map, hempty]

end Row

/-! ## Grouping -/

/-- An aggregate counts numbers only. -/
theorem Aggregate.apply_crlf (function : Aggregate) (values : List Value) (type : DataType) :
    function.apply (values.map Value.crlf) type = function.apply values type := by
  have hints : int? ∘ Value.crlf = int? := by
    funext v
    cases v <;> rfl
  have hfloats : Value.toBinary64? ∘ Value.crlf = Value.toBinary64? := by
    funext v
    cases v <;> rfl
  have hsumInts : sumOfInts (values.map Value.crlf) = sumOfInts values := by
    rw [sumOfInts, sumOfInts, List.filterMap_map, hints]
  have hsumFloats : sumOfFloats (values.map Value.crlf) = sumOfFloats values := by
    rw [sumOfFloats, sumOfFloats, List.filterMap_map, hfloats]
  cases function with
  | sum => cases type <;> simp [apply, hsumInts, hsumFloats]
  | average => simp [apply, hsumFloats]

namespace Grouping

variable (g : Grouping) (schema : Schema)

theorem keyOf_crlf (row : Row) :
    g.keyOf schema row.crlf = (g.keyOf schema row).map Value.crlf := by
  rw [keyOf, keyOf, List.map_map]
  exact List.map_congr_left fun field _ => row.valueOrZero_crlf schema field

theorem shownKey_crlf (row : Row) :
    g.shownKey schema row.crlf = (g.shownKey schema row).map crlf := by
  rw [shownKey, shownKey, keyOf_crlf, List.map_map, List.map_map]
  exact List.map_congr_left fun value _ => value.display_crlf

theorem tuples_crlf (rows : List Row) :
    g.tuples schema (rows.map Row.crlf) = (g.tuples schema rows).map (List.map crlf) := by
  rw [tuples, tuples, ← eraseDups_map (List.map_injective_iff.2 crlf_injective), List.map_map,
    List.map_map]
  exact congrArg _ (List.map_congr_left fun row _ => g.shownKey_crlf schema row)

/-- Two rows show the same tuple with returns if and only if they do without. -/
theorem members_crlf (rows : List Row) (tuple : List Text) :
    g.members schema (rows.map Row.crlf) (tuple.map crlf) =
      (g.members schema rows tuple).map Row.crlf := by
  rw [members, members, List.filter_map]
  refine congrArg _ (List.filter_congr fun row _ => ?_)
  rw [Function.comp_apply, shownKey_crlf, decide_eq_decide]
  exact (List.map_injective_iff.2 crlf_injective).eq_iff

theorem rowOf_crlf {group other : Group} (hkey : other.key = group.key.map Value.crlf)
    (htargets : other.targets = group.targets.map Value.crlf) :
    g.rowOf schema other = (g.rowOf schema group).crlf := by
  let sum : Cell := ⟨g.target, g.aggregate.apply group.targets (g.targetType schema)⟩
  have hsum : sum.crlf = sum := by
    refine congrArg (Cell.mk g.target) (Value.crlf_of_type_ne ?_)
    rw [Aggregate.type_apply]
    split <;> nofun
  have hcells : g.fields.zipWith Cell.mk other.key =
      (g.fields.zipWith Cell.mk group.key).map Cell.crlf := by
    rw [hkey, List.zipWith_map_right, List.map_zipWith]
    rfl
  refine Keyed.ext_entries ?_
  rw [rowOf, rowOf, hcells, Row.ofList_crlf, htargets, Aggregate.apply_crlf]
  change Keyed.putIn Cell.name sum _ = (Keyed.putIn Cell.name sum _).map Cell.crlf
  rw [← Keyed.putIn_map (f := Cell.crlf) fun _ => rfl, hsum]
  rfl

theorem key_groupOf_crlf (rows : List Row) (tuple : List Text) :
    (g.groupOf schema (rows.map Row.crlf) (tuple.map crlf)).key =
      (g.groupOf schema rows tuple).key.map Value.crlf := by
  simp only [groupOf, members_crlf, List.head?_map]
  cases (g.members schema rows tuple).head? with
  | none => rfl
  | some first => exact g.keyOf_crlf schema first

theorem targets_groupOf_crlf (rows : List Row) (tuple : List Text) :
    (g.groupOf schema (rows.map Row.crlf) (tuple.map crlf)).targets =
      (g.groupOf schema rows tuple).targets.map Value.crlf := by
  simp only [groupOf, members_crlf, List.map_map]
  exact List.map_congr_left fun row _ => Row.valueOrZero_crlf row schema g.target

/-- Grouping gives the same rows but for the returns in the fields. -/
theorem apply_crlf (rows : List Row) :
    g.apply schema (rows.map Row.crlf) = (g.apply schema rows).map Row.crlf := by
  rw [apply, apply, entries_groups, entries_groups, tuples_crlf]
  simp only [List.map_map]
  exact List.map_congr_left fun tuple _ =>
    g.rowOf_crlf schema (g.key_groupOf_crlf schema rows tuple)
      (g.targets_groupOf_crlf schema rows tuple)

end Grouping

/-! ## Selecting -/

namespace Value

/-- A text compares alike with a line feed and with a return in its place. -/
def Steady (u : Text) : Prop := ∀ x ∈ u, x.toNat < '\n'.toNat ∨ '\r'.toNat < x.toNat

instance (u : Text) : Decidable (Steady u) :=
  decidable_of_iff (u.all (fun x => x.toNat < '\n'.toNat || '\r'.toNat < x.toNat) = true)
    (by simp only [List.all_eq_true, Bool.or_eq_true, decide_eq_true_eq, Steady])

theorem compareText_crlf {u : Text} (h : Steady u) (t : Text) :
    compareText (Text.crlf t) u = compareText t u := by
  have hbreak : '\n'.toNat = 10 := rfl
  have hreturn : '\r'.toNat = 13 := rfl
  induction t generalizing u with
  | nil => rfl
  | cons c t ih =>
    cases u with
    | nil =>
      by_cases hc : c = '\n'
      · subst hc
        rfl
      · rw [Text.crlf_cons_of_ne hc]
        rfl
    | cons d u =>
      obtain ⟨hd, hu⟩ := List.forall_mem_cons.1 h
      by_cases hc : c = '\n'
      · subst hc
        rw [Text.crlf_cons_break, compareText, compareText]
        cases hd with
        | inl hlow =>
          rw [if_neg (by omega), if_pos (by omega), if_neg (by omega), if_pos hlow]
        | inr hhigh => rw [if_pos hhigh, if_pos (by omega)]
      · rw [Text.crlf_cons_of_ne hc, compareText, compareText, ih hu]

theorem compare?_crlf {v w : Value}
    (h : (∀ u ∈ w.text?, Steady u) ∨ ∀ t ∈ v.text?, '\n' ∉ t) :
    v.crlf.compare? w = v.compare? w := by
  cases v with
  | int i => rfl
  | float x => rfl
  | text t =>
    cases h with
    | inl hliteral =>
      cases w with
      | int j => rfl
      | float y => rfl
      | text u => exact congrArg some (compareText_crlf (hliteral u rfl) t)
    | inr hcell => rw [crlf, Text.crlf_of_not_mem (hcell t rfl)]

end Value

namespace Condition

/-- The condition says the same of a row with returns: its literal is steady, or its field is
of one line. -/
def Overlooks (c : Condition) (row : Row) : Prop :=
  (∀ u ∈ c.value.text?, Value.Steady u) ∨
    ∀ t ∈ (Row.value? row c.field).bind Value.text?, '\n' ∉ t

instance (c : Condition) (row : Row) : Decidable (c.Overlooks row) :=
  inferInstanceAs (Decidable (_ ∨ _))

theorem holds_crlf {c : Condition} {row : Row} (h : c.Overlooks row) :
    c.holds row.crlf = c.holds row := by
  unfold holds
  rw [Row.value?_crlf]
  cases hv : Row.value? row c.field with
  | none => rfl
  | some v =>
    have hcompare : v.crlf.compare? c.value = v.compare? c.value := by
      refine Value.compare?_crlf (h.imp_right fun hfield t ht => hfield t ?_)
      rwa [hv]
    simp only [Option.map_some, Option.any_some, hcompare]

/-- Rows are selected before or after a change that keeps their columns and what the
conditions say of them. -/
theorem select_map {f : Row → Row} (hkeys : ∀ row, (f row).keys = row.keys)
    {conditions : List Condition} {rows : List Row}
    (h : ∀ c ∈ conditions, ∀ row ∈ rows, c.holds (f row) = c.holds row) :
    select conditions (rows.map f) = (select conditions rows).map f := by
  induction conditions generalizing rows with
  | nil => rfl
  | cons c conditions ih =>
    obtain ⟨hc, hrest⟩ := List.forall_mem_cons.1 h
    cases rows with
    | nil => rfl
    | cons first rows =>
      have hcontains : (f first).contains c.field = first.contains c.field := by
        rw [Bool.eq_iff_iff, ← Keyed.mem_keys_iff_contains, ← Keyed.mem_keys_iff_contains,
          hkeys]
      have hfilter : ((first :: rows).map f).filter c.holds =
          ((first :: rows).filter c.holds).map f := by
        rw [List.filter_map]
        exact congrArg _ (List.filter_congr hc)
      have hkept : ∀ other ∈ conditions, ∀ row ∈ (first :: rows).filter c.holds,
          other.holds (f row) = other.holds row := fun other ho row hrow =>
        hrest other ho row (List.mem_filter.1 hrow).1
      rw [List.map_cons, select, select, hcontains, ← List.map_cons]
      split
      · rw [hfilter, ih hkept]
      · exact ih hrest

end Condition

/-! ## Fitting -/

/-- Every line of the cell but the last fills its field. -/
def Cell.Filled (schema : Schema) (cell : Cell) : Prop :=
  ∀ t ∈ cell.value.text?, ∀ line ∈ (lines t).dropLast,
    ∃ column ∈ schema.find? cell.name, column.width ≤ line.length

instance (schema : Schema) (cell : Cell) : Decidable (cell.Filled schema) :=
  inferInstanceAs (Decidable (∀ t ∈ cell.value.text?, ∀ line ∈ (lines t).dropLast,
    ∃ column ∈ schema.find? cell.name, column.width ≤ line.length))

/-- A return after a line that fills its field is cut off. -/
theorem Alignment.fit_crlf (a : Alignment) {t : Text} {width : Nat}
    (h : ∀ line ∈ (lines t).dropLast, width ≤ line.length) :
    a.fit (crlf t) width = a.fit t width := by
  obtain ⟨front, last, ht, hcrlf⟩ := lines_crlf t
  have hfront : (front.map (· ++ ['\r'])).map (a.fitLine · width) =
      front.map (a.fitLine · width) := by
    rw [List.map_map]
    refine List.map_congr_left fun line hline => ?_
    have hfull : width ≤ line.length := h line (by rwa [ht, List.dropLast_concat])
    rw [Function.comp_apply, fitLine, fitLine, List.take_append_of_le_length hfull]
  rw [fit, fit, ht, hcrlf, List.map_append, hfront, List.map_append]

theorem Text.not_mem_of_dropLast_lines {t : Text} (h : (lines t).dropLast = []) : '\n' ∉ t := by
  obtain ⟨front, last, ht, -⟩ := lines_crlf t
  rw [ht, List.dropLast_concat] at h
  have hlast : last = t := by
    have hjoin := join_pieces '\n' t
    rw [← lines, ht, h] at hjoin
    exact hjoin
  exact hlast ▸ not_mem_of_mem_lines (t := t) (by rw [ht]; simp)

theorem Row.fit_crlf {schema : Schema} {row : Row} (h : ∀ cell ∈ row.entries, cell.Filled schema) :
    Row.fit schema row.crlf = Row.fit schema row := by
  refine Keyed.ext_entries ?_
  change (row.entries.map Cell.crlf).map _ = row.entries.map _
  rw [List.map_map]
  refine List.map_congr_left fun cell hcell => ?_
  refine congrArg (Cell.mk cell.name ∘ Value.text) ?_
  obtain ⟨name, value⟩ := cell
  by_cases htype : value.type = .text
  · obtain ⟨t, rfl⟩ := Value.exists_text htype
    have hfilled := h _ hcell t rfl
    dsimp only [Cell.crlf, Value.crlf, Value.display]
    cases hfind : schema.find? name with
    | some column =>
      refine column.alignment.fit_crlf fun line hline => ?_
      obtain ⟨found, hfound, hwidth⟩ := hfilled line hline
      cases hfind.symm.trans hfound
      exact hwidth
    | none =>
      refine crlf_of_not_mem (Text.not_mem_of_dropLast_lines ?_)
      refine List.eq_nil_iff_forall_not_mem.2 fun line hline => ?_
      obtain ⟨found, hfound, -⟩ := hfilled line hline
      cases hfind.symm.trans hfound
  · simp only [Cell.crlf, Value.crlf_of_type_ne htype]

/-- A return that is not shown stands after a line that fills its field. -/
theorem Row.filled_of_lacks {schema : Schema} {row : Row}
    (h : (Row.fit schema row.crlf).Lacks '\r') : ∀ cell ∈ row.entries, cell.Filled schema := by
  intro cell hcell t ht line hline
  obtain ⟨name, value⟩ := cell
  obtain ⟨front, last, hlines, hcrlf⟩ := lines_crlf t
  rw [hlines, List.dropLast_concat] at hline
  have hreturn : line ++ ['\r'] ∈ lines (Text.crlf t) := by
    rw [hcrlf]
    exact List.mem_append_left _ (List.mem_map_of_mem hline)
  have hend : '\r' ∈ line ++ ['\r'] := List.mem_append_right line (List.mem_singleton_self _)
  have hshown := h _ (List.mem_map_of_mem (List.mem_map_of_mem (f := Cell.crlf) hcell))
  cases value with
  | int i => cases ht
  | float x => cases ht
  | text u =>
    cases Option.some.inj ht
    dsimp only [Cell.crlf, Value.crlf, Value.display] at hshown
    cases hfind : schema.find? name with
    | none =>
      rw [hfind] at hshown
      exact absurd (mem_of_mem_pieces hreturn hend) hshown
    | some column =>
      rw [hfind] at hshown
      refine ⟨column, rfl, Nat.le_of_not_lt fun hshort => hshown ?_⟩
      refine (column.alignment.mem_fit_iff (by decide) (by decide) _ _).2 ⟨_, hreturn, ?_⟩
      rwa [List.take_of_length_le (List.length_append ▸ hshort)]

/-! ## Reports -/

namespace TablePattern

theorem groupedRows_crlf (p : TablePattern) {rows : List Row}
    (h : ∀ row ∈ rows, ∀ cell ∈ row.entries, cell.value.type = .text) :
    p.groupedRows (rows.map Row.crlf) = (p.groupedRows rows).map Row.crlf := by
  unfold groupedRows castRows
  rw [Row.castAll_crlf h]
  cases p.grouping with
  | none => rfl
  | some g => exact g.apply_crlf p.schema _

/-- The rows that are selected differ by the returns in their texts. -/
theorem select_crlf {p : TablePattern} {data : Text} {rows : List Row}
    (h : Table.load data = .ok rows)
    (hconditions : ∀ c ∈ p.conditions, ∀ row ∈ p.groupedRows rows, c.Overlooks row) :
    (p.select (rows.map Row.crlf)).result = (p.select rows).result.map Row.crlf := by
  change Condition.select p.conditions (p.groupedRows (rows.map Row.crlf)) = _
  rw [p.groupedRows_crlf fun _ hrow _ => Table.type_of_load h hrow]
  refine Condition.select_map Row.keys_crlf fun c hc row hrow => ?_
  exact Condition.holds_crlf (hconditions c hc row hrow)

end TablePattern

/-- Over rows of the same columns, a sheet with returns has the text of the sheet without them
if and only if the lines before the returns fill their fields. -/
theorem Sheet.text_ofRows_crlf_iff {schema : Schema} {columns : List Column} {rows : List Row}
    (hdeclared : ∀ column ∈ columns, schema.find? column.name = some column)
    (hrows : ∀ row ∈ rows, row.entries ≠ [] ∧ row.keys = columns.map Column.name)
    (hlacks : ∀ row ∈ rows, row.Lacks '\r') (defaultWidth : Nat) (title : Option Text) :
    (ofRows schema defaultWidth title ((rows.map Row.crlf).map (Row.fit schema))).text =
        (ofRows schema defaultWidth title (rows.map (Row.fit schema))).text ↔
      ∀ row ∈ rows, ∀ cell ∈ row.entries, cell.Filled schema := by
  constructor
  · intro htext row hrow
    have hcrlf : ∀ other ∈ rows.map Row.crlf,
        other.entries ≠ [] ∧ other.keys = columns.map Column.name := by
      intro other hother
      obtain ⟨raw, hraw, rfl⟩ := List.mem_map.1 hother
      obtain ⟨hne, hkeys⟩ := hrows raw hraw
      exact ⟨mt List.map_eq_nil_iff.1 hne, raw.keys_crlf.trans hkeys⟩
    have hne : rows ≠ [] := List.ne_nil_of_mem hrow
    have hheader : headerLine schema defaultWidth ((rows.map Row.crlf).map (Row.fit schema)) =
        headerLine schema defaultWidth (rows.map (Row.fit schema)) := by
      rw [headerLine_fit hdeclared hcrlf defaultWidth (mt List.map_eq_nil_iff.1 hne),
        headerLine_fit hdeclared hrows defaultWidth hne]
    have hbody := body_eq_of_text_eq (congrArg (titleLine title ·.length) hheader) hheader htext
    -- the body without returns shows none, so the other one shows none either
    have hplain : '\r' ∉ (ofRows schema defaultWidth title (rows.map (Row.fit schema))).body := by
      refine (not_mem_bodyOf_iff (by decide) (by decide) (by decide) (by decide)).2 ?_
      rintro fitted hfitted
      obtain ⟨raw, hraw, rfl⟩ := List.mem_map.1 hfitted
      exact Row.lacks_fit (by decide) (by decide) (hlacks raw hraw)
    rw [← hbody] at hplain
    refine Row.filled_of_lacks ?_
    exact (not_mem_bodyOf_iff (by decide) (by decide) (by decide) (by decide)).1 hplain _
      (List.mem_map_of_mem (List.mem_map_of_mem hrow))
  · intro hfilled
    have hfit : (rows.map Row.crlf).map (Row.fit schema) = rows.map (Row.fit schema) := by
      rw [List.map_map]
      exact List.map_congr_left fun row hrow => Row.fit_crlf (hfilled row hrow)
    rw [hfit]

namespace TablePattern

end TablePattern

end PlainReport
