import PlainReport.Proofs.Casting

/-!
# What casting reports

Casting reports at most one thing of each cell, in the order of the cells in the table: that
its column is not declared, if it is the first cell of that name, or that it cannot be read
(`Reports`).

Casting carries the names that were reported.  An undeclared name is among them if a cell of
that name came before (`Remembers`), and this stays so from cell to cell
(`remembers_castCells`).  So the notices are those of each cell after the ones before it
(`castAll_notices`).
-/

namespace PlainReport.Row

/-! ## The notice of a cell -/

/-- The cells of the rows in their order, each with its row. -/
def cellsOf (rows : List Row) : List (Row × Cell) :=
  rows.flatMap fun row => row.entries.map (row, ·)

/-- The names of some cells. -/
def namesOf (cells : List (Row × Cell)) : List Text := cells.map fun place => place.2.name

/-- What is reported of a cell of the table by its number. -/
inductive Reports (schema : Schema) (cells : List (Row × Cell)) (i : Nat) : CastNotice → Prop
  /-- Its column is not declared, and no cell before has its name. -/
  | undeclared {row : Row} {cell : Cell} (hcell : cells[i]? = some (row, cell))
      (hcolumn : schema.find? cell.name = none) (hfirst : cell.name ∉ namesOf (cells.take i)) :
      Reports schema cells i (.undeclared cell.name)
  /-- It does not read as the type of its column. -/
  | unreadable {row : Row} {cell : Cell} {column : Column} {error : CastError}
      (hcell : cells[i]? = some (row, cell)) (hcolumn : schema.find? cell.name = some column)
      (hcast : column.type.cast cell.value.display = .error error) :
      Reports schema cells i (.unreadable error row)

section

variable (schema : Schema)

/-- The notice of a cell after cells of some names. -/
def noticeOf? (earlier : List Text) (row : Row) (cell : Cell) : Option CastNotice :=
  match schema.find? cell.name with
  | none => if earlier.contains cell.name then none else some (.undeclared cell.name)
  | some column =>
    match column.type.cast cell.value.display with
    | .ok _ => none
    | .error error => some (.unreadable error row)

/-- The notices of cells after cells of some names. -/
def noticesOf : List Text → List (Row × Cell) → List CastNotice
  | _, [] => []
  | earlier, (row, cell) :: rest =>
    (noticeOf? schema earlier row cell).toList ++ noticesOf (earlier ++ [cell.name]) rest

theorem noticesOf_append (earlier : List Text) (cells others : List (Row × Cell)) :
    noticesOf schema earlier (cells ++ others) =
      noticesOf schema earlier cells ++ noticesOf schema (earlier ++ namesOf cells) others := by
  induction cells generalizing earlier with
  | nil => rw [List.nil_append, noticesOf, List.nil_append, namesOf, List.map_nil, List.append_nil]
  | cons place rest ih =>
    rw [List.cons_append, noticesOf, noticesOf, ih, List.append_assoc, List.append_assoc]
    rfl

end

/-! ## The names that were reported -/

/-- The undeclared names among those of the cells before are the ones reported. -/
def Remembers (schema : Schema) (earlier reported : List Text) : Prop :=
  ∀ name, schema.find? name = none → (name ∈ reported ↔ name ∈ earlier)

variable {schema : Schema} {earlier reported : List Text}

theorem Remembers.concat_of_declared (h : Remembers schema earlier reported) {name : Text}
    {column : Column} (hcolumn : schema.find? name = some column) :
    Remembers schema (earlier ++ [name]) reported := by
  intro other hother
  have hne : other ≠ name := by
    rintro rfl
    rw [hcolumn] at hother
    cases hother
  rw [h other hother, List.mem_append, List.mem_singleton, or_iff_left hne]

theorem Remembers.concat_of_mem (h : Remembers schema earlier reported) {name : Text}
    (hmem : name ∈ reported) : Remembers schema (earlier ++ [name]) reported := by
  intro other hother
  rw [List.mem_append, List.mem_singleton, ← h other hother]
  exact ⟨.inl, fun hor => hor.elim id fun he => he ▸ hmem⟩

theorem Remembers.concat (h : Remembers schema earlier reported) (name : Text) :
    Remembers schema (earlier ++ [name]) (name :: reported) := by
  intro other hother
  rw [List.mem_append, List.mem_singleton, List.mem_cons, h other hother, or_comm]

/-- Casting the cells of a row gives the notice of each of them, and what was reported is known
after them. -/
theorem remembers_castCells (row : Row) (cells : List Cell)
    (h : Remembers schema earlier reported) :
    Remembers schema (earlier ++ cells.map Cell.name) (castCells schema row reported cells).2.1 ∧
      (castCells schema row reported cells).2.2 =
        noticesOf schema earlier (cells.map (row, ·)) := by
  induction cells generalizing earlier reported with
  | nil => exact ⟨by rwa [List.map_nil, List.append_nil], rfl⟩
  | cons cell rest ih =>
    rw [List.map_cons, List.map_cons, List.append_cons, castCells, noticesOf, noticeOf?]
    cases hcolumn : schema.find? cell.name with
    | none =>
      have hknown : reported.contains cell.name = earlier.contains cell.name := by
        rw [Bool.eq_iff_iff, List.contains_iff_mem, List.contains_iff_mem, h _ hcolumn]
      simp only [hknown]
      cases hcontains : earlier.contains cell.name with
      | true =>
        rw [hcontains, List.contains_iff_mem] at hknown
        exact ih (h.concat_of_mem hknown)
      | false =>
        obtain ⟨hafter, hnotices⟩ := ih (h.concat cell.name)
        exact ⟨hafter, congrArg (CastNotice.undeclared cell.name :: ·) hnotices⟩
    | some column =>
      obtain ⟨hafter, hnotices⟩ := ih (h.concat_of_declared hcolumn)
      dsimp only
      cases column.type.cast cell.value.display with
      | ok value => exact ⟨hafter, hnotices⟩
      | error error => exact ⟨hafter, congrArg (CastNotice.unreadable error row :: ·) hnotices⟩

theorem castFrom_notices (rows : List Row) (h : Remembers schema earlier reported) :
    (castFrom schema reported rows).notices = noticesOf schema earlier (cellsOf rows) := by
  induction rows generalizing earlier reported with
  | nil => rfl
  | cons row rest ih =>
    obtain ⟨hafter, hnotices⟩ := remembers_castCells row row.entries h
    have hnames : namesOf (row.entries.map (row, ·)) = row.entries.map Cell.name := List.map_map
    rw [castFrom, cellsOf, List.flatMap_cons, noticesOf_append, hnames, ← hnotices]
    exact congrArg _ (ih hafter)

/-- Casting gives the notice of each cell after the names of the cells before it. -/
theorem castAll_notices (schema : Schema) (rows : List Row) :
    (castAll schema rows).notices = noticesOf schema [] (cellsOf rows) :=
  castFrom_notices rows fun _ _ => Iff.rfl

/-! ## Notices by number -/

section

variable (schema : Schema) (earlier : List Text) (cells : List (Row × Cell))

/-- The notice of the cell of a number, after cells of some names and the ones before it. -/
def noticeAt? (i : Nat) : Option CastNotice :=
  cells[i]?.bind fun (row, cell) => noticeOf? schema (earlier ++ namesOf (cells.take i)) row cell

theorem noticeAt?_succ (row : Row) (cell : Cell) (i : Nat) :
    noticeAt? schema earlier ((row, cell) :: cells) (i + 1) =
      noticeAt? schema (earlier ++ [cell.name]) cells i := by
  simp [noticeAt?, namesOf]

theorem filterMap_noticeAt? :
    (List.range cells.length).filterMap (noticeAt? schema earlier cells) =
      noticesOf schema earlier cells := by
  induction cells generalizing earlier with
  | nil => rfl
  | cons place rest ih =>
    obtain ⟨row, cell⟩ := place
    have hnext : noticeAt? schema earlier ((row, cell) :: rest) ∘ Nat.succ =
        noticeAt? schema (earlier ++ [cell.name]) rest :=
      funext fun i => noticeAt?_succ schema earlier rest row cell i
    have hfirst : noticeAt? schema earlier ((row, cell) :: rest) 0 =
        noticeOf? schema earlier row cell := by
      simp [noticeAt?, namesOf]
    rw [List.length_cons, List.range_succ_eq_map, List.filterMap_cons, List.filterMap_map, hnext,
      ih, hfirst, noticesOf]
    cases noticeOf? schema earlier row cell with
    | none => rfl
    | some notice => rfl

/-- The notices of the cells with the numbers of their cells. -/
def numberedNotices : List (Nat × CastNotice) :=
  (List.range cells.length).filterMap fun i => (noticeAt? schema [] cells i).map (i, ·)

theorem map_snd_numberedNotices :
    (numberedNotices schema cells).map Prod.snd = noticesOf schema [] cells := by
  rw [numberedNotices, List.map_filterMap, ← filterMap_noticeAt?]
  refine List.filterMap_congr fun i _ => ?_
  rw [Option.map_map]
  exact Option.map_id'

theorem pairwise_numberedNotices : (numberedNotices schema cells).Pairwise (·.1 < ·.1) := by
  refine List.Pairwise.filterMap _ ?_ List.pairwise_lt_range
  intro i j hij a ha b hb
  obtain ⟨_, -, rfl⟩ := Option.map_eq_some_iff.1 ha
  obtain ⟨_, -, rfl⟩ := Option.map_eq_some_iff.1 hb
  exact hij

end

theorem noticeAt?_eq_some_iff {cells : List (Row × Cell)} {i : Nat} {notice : CastNotice} :
    noticeAt? schema [] cells i = some notice ↔ Reports schema cells i notice := by
  unfold noticeAt? noticeOf?
  rw [Option.bind_eq_some_iff, List.nil_append]
  constructor
  · rintro ⟨⟨row, cell⟩, hcell, hnotice⟩
    dsimp only at hnotice
    split at hnotice
    · next hcolumn =>
      split at hnotice
      · cases hnotice
      · next hfirst =>
        cases hnotice
        exact .undeclared hcell hcolumn (mt List.contains_iff_mem.2 hfirst)
    · next column hcolumn =>
      split at hnotice
      · cases hnotice
      · next error hcast =>
        cases hnotice
        exact .unreadable hcell hcolumn hcast
  · intro h
    cases h with
    | undeclared hcell hcolumn hfirst =>
      refine ⟨_, hcell, ?_⟩
      simp only [hcolumn, List.contains_iff_mem, if_neg hfirst]
    | unreadable hcell hcolumn hcast => exact ⟨_, hcell, by simp only [hcolumn, hcast]⟩

theorem mem_numberedNotices_iff {cells : List (Row × Cell)} {i : Nat} {notice : CastNotice} :
    (i, notice) ∈ numberedNotices schema cells ↔ Reports schema cells i notice := by
  rw [← noticeAt?_eq_some_iff, numberedNotices, List.mem_filterMap]
  constructor
  · rintro ⟨j, -, hnotice⟩
    obtain ⟨_, hat, heq⟩ := Option.map_eq_some_iff.1 hnotice
    cases heq
    exact hat
  · intro hat
    obtain ⟨_, hcell, -⟩ := Option.bind_eq_some_iff.1 hat
    have hlength : i < cells.length := (List.getElem?_eq_some_iff.1 hcell).1
    exact ⟨i, List.mem_range.2 hlength, by rw [hat]; rfl⟩

/-- Casting keeps the rows in their order, with every declared cell cast in its place and the
others left out, less the rows in which none is left.  It reports of each cell in the order of
the table what there is to report, each as a warning. -/
theorem castAll_casts_and_reports (schema : Schema) (rows : List Row) :
    (castAll schema rows).result = (rows.map (castRow schema)).filter (!·.isEmpty) ∧
      (∃ numbered : List (Nat × CastNotice),
        (castAll schema rows).notices = numbered.map Prod.snd ∧
        numbered.Pairwise (·.1 < ·.1) ∧
        ∀ i notice, (i, notice) ∈ numbered ↔ Reports schema (cellsOf rows) i notice) ∧
      ∀ notice : CastNotice, notice.event.level = .warn := by
  refine ⟨castAll_result schema rows, ⟨numberedNotices schema (cellsOf rows), ?_, ?_, ?_⟩, ?_⟩
  · rw [castAll_notices, map_snd_numberedNotices]
  · exact pairwise_numberedNotices schema (cellsOf rows)
  · exact fun i notice => mem_numberedNotices_iff
  · intro notice
    cases notice with
    | undeclared name => rfl
    | unreadable error row => rfl

end PlainReport.Row
