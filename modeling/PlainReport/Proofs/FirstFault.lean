import PlainReport.Proofs.Loading
import PlainReport.Proofs.Text.Pieces

/-!
# The first fault of a table

A table is rejected for the first of its names that repeats one before it, whatever its body
is, and else for the first of its segments that has too many or too few cells.  Blank segments
are not counted.

The search for each of the two faults finds a place with no fault before it
(`firstRepeat?_eq_some_iff`, `firstMismatch?_map_eq_some_iff`).  `Ends` states all ends of loading
by the texts between the signs of the table, and `load_ends` that the end is this one.
-/

namespace PlainReport.Table

open Text

/-! ## Names and segments as they are written -/

/-- The names in the first line: what stands between commas, without the blanks around it and
in capitals. -/
def namesOf (t : Text) : List Text :=
  (pieces ',' (cut '\n' t).1).map fun name => toUpper (trim name)

/-- The segments in the text after the first line that are not blank. -/
def segmentsOf (t : Text) : List Text :=
  (pieces '#' ((cut '\n' t).2.getD [])).filter (!isAllBlank ·)

/-- The number of cells in a segment. -/
def cellCount (segment : Text) : Nat := (pieces ',' segment).length

/-- The blanks at the end of the first line belong to its last name. -/
theorem headerOf_eq (t : Text) : headerOf t = namesOf t := by
  obtain ⟨b, hb, hline⟩ := trimEnd_append_blanks (cut '\n' t).1
  have htrim : (pieces ',' (trimEnd (cut '\n' t).1)).map trim =
      (pieces ',' (cut '\n' t).1).map trim := by
    conv_rhs => rw [← hline]
    exact (map_trim_pieces_append_blanks rfl _ hb).symm
  have hupper := congrArg (List.map toUpper) htrim
  rwa [List.map_map, List.map_map] at hupper

theorem recordsOf_eq (t : Text) :
    recordsOf t = (segmentsOf t).map fun segment => pieces ',' (trim segment) := by
  have hkept : ((!·.isEmpty) ∘ trim : Text → Bool) = (!isAllBlank ·) :=
    funext fun segment => congrArg (!·) (isEmpty_trim segment)
  rw [recordsOf, records, segmentsOf, List.filter_map, hkept, List.map_map]
  rfl

theorem length_pieces_trim (segment : Text) :
    (pieces ',' (trim segment)).length = cellCount segment := by
  have hsep : isBlank ',' = false := rfl
  have hlength := congrArg List.length (map_trim_pieces_trim hsep segment)
  rwa [List.length_map, List.length_map] at hlength

/-! ## The first repeat -/

/-- A place in a list is its first one or a place in the rest. -/
theorem exists_split_cons_iff {α : Type} {P : List α → Prop} {a x : α} {l : List α} :
    (∃ before after, a :: l = before ++ x :: after ∧ P before) ↔
      (a = x ∧ P []) ∨ ∃ before after, l = before ++ x :: after ∧ P (a :: before) := by
  constructor
  · rintro ⟨before, after, hsplit, hP⟩
    cases before with
    | nil =>
      cases hsplit
      exact .inl ⟨rfl, hP⟩
    | cons first before =>
      cases hsplit
      exact .inr ⟨before, after, rfl, hP⟩
  · rintro (⟨rfl, hP⟩ | ⟨before, after, rfl, hP⟩)
    · exact ⟨[], l, rfl, hP⟩
    · exact ⟨a :: before, after, rfl, hP⟩

/-- The name that is found repeats one before it or a seen one, and no name before it does. -/
theorem firstRepeat?_eq_some_iff {seen names : List Text} {name : Text} :
    firstRepeat? seen names = some name ↔
      ∃ before after, names = before ++ name :: after ∧
        firstRepeat? seen before = none ∧ (name ∈ before ∨ name ∈ seen) := by
  induction names generalizing seen with
  | nil => simp [firstRepeat?]
  | cons first rest ih =>
    rw [exists_split_cons_iff]
    by_cases hseen : first ∈ seen
    · have hfound (l : List Text) : firstRepeat? seen (first :: l) = some first := by
        rw [firstRepeat?, if_pos (List.contains_iff_mem.2 hseen)]
      simp only [hfound]
      constructor
      · intro h
        cases h
        exact .inl ⟨rfl, rfl, .inr hseen⟩
      · rintro (⟨rfl, -⟩ | ⟨_, _, _, hnone, -⟩)
        · rfl
        · cases hnone
    · have hnext (l : List Text) : firstRepeat? seen (first :: l) =
          firstRepeat? (first :: seen) l := by
        rw [firstRepeat?, if_neg (mt List.contains_iff_mem.1 hseen)]
      have hpassed (before : List Text) : (name ∈ first :: before ∨ name ∈ seen) ↔
          (name ∈ before ∨ name ∈ first :: seen) := by
        rw [List.mem_cons, List.mem_cons, or_assoc, or_left_comm]
      simp only [hnext, hpassed, ih]
      constructor
      · exact .inr
      · rintro (⟨rfl, -, hmem⟩ | hrest)
        · exact absurd (hmem.resolve_left List.not_mem_nil) hseen
        · exact hrest

/-- With no names before, the first repeat comes after distinct names and is one of them. -/
theorem firstRepeat?_nil_eq_some_iff {names : List Text} {name : Text} :
    firstRepeat? [] names = some name ↔
      ∃ before after, names = before ++ name :: after ∧ before.Nodup ∧ name ∈ before := by
  simp only [firstRepeat?_eq_some_iff, firstRepeat?_nil_eq_none_iff, List.not_mem_nil, or_false]

/-! ## The first mismatch -/

/-- The fault of a row by the number of its cells, if there are not as many as names. -/
inductive Mismatch (width row cells : Nat) : TableFault → Prop
  /-- A row with more cells lacks a name. -/
  | long (h : width < cells) : Mismatch width row cells (.missingColumnName row)
  /-- A row with fewer cells lacks a value. -/
  | short (h : cells < width) : Mismatch width row cells (.missingValue row)

theorem Mismatch.ne {width row cells : Nat} {fault : TableFault}
    (h : Mismatch width row cells fault) : cells ≠ width := by
  cases h with
  | long h => exact Nat.ne_of_gt h
  | short h => exact Nat.ne_of_lt h

theorem firstMismatch?_cons_of_eq {width row : Nat} {record : List Text}
    (h : record.length = width) (rest : List (List Text)) :
    firstMismatch? width row (record :: rest) = firstMismatch? width (row + 1) rest := by
  rw [firstMismatch?, if_neg (Nat.not_lt.2 (Nat.le_of_eq h)),
    if_neg (Nat.not_lt.2 (Nat.le_of_eq h.symm))]

theorem firstMismatch?_cons_of_ne {width row : Nat} {record : List Text}
    (h : record.length ≠ width) (rest : List (List Text)) {fault : TableFault} :
    firstMismatch? width row (record :: rest) = some fault ↔
      Mismatch width row record.length fault := by
  rw [firstMismatch?]
  cases Nat.lt_or_gt_of_ne h with
  | inl hshort =>
    rw [if_neg (Nat.lt_asymm hshort), if_pos hshort]
    constructor
    · intro hfault
      cases hfault
      exact .short hshort
    · rintro (hlong | -)
      · exact absurd hshort (Nat.lt_asymm hlong)
      · rfl
  | inr hlong =>
    rw [if_pos hlong]
    constructor
    · intro hfault
      cases hfault
      exact .long hlong
    · rintro (- | hshort)
      · rfl
      · exact absurd hlong (Nat.lt_asymm hshort)

/-- The fault that is found is that of a record that does not match, after matching ones. -/
theorem firstMismatch?_map_eq_some_iff {α : Type} {cells : α → List Text} {width row : Nat}
    {items : List α} {fault : TableFault} :
    firstMismatch? width row (items.map cells) = some fault ↔
      ∃ item before after, items = before ++ item :: after ∧
        (∀ a ∈ before, (cells a).length = width) ∧
        Mismatch width (row + before.length) (cells item).length fault := by
  induction items generalizing row with
  | nil => simp [firstMismatch?]
  | cons first rest ih =>
    simp only [exists_split_cons_iff, exists_or, List.forall_mem_cons, List.length_cons,
      List.map_cons]
    by_cases hfirst : (cells first).length = width
    · rw [firstMismatch?_cons_of_eq hfirst, ih]
      simp only [hfirst, true_and, Nat.add_right_comm row 1, Nat.add_assoc row]
      constructor
      · exact .inr
      · rintro (⟨item, rfl, -, hfault⟩ | hrest)
        · exact absurd hfirst hfault.ne
        · exact hrest
    · rw [firstMismatch?_cons_of_ne hfirst]
      constructor
      · intro hfault
        exact .inl ⟨first, rfl, List.forall_mem_nil _, hfault⟩
      · rintro (⟨item, rfl, -, hfault⟩ | ⟨_, _, _, _, ⟨hmatch, -⟩, -⟩)
        · exact hfault
        · exact absurd hmatch hfirst

/-! ## Loading -/

/-- The cells of a segment under the names. -/
def cellsOf (names : List Text) (segment : Text) : List Cell :=
  names.zipWith (fun name cell => ⟨name, .text cell⟩) (pieces ',' (trim segment))

/-- What loading ends in, by the names and the segments of a table. -/
inductive Ends (names segments : List Text) : Except TableFault (List Row) → Prop
  /-- A name repeats one of those before it, which are distinct. -/
  | repeated {before after : List Text} {name : Text} (hnames : names = before ++ name :: after)
      (hdistinct : before.Nodup) (hmem : name ∈ before) :
      Ends names segments (.error (.duplicateColumn name))
  /-- The names are distinct, and a segment does not match them after some that do. -/
  | mismatched {before after : List Text} {segment : Text} {fault : TableFault}
      (hdistinct : names.Nodup) (hsegments : segments = before ++ segment :: after)
      (hbefore : ∀ s ∈ before, cellCount s = names.length)
      (hfault : Mismatch names.length (before.length + 1) (cellCount segment) fault) :
      Ends names segments (.error fault)
  /-- The names are distinct and all segments match them. -/
  | matching {rows : List Row} (hdistinct : names.Nodup)
      (hsegments : ∀ s ∈ segments, cellCount s = names.length)
      (hrows : rows.map Keyed.entries = segments.map (cellsOf names)) :
      Ends names segments (.ok rows)

/-- The records match the names if the segments do. -/
theorem forall_mem_recordsOf_iff {t : Text} {width : Nat} :
    (∀ record ∈ recordsOf t, record.length = width) ↔
      ∀ segment ∈ segmentsOf t, cellCount segment = width := by
  simp only [recordsOf_eq, List.forall_mem_map, length_pieces_trim]

/-- The rows of matching segments have their cells under the names. -/
theorem map_entries_recordsOf {t : Text} {names : List Text} (hdistinct : names.Nodup)
    (hsegments : ∀ s ∈ segmentsOf t, cellCount s = names.length) :
    ((recordsOf t).map (rowOf names)).map Keyed.entries = (segmentsOf t).map (cellsOf names) := by
  rw [recordsOf_eq, List.map_map, List.map_map]
  refine List.map_congr_left fun segment hsegment => ?_
  exact entries_rowOf hdistinct ((length_pieces_trim segment).trans (hsegments segment hsegment))

theorem load_eq_error_iff_ends {t : Text} {fault : TableFault} :
    load t = .error fault ↔ Ends (namesOf t) (segmentsOf t) (.error fault) := by
  rw [load_eq_error_iff, recordsOf_eq, headerOf_eq]
  simp only [firstMismatch?_map_eq_some_iff, length_pieces_trim, firstRepeat?_nil_eq_some_iff,
    firstRepeat?_nil_eq_none_iff, Nat.add_comm 1]
  constructor
  · rintro (⟨name, ⟨before, after, hnames, hdistinct, hmem⟩, rfl⟩ |
      ⟨hdistinct, segment, before, after, hsegments, hbefore, hfault⟩)
    · exact .repeated hnames hdistinct hmem
    · exact .mismatched hdistinct hsegments hbefore hfault
  · intro h
    cases h with
    | repeated hnames hdistinct hmem => exact .inl ⟨_, ⟨_, _, hnames, hdistinct, hmem⟩, rfl⟩
    | mismatched hdistinct hsegments hbefore hfault =>
      exact .inr ⟨hdistinct, _, _, _, hsegments, hbefore, hfault⟩

theorem load_eq_ok_iff_ends {t : Text} {rows : List Row} :
    load t = .ok rows ↔ Ends (namesOf t) (segmentsOf t) (.ok rows) := by
  rw [load_eq_ok_iff, forall_mem_recordsOf_iff, headerOf_eq]
  constructor
  · rintro ⟨hdistinct, hsegments, rfl⟩
    exact .matching hdistinct hsegments (map_entries_recordsOf hdistinct hsegments)
  · intro h
    cases h with
    | matching hdistinct hsegments hrows =>
      -- rows are determined by their cells
      have hinj : Function.Injective (List.map (Keyed.entries : Row → List Cell)) :=
        List.map_injective_iff.2 fun _ _ => Keyed.ext_entries
      have hsame := hrows.trans (map_entries_recordsOf hdistinct hsegments).symm
      exact ⟨hdistinct, hsegments, hinj hsame⟩

/-- Loading ends in the first repeat of a name, else in the first segment that does not match,
else in one row for each segment.  Every error that a report gets of loading is known for one of
the table alone. -/
theorem load_ends (t : Text) :
    (∀ outcome, load t = outcome ↔ Ends (namesOf t) (segmentsOf t) outcome) ∧
      ∀ error, loadTable t = .error error → error.isTableFault = true := by
  refine ⟨fun outcome => ?_, fun _ => isTableFault_of_loadTable⟩
  cases outcome with
  | error fault => exact load_eq_error_iff_ends
  | ok rows => exact load_eq_ok_iff_ends

/-- Blank segments are not counted, and a later segment with too many cells does not matter. -/
theorem load_ends_of_short :
    let t : Text := "b, a,\n # x,y , #\n\t#1,2#\n1,2,3,4# "
    let segments : List Text := [" x,y , ", "1,2", "\n1,2,3,4"]
    load t = .error (.missingValue 2) ∧
      Ends ["B", "A", ""] segments (.error (.missingValue 2)) ∧
      loadTable t = .error (.table (.missingValue 2)) ∧
      (ReportError.table (.missingValue 2)).isTableFault = true := by
  intro t segments
  have hload : load t = .error (.missingValue 2) := rfl
  have herror : loadTable t = .error (.table (.missingValue 2)) := rfl
  have hsegments : segmentsOf t = segments := by decide +kernel
  obtain ⟨hends, htable⟩ := load_ends t
  exact ⟨hload, hsegments ▸ (hends _).1 hload, herror, htable _ herror⟩

end PlainReport.Table
