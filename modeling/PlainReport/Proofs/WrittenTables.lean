import PlainReport.Proofs.Loading
import PlainReport.Proofs.Text.Classes
import PlainReport.Proofs.Text.Parts
import PlainReport.Proofs.Text.Trimming

/-!
# Tables that were written

A table is written as a line of names and then row after row, each with a number sign at its
end.  Names and cells stand between commas.  There may be blanks around the rows, and rows of
blanks between them (`IsBody`).

Reading cuts at the number signs, and everything about the body follows from one equation:
the records of a text with a number sign are those before it and those after it
(`records_append_sign`).  A cell is cut off only at a comma, so its own line breaks and blanks
stay.  The blanks at the two ends of a row do not, and a row of one empty cell is no row.  So
tables without such rows are loaded as they were written (`load_written`).
-/

namespace PlainReport

namespace Table

open Text

/-! ## Written tables -/

/-- The names of a table that stand in its header as they are. -/
structure IsHeading (names : List Text) : Prop where
  /-- There is a name. -/
  ne_nil : names ≠ []
  /-- No name stands twice. -/
  nodup : names.Nodup
  /-- There are no blanks at the ends of a name. -/
  trim_eq : ∀ name ∈ names, trim name = name
  /-- The names are in capitals. -/
  upper_eq : ∀ name ∈ names, toUpper name = name
  /-- The names are cut apart at commas. -/
  comma : ∀ name ∈ names, ',' ∉ name
  /-- The names end at the first line break. -/
  lineBreak : ∀ name ∈ names, '\n' ∉ name

/-- The cells of a row of some width that stand in the body as they are. -/
structure IsRecord (width : Nat) (cells : List Text) : Prop where
  /-- There are as many cells as names. -/
  length_eq : cells.length = width
  /-- The cells are cut apart at commas. -/
  comma : ∀ cell ∈ cells, ',' ∉ cell
  /-- The row ends at a number sign. -/
  numberSign : ∀ cell ∈ cells, '#' ∉ cell
  /-- The first cell does not begin with a blank. -/
  begins : ∀ c ∈ cells.head?.bind List.head?, isBlank c = false
  /-- The last cell does not end in a blank. -/
  ends : ∀ c ∈ cells.getLast?.bind List.getLast?, isBlank c = false
  /-- The row is not one empty cell. -/
  ne_empty : cells ≠ [[]]

instance (names : List Text) : Decidable (IsHeading names) :=
  decidable_of_iff (names ≠ [] ∧ names.Nodup ∧ names.all (fun name => trim name = name) = true ∧
      names.all (fun name => toUpper name = name) = true ∧
      names.all (!·.contains ',') = true ∧ names.all (!·.contains '\n') = true) <| by
    simp only [List.all_eq_true, decide_eq_true_eq, Bool.not_eq_true', List.contains_eq_mem,
      decide_eq_false_iff_not]
    exact ⟨fun h => ⟨h.1, h.2.1, h.2.2.1, h.2.2.2.1, h.2.2.2.2.1, h.2.2.2.2.2⟩,
      fun h => ⟨h.ne_nil, h.nodup, h.trim_eq, h.upper_eq, h.comma, h.lineBreak⟩⟩

instance (width : Nat) (cells : List Text) : Decidable (IsRecord width cells) :=
  decidable_of_iff (cells.length = width ∧ cells.all (!·.contains ',') = true ∧
      cells.all (!·.contains '#') = true ∧
      (cells.head?.bind List.head?).all (!isBlank ·) = true ∧
      (cells.getLast?.bind List.getLast?).all (!isBlank ·) = true ∧ cells ≠ [[]]) <| by
    simp only [List.all_eq_true, Option.all_eq_true, Bool.not_eq_true', List.contains_eq_mem,
      decide_eq_false_iff_not]
    exact ⟨fun h => ⟨h.1, h.2.1, h.2.2.1, h.2.2.2.1, h.2.2.2.2.1, h.2.2.2.2.2⟩,
      fun h => ⟨h.length_eq, h.comma, h.numberSign, h.begins, h.ends, h.ne_empty⟩⟩

/-- Whether a text is made of blanks and number signs, so that it has blank rows only. -/
def isGap (t : Text) : Bool := t.all fun c => isBlank c || c == '#'

/-- A text in which some rows of cells stand, each before a number sign, among blanks and
blank rows. -/
inductive IsBody : List (List Text) → Text → Prop where
  | gap {t : Text} : isGap t = true → IsBody [] t
  | record {a b t : Text} {cells : List Text} {records : List (List Text)} :
      isGap a = true → isAllBlank b = true → IsBody records t →
      IsBody (cells :: records) (a ++ join "," cells ++ b ++ '#' :: t)

/-! ## The header -/

theorem IsHeading.trimEnd_join {names : List Text} (h : IsHeading names) :
    trimEnd (join "," names) = join "," names := by
  by_cases hempty : names = [[]]
  · rw [hempty]
    rfl
  · refine trimEnd_of_endsSolid (endsSolid_join_of_last rfl h.ne_nil hempty fun c hc => ?_)
    obtain ⟨name, hname, hlast⟩ := Option.bind_eq_some_iff.1 hc
    have hne : name ≠ [] := fun he => by simp [he] at hlast
    obtain ⟨rest, d, hd, hblank⟩ :=
      (solid_of_trim_eq (h.trim_eq name (List.mem_of_getLast? hname)) hne).2
    rw [hd, List.getLast?_concat] at hlast
    cases hlast
    exact hblank

/-- Names are read from the header that they were written in. -/
theorem headerOf_join {names : List Text} (h : IsHeading names) (body : Text) :
    headerOf (join "," names ++ '\n' :: body) = names := by
  have hbreak : '\n' ∉ join "," names := not_mem_join (by decide) h.lineBreak
  have hpieces : pieces ',' (join "," names) = names := pieces_join h.ne_nil h.comma
  rw [headerOf, cut_append hbreak, Table.names, h.trimEnd_join, hpieces]
  have hnames : names.map (fun name => toUpper (trim name)) = names.map id :=
    List.map_congr_left fun name hname => by
      rw [h.trim_eq name hname, h.upper_eq name hname, id]
  rw [hnames, List.map_id]

/-! ## The body -/

/-- A number sign divides the records before it from those after it. -/
theorem records_append_sign (t u : Text) : records (t ++ '#' :: u) = records t ++ records u := by
  rw [records, pieces_append_sep, List.map_append, List.filter_append, List.map_append]
  rfl

theorem records_cons_of_blank {c : Char} (h : isBlank c = true) (t : Text) :
    records (c :: t) = records t := by
  have hc : c ≠ '#' := by
    rintro rfl
    cases h
  obtain ⟨p, ps, hp, hcons⟩ := pieces_cons_of_ne hc t
  have htrim : trim (c :: p) = trim p := trim_append_of_blanks (List.forall_mem_singleton.2 h) p
  rw [records, records, hcons, hp, List.map_cons, List.map_cons, htrim]

/-- Blanks and blank rows do not count. -/
theorem records_gap_append {a : Text} (h : isGap a = true) (t : Text) :
    records (a ++ t) = records t := by
  induction a with
  | nil => rfl
  | cons c a ih =>
    simp only [isGap, List.all_cons, Bool.and_eq_true, Bool.or_eq_true, beq_iff_eq] at h
    obtain ⟨hc, ha⟩ := h
    rw [List.cons_append]
    cases hc with
    | inl hblank => rw [records_cons_of_blank hblank, ih ha]
    | inr hsign =>
      rw [hsign, ← List.nil_append ('#' :: (a ++ t)), records_append_sign, ih ha]
      rfl

/-- A row is read as the cells that it was written from. -/
theorem records_join {width : Nat} {cells : List Text} (h : IsRecord width cells)
    (hne : cells ≠ []) {b : Text} (hb : isAllBlank b = true) :
    records (join "," cells ++ b) = [cells] := by
  have hblank : ∀ c ∈ b, isBlank c = true := List.all_eq_true.1 hb
  have hbegin : BeginsSolid (join "," cells) :=
    beginsSolid_join_of_head rfl hne h.ne_empty h.begins
  have hend : EndsSolid (join "," cells) := endsSolid_join_of_last rfl hne h.ne_empty h.ends
  have hsign : '#' ∉ join "," cells ++ b := by
    rw [List.mem_append, not_or]
    exact ⟨not_mem_join (by decide) h.numberSign, not_mem_of_class hblank rfl⟩
  have htrim : trim (join "," cells ++ b) = join "," cells :=
    trim_padded (a := []) nofun hblank hbegin hend
  have hpieces : pieces ',' (join "," cells) = cells := pieces_join hne h.comma
  obtain ⟨c, rest, hc, -⟩ := hbegin
  have hkept : (!(join "," cells).isEmpty) = true := by rw [hc]; rfl
  rw [records, pieces_of_not_mem hsign, List.map_singleton, htrim, List.filter_singleton, hkept,
    cond_true, List.map_singleton, hpieces]

theorem records_of_isBody {width : Nat} (hwidth : width ≠ 0) {rows : List (List Text)} {t : Text}
    (hrows : ∀ cells ∈ rows, IsRecord width cells) (h : IsBody rows t) : records t = rows := by
  induction h with
  | gap hgap =>
    have hnone := records_gap_append hgap []
    rwa [List.append_nil] at hnone
  | @record a b t cells rows ha hb _ ih =>
    obtain ⟨hcells, hrest⟩ := List.forall_mem_cons.1 hrows
    have hne : cells ≠ [] := fun he => hwidth (by rw [← hcells.length_eq, he, List.length_nil])
    rw [List.append_assoc, List.append_assoc, records_gap_append ha, ← List.append_assoc,
      records_append_sign, records_join hcells hne hb, ih hrest, List.singleton_append]

/-! ## Loading -/

/-- A written table is accepted, and its rows are those that were written, with every cell
under the name of its column. -/
theorem load_written {names : List Text} {records : List (List Text)} {body : Text}
    (hnames : IsHeading names) (hrecords : ∀ cells ∈ records, IsRecord names.length cells)
    (hbody : IsBody records body) :
    ∃ rows, load (join "," names ++ '\n' :: body) = .ok rows ∧
      rows.map Keyed.entries =
        records.map fun cells => names.zipWith (fun name cell => ⟨name, .text cell⟩) cells := by
  have hheader := headerOf_join hnames body
  have hcut : cut '\n' (join "," names ++ '\n' :: body) = (join "," names, some body) :=
    cut_append (not_mem_join (by decide) hnames.lineBreak) body
  have hwidth : names.length ≠ 0 := mt List.length_eq_zero_iff.1 hnames.ne_nil
  have hread : recordsOf (join "," names ++ '\n' :: body) = records := by
    rw [recordsOf, hcut]
    exact records_of_isBody hwidth hrecords hbody
  have hlength : ∀ cells ∈ records, cells.length = names.length := fun cells hcells =>
    (hrecords cells hcells).length_eq
  refine ⟨records.map (rowOf names), load_eq_ok_iff.2 ?_, ?_⟩
  · rw [hheader, hread]
    exact ⟨hnames.nodup, hlength, rfl⟩
  · rw [List.map_map]
    exact List.map_congr_left fun cells hcells =>
      entries_rowOf hnames.nodup (hlength cells hcells)

/-- Blank rows everywhere, a cell of two lines, cells of blanks and empty cells at both ends
and in the middle, under names of which one is empty. -/
theorem load_written_of_blanks :
    let names : List Text := ["A", "", "N M"]
    let records : List (List Text) := [["x\ny", " ", ""], ["", " \t ", "z"], ["", "", ""]]
    let body : Text := " #\n#x\ny, ,#  , \t ,z \n#,,#\n#\n"
    IsHeading names ∧ (∀ cells ∈ records, IsRecord names.length cells) ∧ IsBody records body ∧
      ∃ rows, load (join "," names ++ '\n' :: body) = .ok rows ∧
        rows.map Keyed.entries =
          records.map fun cells => names.zipWith (fun name cell => ⟨name, .text cell⟩) cells := by
  intro names records body
  have hnames : IsHeading names := by decide +kernel
  have hrecords : ∀ cells ∈ records, IsRecord names.length cells := by decide +kernel
  have hthird : IsBody [["", "", ""]] ",,#\n#\n" :=
    .record (a := "") (b := "") rfl rfl (.gap (by decide +kernel))
  have hsecond : IsBody [["", " \t ", "z"], ["", "", ""]] "  , \t ,z \n#,,#\n#\n" :=
    .record (a := "  ") (b := " \n") (by decide +kernel) (by decide +kernel) hthird
  have hbody : IsBody records body :=
    .record (a := " #\n#") (b := "") (by decide +kernel) rfl hsecond
  exact ⟨hnames, hrecords, hbody, load_written hnames hrecords hbody⟩

end Table

end PlainReport
