import PlainReport.Proofs.Geometry
import PlainReport.Proofs.Number.Blankless
import PlainReport.Proofs.Text.Trimming

/-!
# Where the characters of a report come from

The body of a sheet consists of borders, separators and blanks, and of what stands in the
cells (`Sheet.not_mem_bodyOf_iff`).

Casting and grouping bring numbers and empty texts in, and these have no blanks.  So a blank
in a cell of the rows to select from stands in the data (`TablePattern.lacks_groupedRows`).
-/

namespace PlainReport

open Text

/-! ## From the data to the cells -/

namespace Table

variable {data : Text} {rows : List Row}

theorem mem_of_mem_recordsOf {record : List Text} (h : record ∈ recordsOf data) {raw : Text}
    (hraw : raw ∈ record) {x : Char} (hx : x ∈ raw) : x ∈ data := by
  obtain ⟨entry, hentry, rfl⟩ := List.mem_map.1 h
  obtain ⟨piece, hpiece, rfl⟩ := List.mem_map.1 (List.mem_filter.1 hentry).1
  have hbody := mem_of_mem_pieces hpiece (trim_subset piece (mem_of_mem_pieces hraw hx))
  cases hcut : (cut '\n' data).2 with
  | none =>
    rw [hcut] at hbody
    cases hbody
  | some body =>
    rw [hcut] at hbody
    exact mem_of_cut hcut hbody

/-- What stands in a cell stands in the data. -/
theorem mem_of_load (h : load data = .ok rows) {row : Row} (hrow : row ∈ rows) {cell : Cell}
    (hcell : cell ∈ row.entries) {x : Char} (hx : x ∈ cell.value.display) : x ∈ data := by
  obtain ⟨hn, hl, rfl⟩ := load_eq_ok_iff.1 h
  obtain ⟨record, hrecord, rfl⟩ := List.mem_map.1 hrow
  rw [entries_rowOf hn (hl record hrecord), ← List.map_uncurry_zip_eq_zipWith] at hcell
  obtain ⟨⟨name, raw⟩, hpair, rfl⟩ := List.mem_map.1 hcell
  exact mem_of_mem_recordsOf hrecord (List.of_mem_zip hpair).2 hx

end Table

/-! ## Through casting and grouping -/

namespace DataType

theorem blankless_zero (type : DataType) : type.zero.display.Blankless := by
  cases type with
  | int => exact Value.blankless_display nofun
  | float => exact Value.blankless_display nofun
  | text => exact List.forall_mem_nil _

/-- A blank in a cast value stood there before. -/
theorem mem_of_mem_castOrZero {type : DataType} {value : Value} {x : Char}
    (hx : isBlank x = true) (h : x ∈ (type.castOrZero value).display) : x ∈ value.display := by
  by_cases htype : type = .text
  · subst htype
    exact h
  · have hcast : (type.castOrZero value).type ≠ .text := by rwa [type.type_castOrZero]
    exact absurd h ((Value.blankless_display hcast).not_mem hx)

end DataType

namespace Row

/-- The character stands in no cell of the row. -/
def Lacks (x : Char) (row : Row) : Prop := ∀ cell ∈ row.entries, x ∉ cell.value.display

variable {x : Char} (hx : isBlank x = true) {schema : Schema} {row : Row}

include hx

theorem lacks_castRow (h : row.Lacks x) : (castRow schema row).Lacks x := by
  intro cell hcell hmem
  obtain ⟨raw, hraw, hcast⟩ := List.mem_filterMap.1 hcell
  obtain ⟨column, -, rfl⟩ := Option.map_eq_some_iff.1 hcast
  exact h raw hraw (DataType.mem_of_mem_castOrZero hx hmem)

/-- The value that counts for a missing cell has no blanks. -/
theorem not_mem_valueOrZero (h : row.Lacks x) (name : Text) :
    x ∉ (Row.valueOrZero row schema name).display := by
  rw [valueOrZero]
  cases hv : Row.value? row name with
  | some value =>
    obtain ⟨cell, hcell, rfl⟩ := Option.map_eq_some_iff.1 hv
    exact h cell (Keyed.mem_of_find? hcell)
  | none =>
    rw [Option.getD_none, Schema.zeroOf]
    cases schema.find? name with
    | some column => exact column.type.blankless_zero.not_mem hx
    | none => exact List.not_mem_nil

end Row

/-- A group shows blanks of its rows only. -/
theorem Grouping.lacks_of_mem_apply {x : Char} (hx : isBlank x = true) {g : Grouping}
    {schema : Schema} {rows : List Row} (h : ∀ row ∈ rows, row.Lacks x) {out : Row}
    (hout : out ∈ g.apply schema rows) : out.Lacks x := by
  intro cell hcell
  obtain ⟨tuple, ht, rfl⟩ := g.mem_apply schema hout
  obtain ⟨first, hmem, hfirst⟩ := g.exists_head?_members schema ht
  have hvalue := Row.value?_of_mem hcell
  rw [g.value?_rowOf schema hfirst] at hvalue
  split at hvalue
  · rw [← Option.some.inj hvalue]
    refine (Value.blankless_display ?_).not_mem hx
    rw [Aggregate.type_apply]
    split <;> nofun
  · split at hvalue
    · rw [← Option.some.inj hvalue]
      exact Row.not_mem_valueOrZero hx (h first hmem) cell.name
    · cases hvalue

/-- A blank that the data lack stands in no cell of the rows to select from. -/
theorem TablePattern.lacks_groupedRows {x : Char} (hx : isBlank x = true) {data : Text}
    (hdata : x ∉ data) {rows : List Row} (h : Table.load data = .ok rows) (p : TablePattern)
    {row : Row} (hrow : row ∈ p.groupedRows rows) : row.Lacks x := by
  have hcast : ∀ other ∈ p.castRows rows, other.Lacks x := by
    intro other hother
    obtain ⟨-, raw, hraw, rfl⟩ := Row.mem_castAll hother
    exact Row.lacks_castRow hx fun cell hcell hmem => hdata (Table.mem_of_load h hraw hcell hmem)
  unfold groupedRows at hrow
  cases hg : p.grouping with
  | none =>
    rw [hg] at hrow
    exact hcast row hrow
  | some g =>
    rw [hg] at hrow
    exact Grouping.lacks_of_mem_apply hx hcast hrow

/-! ## From the cells to the body -/

namespace Row

variable {x : Char}

/-- Fitting brings in blanks and line breaks only. -/
theorem lacks_fit (hbreak : x ≠ '\n') (hblank : x ≠ ' ') {schema : Schema} {row : Row}
    (h : row.Lacks x) : (row.fit schema).Lacks x := by
  intro cell hcell hmem
  obtain ⟨shown, hshown, rfl⟩ := List.mem_map.1 hcell
  refine h shown hshown ?_
  dsimp only [Value.display] at hmem ⊢
  split at hmem
  · exact ((Alignment.mem_fit hmem).resolve_left hbreak).resolve_left hblank
  · exact hmem

theorem length_le_height {cells : List (List Text)} {cell : List Text} (h : cell ∈ cells) :
    cell.length ≤ height cells := by
  have hlength : cell.length ∈ cells.map List.length := List.mem_map_of_mem h
  unfold height
  cases hmax : (cells.map List.length).max? with
  | none =>
    rw [List.max?_eq_none_iff.1 hmax] at hlength
    cases hlength
  | some n => exact (List.max?_eq_some_iff.1 hmax).2 _ hlength

/-- A printed row shows what stands in its cells. -/
theorem mem_printed_iff (hbar : x ≠ '|') (hbreak : x ≠ '\n') (hblank : x ≠ ' ') {row : Row} :
    x ∈ row.printed ↔ ∃ cell ∈ row.entries, x ∈ cell.value.display := by
  rw [printed, unlines, mem_join_iff (mt List.mem_singleton.1 hbreak)]
  constructor
  · rintro ⟨line, hline, hx⟩
    obtain ⟨n, -, rfl⟩ := List.mem_map.1 hline
    obtain ⟨field, hfield, hx⟩ := (mem_bordered_iff hbar).1 hx
    obtain ⟨lines, hlines, rfl⟩ := List.mem_map.1 hfield
    obtain ⟨cell, hcell, rfl⟩ := List.mem_map.1 hlines
    refine ⟨cell, hcell, ?_⟩
    unfold lineOfCell at hx
    cases hn : (Text.lines cell.value.display)[n]? with
    | some line =>
      rw [hn] at hx
      exact mem_of_mem_pieces (List.mem_of_getElem? hn) hx
    | none =>
      rw [hn] at hx
      exact absurd (List.eq_of_mem_replicate hx) hblank
  · rintro ⟨cell, hcell, hx⟩
    obtain ⟨line, hline, hx⟩ := (mem_iff_mem_pieces hbreak).1 hx
    obtain ⟨n, hlt, hn⟩ := List.getElem_of_mem hline
    have hlines := List.mem_map_of_mem (f := fun cell : Cell => lines cell.value.display) hcell
    have hrange := List.mem_range.2 (Nat.lt_of_lt_of_le hlt (length_le_height hlines))
    refine ⟨_, List.mem_map_of_mem hrange, (mem_bordered_iff hbar).2 ?_⟩
    refine ⟨_, List.mem_map_of_mem hlines, ?_⟩
    rw [lineOfCell, lines, List.getElem?_eq_getElem hlt, hn]
    exact hx

end Row

namespace Sheet

/-- A body shows what its printed rows show. -/
theorem mem_bodyOf_iff {x : Char} (hhyphen : x ≠ '-') (hbreak : x ≠ '\n') {rows : List Row}
    {width : Nat} : x ∈ bodyOf rows width ↔ ∃ row ∈ rows, x ∈ row.printed := by
  have hsep : x ∉ separator width := fun h => hhyphen (List.eq_of_mem_replicate h)
  rw [bodyOf, unlines, mem_join_iff (mt List.mem_singleton.1 hbreak)]
  constructor
  · rintro ⟨line, hline, hx⟩
    have hne : line ≠ separator width := fun heq => hsep (heq ▸ hx)
    have hrows := (List.mem_cons.1 hline).resolve_left hne
    obtain ⟨row, hrow, hprinted⟩ := List.mem_flatMap.1 hrows
    have heq : line = row.printed :=
      (List.mem_cons.1 hprinted).resolve_right (mt List.mem_singleton.1 hne)
    exact ⟨row, hrow, heq ▸ hx⟩
  · rintro ⟨row, hrow, hx⟩
    refine ⟨row.printed, List.mem_cons_of_mem _ (List.mem_flatMap.2 ⟨row, hrow, ?_⟩), hx⟩
    exact List.mem_cons_self

/-- A character lacks in the body if it lacks in all rows. -/
theorem not_mem_bodyOf_iff {x : Char} (hhyphen : x ≠ '-') (hbar : x ≠ '|') (hbreak : x ≠ '\n')
    (hblank : x ≠ ' ') {rows : List Row} {width : Nat} :
    x ∉ bodyOf rows width ↔ ∀ row ∈ rows, row.Lacks x := by
  rw [mem_bodyOf_iff hhyphen hbreak, not_exists]
  refine forall_congr' fun row => ?_
  rw [not_and, Row.mem_printed_iff hbar hbreak hblank]
  simp only [Row.Lacks, not_exists, not_and]

/-- Sheets with the same text have the same body under the same title and header. -/
theorem body_eq_of_text_eq {s s' : Sheet} (htitle : s.title = s'.title)
    (hheader : s.header = s'.header) (h : s.text = s'.text) : s.body = s'.body := by
  change s.title ++ ['\n'] ++ (s.header ++ ['\n'] ++ s.body) =
    s'.title ++ ['\n'] ++ (s'.header ++ ['\n'] ++ s'.body) at h
  rw [htitle, hheader] at h
  exact List.append_cancel_left (List.append_cancel_left h)

end Sheet

end PlainReport
