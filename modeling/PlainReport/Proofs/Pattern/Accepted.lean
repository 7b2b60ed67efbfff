import PlainReport.Pattern.TablePattern
import PlainReport.Proofs.Text.Pieces

/-!
# Definitions read one by one

Each definition of a value is read by itself.  The columns and the conditions of a pattern
are those of the definitions that are accepted, in their order, and its notices are the
faults of the others (`TablePattern.readColumnsInto_eq`, `TablePattern.readConditions_eq`).

Blanks around a definition have no effect on what it gives, and a blank definition gives
nothing (`ReadsTrimmed`).  So a value gives the same after it is trimmed, and after the
rejected definitions are taken out of it (`accepted_pieces_trim`,
`accepted_pieces_keepPieces`).
-/

namespace PlainReport

open Text

/-! ## What is accepted and what is rejected -/

theorem isOk_eq_isSome {α ε : Type} (e : Except ε α) : e.isOk = e.toOption.isSome := by
  cases e with
  | ok a => rfl
  | error fault => rfl

section

variable {α β ε : Type} (read : α → Except ε β) (items : List α)

/-- What the items give that are read. -/
def accepted : List β := items.filterMap fun item => (read item).toOption

/-- The faults of the other items. -/
def rejections : List ε := items.filterMap fun item =>
  match read item with
  | .ok _ => none
  | .error fault => some fault

variable {read items} {item : α} {b : β} {fault : ε}

theorem accepted_cons_of_ok (h : read item = .ok b) :
    accepted read (item :: items) = b :: accepted read items :=
  List.filterMap_cons_some (by rw [h]; rfl)

theorem accepted_cons_of_error (h : read item = .error fault) :
    accepted read (item :: items) = accepted read items :=
  List.filterMap_cons_none (by rw [h]; rfl)

theorem rejections_cons_of_ok (h : read item = .ok b) :
    rejections read (item :: items) = rejections read items :=
  List.filterMap_cons_none (by rw [h])

theorem rejections_cons_of_error (h : read item = .error fault) :
    rejections read (item :: items) = fault :: rejections read items :=
  List.filterMap_cons_some (by rw [h])

theorem mem_accepted_iff : b ∈ accepted read items ↔ ∃ item ∈ items, read item = .ok b := by
  rw [accepted, List.mem_filterMap]
  refine exists_congr fun item => and_congr_right fun _ => ?_
  cases read item with
  | ok a => simp [Except.toOption]
  | error fault => simp [Except.toOption]

theorem mem_rejections_iff :
    fault ∈ rejections read items ↔ ∃ item ∈ items, read item = .error fault := by
  rw [rejections, List.mem_filterMap]
  refine exists_congr fun item => and_congr_right fun _ => ?_
  cases read item with
  | ok a => simp
  | error fault => simp

/-- There is one fault for each item that is not read. -/
theorem length_rejections :
    (rejections read items).length = items.countP fun item => !(read item).isOk := by
  induction items with
  | nil => rfl
  | cons item items ih =>
    cases h : read item with
    | ok a => rw [rejections_cons_of_ok h, List.countP_cons_of_neg (by rw [h]; nofun), ih]
    | error fault =>
      rw [rejections_cons_of_error h, List.countP_cons_of_pos (by rw [h]; rfl), List.length_cons,
        ih]

end

/-! ## Reading between blanks -/

section

variable {β ε : Type} {read : Text → Except ε β}

/-- Blanks around a text have no effect on what it gives, and nothing is read from no text. -/
structure ReadsTrimmed (read : Text → Except ε β) : Prop where
  /-- A text gives what trimming leaves of it. -/
  toOption_trim : ∀ t, (read (trim t)).toOption = (read t).toOption
  /-- No text gives nothing. -/
  toOption_nil : (read []).toOption = none

namespace ReadsTrimmed

variable (h : ReadsTrimmed read)

include h

theorem toOption_of_blank {t : Text} (ht : isAllBlank t = true) : (read t).toOption = none := by
  rw [← h.toOption_trim, trim_eq_nil_iff.2 ht, h.toOption_nil]

theorem isOk_trim (t : Text) : (read (trim t)).isOk = (read t).isOk := by
  rw [isOk_eq_isSome, isOk_eq_isSome, h.toOption_trim]

/-- The blank definitions give nothing. -/
theorem accepted_definitions (value : Text) :
    accepted read (TablePattern.definitions value) = accepted read (pieces ';' value) := by
  rw [accepted, TablePattern.definitions, List.filterMap_filter]
  refine List.filterMap_congr fun d _ => ?_
  cases hd : isAllBlank d with
  | true => exact (h.toOption_of_blank hd).symm
  | false => rfl

theorem accepted_pieces_trim (value : Text) :
    accepted read (pieces ';' (trim value)) = accepted read (pieces ';' value) := by
  have hmap (items : List Text) : accepted read (items.map trim) = accepted read items := by
    rw [accepted, List.filterMap_map]
    exact List.filterMap_congr fun d _ => h.toOption_trim d
  rw [← hmap (pieces ';' (trim value)), map_trim_pieces_trim rfl, hmap]

/-- The definitions that are rejected can be left out. -/
theorem accepted_pieces_keepPieces (value : Text) :
    accepted read (pieces ';' (keepPieces ';' (fun d => (read d).isOk) value)) =
      accepted read (pieces ';' value) := by
  refine filterMap_pieces_keepPieces h.toOption_nil (fun d hd => ?_) value
  cases hread : read d with
  | ok a => rfl
  | error fault =>
    rw [hread] at hd
    cases hd

end ReadsTrimmed

end

/-! ## Columns and conditions -/

theorem Column.readsTrimmed (defaultWidth : Nat) :
    ReadsTrimmed fun definition => Column.read definition defaultWidth where
  toOption_trim t := by
    simp only [Column.read, trim_trim]
    split
    · rfl
    · split
      · rfl
      · rfl
  toOption_nil := rfl

theorem WrittenCondition.readsTrimmed : ReadsTrimmed WrittenCondition.read where
  toOption_trim t := by
    simp only [WrittenCondition.read, trim_trim]
    split
    · rfl
    · split
      · rfl
      · simp only [WrittenCondition.readLiteral]
        split
        · split
          · rfl
          · rfl
        · rfl
  toOption_nil := rfl

namespace TablePattern

/-- The condition that is written in a definition, if it fits the columns. -/
theorem toOption_readCondition (schema : Schema) (definition : Text) :
    (readCondition schema definition).toOption =
      (WrittenCondition.read definition).toOption.bind fun written =>
        (schema.find? written.field).bind fun column =>
          (column.type.cast written.literal).toOption.map fun value =>
            ⟨written.field, written.comparison, value⟩ := by
  unfold readCondition
  cases WrittenCondition.read definition with
  | error fault => rfl
  | ok written =>
    simp only [Except.toOption, Option.bind_some]
    cases schema.find? written.field with
    | none => rfl
    | some column =>
      simp only [Option.bind_some]
      cases column.type.cast written.literal with
      | error error => rfl
      | ok value => rfl

theorem readsTrimmed_readCondition (schema : Schema) : ReadsTrimmed (readCondition schema) where
  toOption_trim t := by
    rw [toOption_readCondition, toOption_readCondition, WrittenCondition.readsTrimmed.toOption_trim]
  toOption_nil := rfl

theorem readColumnsInto_eq (defaultWidth : Nat) (schema : Schema) (definitions : List Text) :
    readColumnsInto defaultWidth schema definitions =
      ⟨(accepted (Column.read · defaultWidth) definitions).foldl Keyed.put schema,
        (rejections (Column.read · defaultWidth) definitions).map .column⟩ := by
  induction definitions generalizing schema with
  | nil => rfl
  | cons definition rest ih =>
    let read (definition : Text) := Column.read definition defaultWidth
    cases hread : Column.read definition defaultWidth with
    | ok column =>
      have hok : read definition = .ok column := hread
      rw [accepted_cons_of_ok hok, rejections_cons_of_ok hok, readColumnsInto, hread]
      exact ih (schema.put column)
    | error fault =>
      have herror : read definition = .error fault := hread
      rw [accepted_cons_of_error herror, rejections_cons_of_error herror, readColumnsInto, hread]
      simp only [ih, List.map_cons, read]

theorem readConditions_eq (schema : Schema) (definitions : List Text) :
    readConditions schema definitions =
      ⟨accepted (readCondition schema) definitions,
        rejections (readCondition schema) definitions⟩ := by
  induction definitions with
  | nil => rfl
  | cons definition rest ih =>
    cases hread : readCondition schema definition with
    | ok condition =>
      rw [accepted_cons_of_ok hread, rejections_cons_of_ok hread, readConditions, hread]
      simp only [ih]
    | error notice =>
      rw [accepted_cons_of_error hread, rejections_cons_of_error hread, readConditions, hread]
      simp only [ih]

end TablePattern

end PlainReport
