import PlainReport.Proofs.Pattern.ColumnText

/-!
# Groupings as text

A grouping is written as `fields|F;G; data|FUNCTION; TARGET`.  Its definition is read
as the grouping again (`Grouping.read_text`), and one that speaks of columns only
passes the check against them (`checkGrouping_of_writable`).
-/

namespace PlainReport

open Text

namespace Aggregate

theorem isWordChar_of_mem_keyword {function : Aggregate} {c : Char} (h : c ∈ function.keyword) :
    isWordChar c = true := by
  have hall : function.keyword.all isWordChar = true := by
    cases function with
    | sum => decide +kernel
    | average => decide +kernel
  exact List.all_eq_true.1 hall c h

theorem ofKeyword?_keyword (function : Aggregate) :
    ofKeyword? function.keyword = some function := by
  cases function with
  | sum => rfl
  | average => rfl

end Aggregate

namespace Grouping

/-- The fields as written. -/
def fieldsText (fields : List Text) : Text := join [';'] fields ++ [';', ' ']

/-- The function and the target as written. -/
def dataText (g : Grouping) : Text := g.aggregate.keyword ++ ';' :: ' ' :: g.target

/-- The definition of the grouping. -/
def text (g : Grouping) : Text := "fields|" ++ (fieldsText g.fields ++ "data|" ++ g.dataText)

/-- The grouping can be written for some columns. -/
structure Writable (schema : Schema) (g : Grouping) : Prop where
  /-- There are fields to group by. -/
  fields_ne_nil : g.fields ≠ []
  /-- They are columns. -/
  fields : ∀ field ∈ g.fields, field ∈ schema.keys
  /-- They are made of word characters and blanks. -/
  chars : ∀ field ∈ g.fields, ∀ c ∈ field, (isWordChar c || isBlank c) = true
  /-- The target is a column of numbers. -/
  target : ∃ column, schema.find? g.target = some column ∧ column.type.isNumeric = true

/-! ## Names -/

theorem Writable.isName_field {schema : Schema} {g : Grouping} (h : g.Writable schema)
    (hcolumns : ∀ c ∈ schema.entries, c.Writable) : ∀ field ∈ g.fields, field.IsName := by
  intro field hf
  obtain ⟨column, hmem, rfl⟩ := List.mem_map.1 (h.fields field hf)
  exact (hcolumns column hmem).name

theorem Writable.isName_target {schema : Schema} {g : Grouping} (h : g.Writable schema)
    (hcolumns : ∀ c ∈ schema.entries, c.Writable) : g.target.IsName := by
  obtain ⟨column, hfind, -⟩ := h.target
  exact Column.isName_of_find? hcolumns hfind

/-- Only the semicolon divides the fields, and only it divides the function and the
target. -/
theorem not_mem_fieldsText {fields : List Text} (h : ∀ field ∈ fields, field.IsName) {x : Char}
    (hx : x ∈ dividers) (hsep : x ≠ ';') : x ∉ fieldsText fields := by
  have hspace := ne_space_of_mem_dividers hx
  have hjoin : x ∉ join [';'] fields :=
    not_mem_join (by simpa using hsep) fun field hf => (h field hf).not_mem hx
  simp [fieldsText, hjoin, hsep, hspace]

theorem not_mem_dataText {g : Grouping} (h : g.target.IsName) {x : Char} (hx : x ∈ dividers)
    (hsep : x ≠ ';') : x ∉ g.dataText := by
  have hspace := ne_space_of_mem_dividers hx
  have hkeyword : x ∉ g.aggregate.keyword :=
    not_mem_of_class (fun _ => Aggregate.isWordChar_of_mem_keyword) (isWordChar_of_mem_dividers hx)
  simp [dataText, hkeyword, hsep, hspace, h.not_mem hx]

/-! ## Reading -/

theorem fieldsOf_fieldsText {fields : List Text} (hne : fields ≠ [])
    (h : ∀ field ∈ fields, field.IsName) : fieldsOf (fieldsText fields) = fields := by
  have hpieces : pieces ';' (fieldsText fields) = fields ++ [[' ']] := by
    rw [fieldsText, pieces_append_sep,
      pieces_join hne fun field hf => (h field hf).not_mem (by decide)]
    rfl
  have htrim : fields.map trim = fields.map id :=
    List.map_congr_left fun field hf => (h field hf).trim_eq
  have hkeep : ∀ field ∈ fields, (!field.isEmpty) = true := by
    intro field hf
    rw [(h field hf).isEmpty_eq]
    rfl
  have hupper : fields.map toUpper = fields.map id :=
    List.map_congr_left fun field hf => (h field hf).upper_eq
  rw [fieldsOf, hpieces, List.map_append, List.filter_append, htrim, List.map_id,
    List.filter_eq_self.2 hkeep]
  show (fields ++ []).map toUpper = fields
  rw [List.append_nil, hupper, List.map_id]

theorem all_isFieldsChar {fields : List Text}
    (h : ∀ field ∈ fields, ∀ c ∈ field, (isWordChar c || isBlank c) = true) :
    (fieldsText fields).all isFieldsChar = true := by
  rw [List.all_eq_true]
  intro c hc
  cases List.mem_append.1 hc with
  | inl hjoin =>
    cases mem_join hjoin with
    | inl hsep =>
      cases List.mem_singleton.1 hsep
      decide +kernel
    | inr hex =>
      obtain ⟨field, hf, hcf⟩ := hex
      have hclass := h field hf c hcf
      rw [Bool.or_eq_true] at hclass
      cases hclass with
      | inl hword => simp [isFieldsChar, hword]
      | inr hblank => simp [isFieldsChar, hblank]
  | inr hend =>
    have hall : [';', ' '].all isFieldsChar = true := by decide +kernel
    exact List.all_eq_true.1 hall c hend

theorem readData_dataText (definition : Text) {g : Grouping} (h : g.target.IsName) :
    readData definition g.fields g.dataText = .ok g := by
  have hsep : isWordChar ';' = false := isWordChar_of_mem_dividers (by decide)
  have hspace : isNameChar ' ' = true := isNameChar_of_isBlank rfl
  have htarget : ∀ c ∈ ' ' :: g.target, isNameChar c = true :=
    List.forall_mem_cons.2 ⟨hspace, h.chars⟩
  rw [readData, dataText, Cursor.ofText,
    Cursor.takeWhile_append (fun _ => Aggregate.isWordChar_of_mem_keyword) (stops_cons hsep _)]
  simp only [Aggregate.ofKeyword?_keyword]
  rw [Cursor.skipBlanks_of_stops (stops_cons (by decide) _), Cursor.eat?_cons]
  simp only [Cursor.takeWhile_all htarget, trim_space, h.trim_eq, h.isEmpty_eq, h.upper_eq]
  rfl

/-- A grouping is read as it was written. -/
theorem read_text {schema : Schema} (hcolumns : ∀ c ∈ schema.entries, c.Writable) {g : Grouping}
    (h : g.Writable schema) {definition : Text} (hd : trim definition = g.text) :
    read definition = .ok g := by
  have hnames := h.isName_field hcolumns
  have htarget := h.isName_target hcolumns
  -- the bar of the second part is the only one after the first
  have hword : ("data|" : Text) = ['d', 'a', 't', 'a'] ++ ['|'] := rfl
  have hcut : cutLast? "data|" (fieldsText g.fields ++ "data|" ++ g.dataText) =
      some (fieldsText g.fields, g.dataText) := by
    rw [hword]
    exact cutLast?_of_once (not_mem_fieldsText hnames (by decide) (by decide)) (by decide)
      (not_mem_dataText htarget (by decide) (by decide))
  have hsome : g.fields.isEmpty = false := List.isEmpty_eq_false_iff.2 h.fields_ne_nil
  unfold read
  rw [hd]
  unfold text
  simp only [Cursor.ofText, Cursor.eatText?_append, hcut, all_isFieldsChar h.chars,
    fieldsOf_fieldsText h.fields_ne_nil hnames, hsome]
  exact readData_dataText definition htarget

theorem trim_text {g : Grouping} (h : g.target.IsName) : trim g.text = g.text := by
  have hdata : EndsSolid g.dataText := by
    have := h.ends.append_left (g.aggregate.keyword ++ [';', ' '])
    simpa [dataText] using this
  have hbegin : BeginsSolid "fields|" := ⟨'f', "ields|", rfl, rfl⟩
  have hend := hdata.append_left ("fields|" ++ (fieldsText g.fields ++ "data|"))
  unfold text
  refine trim_of_solid (hbegin.append _) ?_
  simpa only [List.append_assoc] using hend

theorem numberSign_not_mem_text {g : Grouping} (hnames : ∀ field ∈ g.fields, field.IsName)
    (htarget : g.target.IsName) : '#' ∉ g.text := by
  have hfields := not_mem_fieldsText hnames (x := '#') (by decide) (by decide)
  have hdata := not_mem_dataText htarget (x := '#') (by decide) (by decide)
  unfold text
  simp [hfields, hdata]

end Grouping

namespace TablePattern

theorem checkGrouping_of_writable {schema : Schema} {g : Grouping} (h : g.Writable schema) :
    checkGrouping schema g = .ok g := by
  obtain ⟨column, hfind, hnumeric⟩ := h.target
  have hall : ∀ name ∈ g.fields ++ [g.target], ¬ (!schema.contains name) = true := by
    intro name hname
    rw [Bool.not_eq_true', Bool.not_eq_false]
    cases List.mem_append.1 hname with
    | inl hf => exact (Keyed.mem_keys_iff_contains schema name).1 (h.fields name hf)
    | inr ht =>
      cases List.mem_singleton.1 ht
      rw [Keyed.contains, hfind]
      rfl
  rw [checkGrouping, List.find?_eq_none.2 hall]
  simp only [hfind, hnumeric, if_true]

end TablePattern

end PlainReport
