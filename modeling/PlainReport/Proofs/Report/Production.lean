import PlainReport.Encoding.Builtin
import PlainReport.Proofs.Loading
import PlainReport.Proofs.Report.Files
import PlainReport.Report.Production

/-!
# How the production of a report ends

A production reads the data, makes the report and writes it, and each of the three may fail.
`Production` has one case for each failure and one for success, and `production` says that
there are no others.  Nothing is written before the report is made, so what is known of the
result tells how far the production came (`Production.of_error`, `Production.of_ok`).

Bytes that are text always make a report of a table.  Every error of loading is one of the table
alone, so it becomes a notice and leaves no rows (`tableReport_of_rejected`).  What ends with an
error is reading, decoding or writing (`produceTable_outcome`).
-/

namespace PlainReport

/-! ## Reading text -/

theorem readText_of_text? {r : Refusals} {tree : FileTree} {e : Encoding} {path t : Text}
    (h : r.text? tree e path = some t) : r.access.readText e path tree = (.ok t, tree) := by
  obtain ⟨bytes, hread, hdecode⟩ := Refusals.text?_eq_some_iff.1 h
  simp only [FileAccess.readText, bind, StateT.bind, Refusals.access_read, hread, decodeFile,
    hdecode]
  rfl

theorem readText_of_no_text {r : Refusals} {tree : FileTree} {e : Encoding} {path : Text}
    (h : r.text? tree e path = none) :
    ∃ error, r.access.readText e path tree = (.error error, tree) := by
  simp only [FileAccess.readText, bind, StateT.bind, Refusals.access_read, decodeFile]
  cases hread : r.read tree path with
  | error fault => exact ⟨_, rfl⟩
  | ok bytes =>
    have hdecode : e.decode? bytes = none := by
      rw [← h, Refusals.text?, hread]
      rfl
    simp only [hdecode]
    exact ⟨_, rfl⟩

/-! ## The four ends -/

section Production

variable {α : Type} {r : Refusals} {make : Bytes → Except ReportError (Logged Event α)}
  {text : α → Text} {data output : Text} {tree : FileTree}

/-- How the production of a report ends in a tree, with the tree that it leaves. -/
inductive Production (r : Refusals) (make : Bytes → Except ReportError (Logged Event α))
    (text : α → Text) (data output : Text) (tree : FileTree) :
    Logged Event (Except ReportError α) × FileTree → Prop where
  /-- The data cannot be read. -/
  | unread {fault : FileFault} (hread : r.read tree data = .error fault) :
    Production r make text data output tree (⟨.error (.file data fault), []⟩, tree)
  /-- The data makes no report. -/
  | unmade {bytes : Bytes} {error : ReportError} (hread : r.read tree data = .ok bytes)
      (hmake : make bytes = .error error) :
    Production r make text data output tree (⟨.error error, []⟩, tree)
  /-- The report cannot be written. -/
  | unwritten {bytes : Bytes} {report : Logged Event α} {fault : FileFault}
      (hread : r.read tree data = .ok bytes) (hmake : make bytes = .ok report)
      (hwrite : r.write tree output (encodeUtf8 (text report.result)) = .error fault) :
    Production r make text data output tree (⟨.error (.file output fault), report.notices⟩, tree)
  /-- The report is written. -/
  | written {bytes : Bytes} {report : Logged Event α} {later : FileTree}
      (hread : r.read tree data = .ok bytes) (hmake : make bytes = .ok report)
      (hwrite : r.write tree output (encodeUtf8 (text report.result)) = .ok later) :
    Production r make text data output tree (⟨.ok report.result, report.notices⟩, later)

/-- There are no other ends. -/
theorem production (r : Refusals) (make : Bytes → Except ReportError (Logged Event α))
    (text : α → Text) (data output : Text) (tree : FileTree) :
    Production r make text data output tree (r.access.produce make text data output tree) := by
  unfold FileAccess.produce FileAccess.writeText
  simp only [bind, StateT.bind, Refusals.access_read]
  cases hread : r.read tree data with
  | error fault => exact .unread hread
  | ok bytes =>
    dsimp only
    cases hmake : make bytes with
    | error error => exact .unmade hread hmake
    | ok report =>
      simp only [StateT.bind]
      cases hwrite : r.write tree output (encodeUtf8 (text report.result)) with
      | error fault =>
        rw [Refusals.access_write_of_error hwrite]
        exact .unwritten hread hmake hwrite
      | ok later =>
        rw [Refusals.access_write_of_ok hwrite]
        exact .written hread hmake hwrite

namespace Production

variable {run : Logged Event (Except ReportError α) × FileTree}

/-- What an error says about the three steps. -/
theorem of_error (h : Production r make text data output tree run) {error : ReportError}
    (herror : run.1.result = .error error) :
    (∃ fault, r.read tree data = .error fault ∧ error = .file data fault ∧ run.2 = tree) ∨
    (∃ bytes, r.read tree data = .ok bytes ∧ make bytes = .error error ∧ run.2 = tree) ∨
    ∃ bytes report fault, r.read tree data = .ok bytes ∧ make bytes = .ok report ∧
      error = .file output fault ∧
      r.write tree output (encodeUtf8 (text report.result)) = .error fault := by
  cases h with
  | unread hread =>
    cases herror
    exact .inl ⟨_, hread, rfl, rfl⟩
  | unmade hread hmake =>
    cases herror
    exact .inr (.inl ⟨_, hread, hmake, rfl⟩)
  | unwritten hread hmake hwrite =>
    cases herror
    exact .inr (.inr ⟨_, _, _, hread, hmake, rfl, hwrite⟩)
  | written => cases herror

/-- Once a report is made, only writing it may fail. -/
theorem of_make (h : Production r make text data output tree run) {bytes : Bytes}
    {report : Logged Event α} (hread : r.read tree data = .ok bytes)
    (hmake : make bytes = .ok report) :
    run.1.notices = report.notices ∧ (run.1.result = .ok report.result ∨
      ∃ fault, r.write tree output (encodeUtf8 (text report.result)) = .error fault) := by
  cases h with
  | unread hunread => cases hunread.symm.trans hread
  | unmade hread' hunmade =>
    cases hread'.symm.trans hread
    cases hunmade.symm.trans hmake
  | unwritten hread' hmake' hwrite =>
    cases hread'.symm.trans hread
    cases hmake'.symm.trans hmake
    exact ⟨rfl, .inr ⟨_, hwrite⟩⟩
  | written hread' hmake' =>
    cases hread'.symm.trans hread
    cases hmake'.symm.trans hmake
    exact ⟨rfl, .inl rfl⟩

/-- A report that is returned is what the output holds, and no other file has changed. -/
theorem of_ok (h : Production r make text data output tree run) {made : α}
    (hok : run.1.result = .ok made) :
    (∃ bytes notices, r.read tree data = .ok bytes ∧ make bytes = .ok ⟨made, notices⟩) ∧
      run.2.read output = .ok (encodeUtf8 (text made)) ∧
      FileTree.SameBut [output] tree run.2 := by
  cases h with
  | written hread hmake hwrite =>
    cases hok
    obtain ⟨-, hwritten⟩ := Refusals.write_eq_ok_iff.1 hwrite
    exact ⟨⟨_, _, hread, hmake⟩, FileTree.read_of_write hwritten,
      FileTree.sameBut_of_write hwritten⟩
  | unread => cases hok
  | unmade => cases hok
  | unwritten => cases hok

end Production

/-! ## The report that a production writes -/

/-- Whether the text of what is made is a report on the text that the bytes stand for. -/
def Makes (make : Bytes → Except ReportError (Logged Event α)) (text : α → Text) (e : Encoding)
    (report : Text → Text) : Prop :=
  ∀ bytes, (make bytes).toOption.map (fun made => text made.result) = (e.decode? bytes).map report

/-- The report on a data file, if the file can be read and decoded and the report can be
written. -/
def Refusals.report? (r : Refusals) (tree : FileTree) (e : Encoding) (report : Text → Text)
    (data output : Text) : Option Text :=
  ((r.text? tree e data).map report).filter fun t => r.canWrite tree output (encodeUtf8 t)

/-- How a production ends, by the report that it has to write. -/
inductive ReportEnds (output : Text) (tree : FileTree) :
    Option Text → Logged Event (Except ReportError α) × FileTree → Prop where
  /-- The output holds the report, and no other file has changed. -/
  | wrote {t : Text} {made : α} {notices : List Event} {later : FileTree}
      (hread : later.read output = .ok (encodeUtf8 t))
      (hsame : FileTree.SameBut [output] tree later) :
    ReportEnds output tree (some t) (⟨.ok made, notices⟩, later)
  /-- No file has changed. -/
  | failed {error : ReportError} {notices : List Event} :
    ReportEnds output tree none (⟨.error error, notices⟩, tree)

variable {e : Encoding} {report : Text → Text}

theorem Refusals.report?_of_read (hm : Makes make text e report) {bytes : Bytes}
    (hread : r.read tree data = .ok bytes) :
    r.report? tree e report data output =
      ((make bytes).toOption.map fun made => text made.result).filter fun t =>
        r.canWrite tree output (encodeUtf8 t) := by
  rw [report?, text?, hread, hm bytes]
  rfl

/-- A production either writes its report or changes no file. -/
theorem Production.reportEnds {run : Logged Event (Except ReportError α) × FileTree}
    (h : Production r make text data output tree run) (hm : Makes make text e report) :
    ReportEnds output tree (r.report? tree e report data output) run := by
  cases h with
  | unread hread =>
    have hnone : r.report? tree e report data output = none := by
      rw [Refusals.report?, Refusals.text?, hread]
      rfl
    exact hnone ▸ .failed
  | unmade hread hmake =>
    have hnone : r.report? tree e report data output = none := by
      rw [Refusals.report?_of_read hm hread, hmake]
      rfl
    exact hnone ▸ .failed
  | unwritten hread hmake hwrite =>
    have hnone : r.report? tree e report data output = none := by
      rw [Refusals.report?_of_read hm hread, hmake]
      exact Option.filter_some_neg (Refusals.canWrite_of_error hwrite)
    exact hnone ▸ .failed
  | @written bytes made later hread hmake hwrite =>
    have hsome : r.report? tree e report data output = some (text made.result) := by
      rw [Refusals.report?_of_read hm hread, hmake]
      exact Option.filter_some_pos (Refusals.canWrite_iff.2 ⟨_, hwrite⟩)
    obtain ⟨-, hwritten⟩ := Refusals.write_eq_ok_iff.1 hwrite
    exact hsome ▸ .wrote (FileTree.read_of_write hwritten) (FileTree.sameBut_of_write hwritten)

end Production

/-- Whether productions write the reports on the text of their data. -/
def Produces {α : Type} (r : Refusals) (e : Encoding) (report : Text → Text)
    (each : Text → Text → StateM FileTree (Logged Event (Except ReportError α))) : Prop :=
  ∀ data output tree,
    ReportEnds output tree (r.report? tree e report data output) (each data output tree)

/-- A report depends on the files that it reads and on what can be written. -/
theorem Refusals.report?_of_sameBut {r : Refusals} {paths : List Text} {tree later : FileTree}
    (h : FileTree.SameBut paths tree later) (e : Encoding) (report : Text → Text)
    {data : Text} (hp : ∀ changed ∈ paths, ¬tree.SameFile changed data) (output : Text) :
    r.report? later e report data output = r.report? tree e report data output := by
  unfold Refusals.report?
  rw [text?_of_sameBut h e hp]
  simp only [canWrite_of_sameBut h]

/-! ## Reports of tables -/

/-- The rows of a table, and none if it is rejected. -/
def Table.rowsIn (t : Text) : List Row := (loadTable t).toOption.getD []

section TableReport

variable {p : TablePattern} {c : Config} {path t : Text} {bytes : Bytes}

theorem rowsOrNotice_of_ok (path : Text) {rows : List Row} (h : loadTable t = .ok rows) :
    rowsOrNotice path t = .ok ⟨rows, []⟩ := by
  simp only [rowsOrNotice, h]

/-- Errors of loading are never passed on, since they all are faults of the table. -/
theorem rowsOrNotice_of_error (path : Text) {error : ReportError}
    (h : loadTable t = .error error) :
    rowsOrNotice path t = .ok ⟨[], [⟨.error, error.message ++ " in " ++ path⟩]⟩ := by
  simp only [rowsOrNotice, h, isTableFault_of_loadTable h, if_true]

theorem exists_rowsOrNotice (path t : Text) :
    ∃ notices, rowsOrNotice path t = .ok ⟨Table.rowsIn t, notices⟩ := by
  unfold Table.rowsIn
  cases h : loadTable t with
  | ok rows => exact ⟨_, rowsOrNotice_of_ok path h⟩
  | error error => exact ⟨_, rowsOrNotice_of_error path h⟩

theorem tableReport_of_undecodable (p : TablePattern) (path : Text)
    (h : c.dataEncoding.decode? bytes = none) :
    tableReport p c path bytes = .error (.undecodable path c.dataEncoding.name) := by
  simp only [tableReport, decodeFile, h]

theorem tableReport_of_rows (p : TablePattern) {rows : Logged Event (List Row)}
    (h : c.dataEncoding.decode? bytes = some t) (hrows : rowsOrNotice path t = .ok rows) :
    tableReport p c path bytes = .ok ⟨(p.sheet c.defaultWidth rows.result).result,
      rows.notices ++ (p.sheet c.defaultWidth rows.result).notices.map CastNotice.event⟩ := by
  simp only [tableReport, decodeFile, h, hrows]

/-- Without rows no cell is cast. -/
theorem notices_sheet_nil (p : TablePattern) (width : Nat) : (p.sheet width []).notices = [] := rfl

/-- A rejected table is reported and counts as an empty one. -/
theorem tableReport_of_rejected (p : TablePattern) (path : Text) {error : ReportError}
    (h : c.dataEncoding.decode? bytes = some t) (hload : loadTable t = .error error) :
    tableReport p c path bytes = .ok ⟨(p.sheet c.defaultWidth []).result,
      [⟨.error, error.message ++ " in " ++ path⟩]⟩ := by
  rw [tableReport_of_rows p h (rowsOrNotice_of_error path hload), notices_sheet_nil]
  rfl

/-- Text always makes a report. -/
theorem exists_tableReport (p : TablePattern) (path : Text)
    (h : c.dataEncoding.decode? bytes = some t) :
    ∃ notices, tableReport p c path bytes =
      .ok ⟨(p.sheet c.defaultWidth (Table.rowsIn t)).result, notices⟩ := by
  obtain ⟨notices, hrows⟩ := exists_rowsOrNotice path t
  have hreport := tableReport_of_rows p h hrows
  exact ⟨_, hreport⟩

theorem tableReport_eq_error_iff {error : ReportError} :
    tableReport p c path bytes = .error error ↔
      c.dataEncoding.decode? bytes = none ∧ error = .undecodable path c.dataEncoding.name := by
  cases h : c.dataEncoding.decode? bytes with
  | none => simp [tableReport_of_undecodable p path h, eq_comm]
  | some t =>
    obtain ⟨notices, hreport⟩ := exists_tableReport p path h
    simp [hreport]

theorem result_of_tableReport {report : Logged Event Sheet}
    (h : tableReport p c path bytes = .ok report) :
    ∃ t, c.dataEncoding.decode? bytes = some t ∧
      report.result = (p.sheet c.defaultWidth (Table.rowsIn t)).result := by
  cases hdecode : c.dataEncoding.decode? bytes with
  | none => cases (tableReport_of_undecodable p path hdecode).symm.trans h
  | some t =>
    obtain ⟨notices, hreport⟩ := exists_tableReport p path hdecode
    cases hreport.symm.trans h
    exact ⟨t, rfl, rfl⟩

/-- The report of a table is the sheet of its rows. -/
theorem makes_tableReport (p : TablePattern) (c : Config) (path : Text) :
    Makes (tableReport p c path) Sheet.text c.dataEncoding fun t =>
      (p.sheet c.defaultWidth (Table.rowsIn t)).result.text := by
  intro bytes
  cases h : c.dataEncoding.decode? bytes with
  | none => rw [tableReport_of_undecodable p path h]; rfl
  | some t =>
    obtain ⟨notices, hreport⟩ := exists_tableReport p path h
    rw [hreport]
    rfl

theorem produces_produceTable (r : Refusals) (p : TablePattern) (c : Config) :
    Produces r c.dataEncoding (fun t => (p.sheet c.defaultWidth (Table.rowsIn t)).result.text)
      (r.access.produceTable p c) :=
  fun data _ _ => (production ..).reportEnds (makes_tableReport p c data)

end TableReport

/-! ## Reports of fields -/

/-- The report of fields is the letter that they fill. -/
theorem makes_textReport (pattern : Text) (inflect : Int64 → Text → Text) (c : Config)
    (path : Text) :
    Makes (textReport pattern inflect c path) id c.dataEncoding fun t =>
      (Filling.fill ⟨(Fields.ofText .assignment t).result, c.defaultWidth, inflect⟩
        pattern).result := by
  intro bytes
  unfold textReport decodeFile
  cases c.dataEncoding.decode? bytes <;> rfl

theorem produces_produceText (r : Refusals) (pattern : Text) (inflect : Int64 → Text → Text)
    (c : Config) :
    Produces r c.dataEncoding (fun t => (Filling.fill ⟨(Fields.ofText .assignment t).result,
      c.defaultWidth, inflect⟩ pattern).result) (r.access.produceText pattern inflect c) :=
  fun data _ _ => (production ..).reportEnds (makes_textReport pattern inflect c data)

/-! ## The outcome of a table report -/

/-- What is known of a production of a table report in a tree, by what it returned and the
tree that it left. -/
structure TableOutcome (r : Refusals) (p : TablePattern) (c : Config) (data output : Text)
    (tree : FileTree) (run : Logged Event (Except ReportError Sheet) × FileTree) : Prop where
  /-- There is an error only if the data cannot be read, is not in the encoding, or the output
  cannot be written.  In the first two cases no file has changed. -/
  failed : ∀ error, run.1.result = .error error →
    (∃ fault, r.read tree data = .error fault ∧ error = .file data fault ∧ run.2 = tree) ∨
    (∃ bytes, r.read tree data = .ok bytes ∧ c.dataEncoding.decode? bytes = none ∧
      error = .undecodable data c.dataEncoding.name ∧ run.2 = tree) ∨
    ∃ t fault, r.text? tree c.dataEncoding data = some t ∧ error = .file output fault ∧
      r.write tree output (encodeUtf8 (p.sheet c.defaultWidth (Table.rowsIn t)).result.text) =
        .error fault
  /-- A table is rejected for a name that stands twice or a record of another length than the
  header.  That is the only notice, and the report is that of no rows. -/
  rejected : ∀ t, r.text? tree c.dataEncoding data = some t →
    ((∃ error, loadTable t = .error error) ↔ ¬(Table.headerOf t).Nodup ∨
      ∃ record ∈ Table.recordsOf t, record.length ≠ (Table.headerOf t).length) ∧
    ∀ error, loadTable t = .error error →
      run.1.notices = [⟨.error, error.message ++ " in " ++ data⟩] ∧
      (run.1.result = .ok (p.sheet c.defaultWidth []).result ∨ ∃ fault,
        r.write tree output (encodeUtf8 (p.sheet c.defaultWidth []).result.text) = .error fault)
  /-- A report that is returned is what the output file holds, and no other file has changed. -/
  succeeded : ∀ sheet, run.1.result = .ok sheet →
    (∃ t, r.text? tree c.dataEncoding data = some t ∧
      sheet = (p.sheet c.defaultWidth (Table.rowsIn t)).result) ∧
    run.2.read output = .ok (encodeUtf8 sheet.text) ∧ FileTree.SameBut [output] tree run.2

/-- Producing a table report fails cleanly, and never on a bad table. -/
theorem produceTable_outcome (r : Refusals) (p : TablePattern) (c : Config) (data output : Text)
    (tree : FileTree) :
    TableOutcome r p c data output tree (r.access.produceTable p c data output tree) := by
  have hend : Production r (tableReport p c data) Sheet.text data output tree
      (r.access.produceTable p c data output tree) := production ..
  constructor
  case failed =>
    intro error herror
    rcases hend.of_error herror with hunread | ⟨bytes, hread, hmake, htree⟩ |
      ⟨bytes, report, fault, hread, hmake, herror, hwrite⟩
    · exact .inl hunread
    · obtain ⟨hdecode, hundecodable⟩ := tableReport_eq_error_iff.1 hmake
      exact .inr (.inl ⟨bytes, hread, hdecode, hundecodable, htree⟩)
    · obtain ⟨t, hdecode, hresult⟩ := result_of_tableReport hmake
      have ht := Refusals.text?_eq_some_iff.2 ⟨bytes, hread, hdecode⟩
      exact .inr (.inr ⟨t, fault, ht, herror, hresult ▸ hwrite⟩)
  case rejected =>
    intro t ht
    refine ⟨exists_loadTable_eq_error_iff, fun error hload => ?_⟩
    obtain ⟨bytes, hread, hdecode⟩ := Refusals.text?_eq_some_iff.1 ht
    exact hend.of_make hread (tableReport_of_rejected p data hdecode hload)
  case succeeded =>
    intro sheet hsheet
    obtain ⟨⟨bytes, notices, hread, hmake⟩, hwritten⟩ := hend.of_ok hsheet
    obtain ⟨t, hdecode, hresult⟩ := result_of_tableReport hmake
    exact ⟨⟨t, Refusals.text?_eq_some_iff.2 ⟨bytes, hread, hdecode⟩, hresult⟩, hwritten⟩

/-- A short record after a good one leaves no row in the report. -/
theorem produceTable_outcome_of_short_record :
    let c : Config := ⟨20, Encoding.builtin.utf8, Encoding.builtin.utf8⟩
    let p := (TablePattern.ofText 20 "table columns: N|int-3").result
    let t : Text := "N,M\n1,2#3#"
    let bytes : Bytes := [0x4e, 0x2c, 0x4d, 0x0a, 0x31, 0x2c, 0x32, 0x23, 0x33, 0x23]
    let tree : FileTree := ⟨.ofList [⟨["d"], bytes⟩], [], []⟩
    let report : String := "----------------------------------------------\n" ++
      "|Ничего не найдено. Проверьте шаблон и данные|\n" ++
      "----------------------------------------------"
    let run := FileTree.access.produceTable p c "d" "o" tree
    Refusals.none.text? tree c.dataEncoding "d" = some t ∧
      loadTable t = .error (.table (.missingValue 2)) ∧
      run.1.result = .ok (p.sheet 20 []).result ∧
      (p.sheet 20 []).result.text = report.toList ∧
      run.1.notices = [⟨.error, "TableDataError: no column value in row 2 in d"⟩] ∧
      run.2.read "o" = .ok report.toUTF8.data.toList ∧
      FileTree.SameBut ["o"] tree run.2 := by
  intro c p t bytes tree report run
  have ht : Refusals.none.text? tree c.dataEncoding "d" = some t := by decide +kernel
  have hload : loadTable t = .error (.table (.missingValue 2)) := by decide +kernel
  have htext : (p.sheet 20 []).result.text = report.toList := by decide +kernel
  have hwritable :
      Refusals.none.canWrite tree "o" (encodeUtf8 (p.sheet 20 []).result.text) = true := by
    decide +kernel
  have houtcome := produceTable_outcome Refusals.none p c "d" "o" tree
  rw [Refusals.access_none] at houtcome
  obtain ⟨hnotices, hresult⟩ := (houtcome.rejected t ht).2 _ hload
  have hok : run.1.result = .ok (p.sheet 20 []).result := by
    refine hresult.resolve_right ?_
    rintro ⟨fault, hrefused⟩
    rw [Refusals.canWrite_of_error hrefused] at hwritable
    cases hwritable
  obtain ⟨-, hread, hsame⟩ := houtcome.succeeded _ hok
  have hbytes : encodeUtf8 (p.sheet 20 []).result.text = report.toUTF8.data.toList := by
    rw [htext, encodeUtf8_toList]
  exact ⟨ht, hload, hok, htext, hnotices, hbytes ▸ hread, hsame⟩

end PlainReport
