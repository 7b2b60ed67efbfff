import PlainReport.Encoding.Builtin
import PlainReport.Proofs.Command.Outputs
import PlainReport.Proofs.Report.Production

/-!
# What a run writes

A run makes the reports one after the other, so a later one reads the files that an earlier one
left.  If no output names the file of any data, this makes no difference.  Every report is the one
that its data gives in the tree before the run (`produceEach_effect`, by induction on the data).

The run stops at the first report that fails, and the outputs before it are all that it has
changed.  This holds with any library of encodings (`run_effect`).
-/

namespace PlainReport.Command

/-! ## One report after the other -/

section ProduceEach

variable {α : Type} {make : Text → Text → StateM FileTree (Logged Event (Except ReportError α))}
  {output data : Text} {index : Nat} {tree later : FileTree}
  {notices : List Event}

theorem produceEach_of_error (rest : List Text) {error : ReportError}
    (h : make data (indexedOutput output index) tree = (⟨.error error, notices⟩, later)) :
    produceEach make output index (data :: rest) tree = (⟨.error error, notices⟩, later) := by
  simp only [produceEach, bind, StateT.bind, h]
  rfl

theorem produceEach_of_ok (rest : List Text) {made : α}
    (h : make data (indexedOutput output index) tree = (⟨.ok made, notices⟩, later)) :
    (produceEach make output index (data :: rest) tree).1.result =
        (produceEach make output (index + 1) rest later).1.result ∧
      (produceEach make output index (data :: rest) tree).2 =
        (produceEach make output (index + 1) rest later).2 := by
  simp only [produceEach, bind, StateT.bind, h]
  exact ⟨rfl, rfl⟩

end ProduceEach

/-- Whether the outputs that are numbered from `index` hold the first `count` reports, and no
other file has changed. -/
structure Wrote (reports : Nat → Option Text) (output : Text) (index count : Nat)
    (tree later : FileTree) : Prop where
  /-- Each output holds its report. -/
  reports : ∀ j < count, ∀ t, reports j = some t →
    later.read (indexedOutput output (index + j)) = .ok (encodeUtf8 t)
  /-- The other files are the same. -/
  others : FileTree.SameBut ((List.range' index count).map (indexedOutput output)) tree later

theorem Wrote.nothing (reports : Nat → Option Text) (output : Text) (index : Nat)
    (tree : FileTree) : Wrote reports output index 0 tree tree :=
  ⟨fun _ hj => absurd hj (Nat.not_lt_zero _), FileTree.SameBut.refl tree⟩

/-- A report written before others makes one more. -/
theorem Wrote.cons {reports : Nat → Option Text} {output t : Text} {index count : Nat}
    {tree middle later : FileTree} (ht : reports 0 = some t)
    (hread : middle.read (indexedOutput output index) = .ok (encodeUtf8 t))
    (hsame : FileTree.SameBut [indexedOutput output index] tree middle)
    (h : Wrote (fun j => reports (j + 1)) output (index + 1) count middle later) :
    Wrote reports output index (count + 1) tree later := by
  refine ⟨fun j hj u hu => ?_, ?_⟩
  · cases j with
    | zero =>
      cases ht.symm.trans hu
      refine (h.others.read_eq_ok_iff fun path hp hsameFile => ?_).2 hread
      -- The outputs written since have greater numbers.
      obtain ⟨n, hn, rfl⟩ := List.mem_map.1 hp
      have hle : index + 1 ≤ n := (List.mem_range'_1.1 hn).1
      have heq : n = index := index_eq_of_sameFile hsameFile
      omega
    | succ j =>
      have hnumber : index + (j + 1) = index + 1 + j := by omega
      rw [hnumber]
      exact h.reports j (Nat.lt_of_succ_lt_succ hj) u hu
  · exact hsame.trans h.others

section Each

variable {α : Type} {r : Refusals} {e : Encoding} {report : Text → Text} {output : Text}
  {each : Text → Text → StateM FileTree (Logged Event (Except ReportError α))}

/-- The report on the data file at a position, if it can be made and written to the output of its
number. -/
def reportAt? (r : Refusals) (tree : FileTree) (e : Encoding) (report : Text → Text)
    (output : Text) (index : Nat) (data : List Text) (j : Nat) : Option Text :=
  data[j]?.bind fun path => r.report? tree e report path (indexedOutput output (index + j))

/-- After the first output is written, the other data files get the reports that they would have
got before. -/
theorem reportAt?_of_sameBut {tree middle : FileTree} {path : Text} {index : Nat}
    {rest : List Text} (hsame : FileTree.SameBut [indexedOutput output index] tree middle)
    (hapart : ∀ data ∈ rest, ¬tree.SameFile (indexedOutput output index) data) (j : Nat) :
    reportAt? r middle e report output (index + 1) rest j =
      reportAt? r tree e report output index (path :: rest) (j + 1) := by
  unfold reportAt?
  rw [List.getElem?_cons_succ, Nat.add_right_comm, ← Nat.add_assoc]
  cases hj : rest[j]? with
  | none => rfl
  | some data =>
    refine Refusals.report?_of_sameBut hsame e report (List.forall_mem_singleton.2 ?_) _
    exact hapart data (List.mem_of_getElem? hj)

/-- The reports before the first that fails are written. -/
theorem produceEach_effect (hp : Produces r e report each) {data : List Text} {index count : Nat}
    {tree : FileTree}
    (hapart : ∀ j < data.length, ∀ path ∈ data,
      ¬tree.SameFile (indexedOutput output (index + j)) path)
    (hcount : count ≤ data.length)
    (hbefore : ∀ j < count, (reportAt? r tree e report output index data j).isSome = true)
    (hstop : count < data.length → reportAt? r tree e report output index data count = none) :
    ((∃ u, (produceEach each output index data tree).1.result = .ok u) ↔ count = data.length) ∧
      Wrote (reportAt? r tree e report output index data) output index count tree
        (produceEach each output index data tree).2 := by
  induction data generalizing index count tree with
  | nil =>
    cases Nat.le_zero.1 hcount
    exact ⟨⟨fun _ => rfl, fun _ => ⟨_, rfl⟩⟩, Wrote.nothing ..⟩
  | cons path rest ih =>
    have hend := hp path (indexedOutput output index) tree
    generalize hfirst : r.report? tree e report path (indexedOutput output index) = first at hend
    generalize hrun : each path (indexedOutput output index) tree = run at hend
    have hzero : reportAt? r tree e report output index (path :: rest) 0 = first := hfirst
    cases hend with
    | failed =>
      cases count with
      | zero =>
        rw [produceEach_of_error rest hrun]
        refine ⟨⟨?_, fun hnil => nomatch hnil⟩, Wrote.nothing ..⟩
        rintro ⟨u, hok⟩
        cases hok
      | succ count => cases hzero ▸ hbefore 0 (Nat.zero_lt_succ count)
    | @wrote t made notices middle hread hsame =>
      cases count with
      | zero => cases hzero.symm.trans (hstop (Nat.zero_lt_succ _))
      | succ count =>
        have hreports : reportAt? r middle e report output (index + 1) rest =
            fun j => reportAt? r tree e report output index (path :: rest) (j + 1) :=
          funext (reportAt?_of_sameBut hsame fun data hd =>
            hapart 0 (Nat.zero_lt_succ _) data (List.mem_cons_of_mem _ hd))
        have hrest : ∀ j < rest.length, ∀ data ∈ rest,
            ¬middle.SameFile (indexedOutput output (index + 1 + j)) data := by
          intro j hj data hd
          rw [hsame.sameFile_iff, Nat.add_right_comm]
          exact hapart (j + 1) (Nat.succ_lt_succ hj) data (List.mem_cons_of_mem _ hd)
        obtain ⟨hok, hwrote⟩ := ih hrest (Nat.le_of_succ_le_succ hcount)
          (fun j hj => hreports ▸ hbefore (j + 1) (Nat.succ_lt_succ hj))
          (fun hlt => hreports ▸ hstop (Nat.succ_lt_succ hlt))
        obtain ⟨hresult, htree⟩ := produceEach_of_ok rest hrun
        rw [hresult, htree]
        exact ⟨hok.trans Nat.succ_inj.symm, (hreports ▸ hwrote).cons hzero hread hsame⟩

end Each

/-! ## Invocations -/

namespace Invocation

section Encodings

variable [EncodingLibrary] (i : Invocation)

/-- The encoding of the pattern, if the library has one of its label. -/
def patternEncoding? : Option Encoding := EncodingLibrary.ofLabel? (Text.trim i.patternEncoding)

/-- The encoding of the data, if the library has one of its label. -/
def dataEncoding? : Option Encoding := EncodingLibrary.ofLabel? (Text.trim i.dataEncoding)

/-- The text of the pattern, if its encoding is known and it can be read and decoded. -/
def patternText? (r : Refusals) (tree : FileTree) : Option Text :=
  i.patternEncoding?.bind fun e => r.text? tree e i.pattern

end Encodings

/-- The report on a data file. -/
def report (i : Invocation) (pattern data : Text) : Text :=
  match i.format with
  | .table =>
    ((TablePattern.ofText i.defaultWidth pattern).result.sheet i.defaultWidth
      (Table.rowsIn data)).result.text
  | .text =>
    (Filling.fill ⟨(Fields.ofText .assignment data).result, i.defaultWidth,
      Filling.uninflected⟩ pattern).result

/-- The report on the data file at a position, if it can be made and written. -/
def report? (i : Invocation) (r : Refusals) (tree : FileTree) (e : Encoding) (pattern : Text) :
    Nat → Option Text :=
  reportAt? r tree e (i.report pattern) i.output 1 i.data

variable {i : Invocation} {r : Refusals} {tree later : FileTree} {c : Config} {pattern : Text}
  {notices : List Event}

section Settings

variable [EncodingLibrary]

theorem config_of_labels {patternEncoding dataEncoding : Encoding}
    (hp : i.patternEncoding? = some patternEncoding) (hd : i.dataEncoding? = some dataEncoding) :
    i.config = .ok ⟨i.defaultWidth, patternEncoding, dataEncoding⟩ := by
  unfold patternEncoding? at hp
  unfold dataEncoding? at hd
  simp only [config, Config.withPatternEncoding, Config.withDataEncoding, Config.encodingOf, hp, hd]
  rfl

theorem config_of_unknown_pattern (h : i.patternEncoding? = none) :
    ∃ error, i.config = .error error := by
  unfold patternEncoding? at h
  simp only [config, Config.withPatternEncoding, Config.encodingOf, h]
  exact ⟨_, rfl⟩

theorem config_of_unknown_data (h : i.dataEncoding? = none) :
    ∃ error, i.config = .error error := by
  unfold dataEncoding? at h
  simp only [config, Config.withPatternEncoding, Config.withDataEncoding, Config.encodingOf, h]
  cases EncodingLibrary.ofLabel? (Text.trim i.patternEncoding) <;> exact ⟨_, rfl⟩

theorem run_of_config_error {error : ReportError} (h : i.config = .error error) :
    (i.run r.access tree).1.code = 1 ∧ (i.run r.access tree).2 = tree := by
  simp only [run, h]
  exact ⟨rfl, rfl⟩

theorem run_of_produce_ok (hc : i.config = .ok c)
    (h : i.produce r.access c tree = (⟨.ok (), notices⟩, later)) :
    (i.run r.access tree).1.code = 0 ∧ (i.run r.access tree).2 = later := by
  simp only [run, hc, bind, StateT.bind, h]
  exact ⟨rfl, rfl⟩

theorem run_of_produce_error {error : ReportError} (hc : i.config = .ok c)
    (h : i.produce r.access c tree = (⟨.error error, notices⟩, later)) :
    (i.run r.access tree).1.code = 1 ∧ (i.run r.access tree).2 = later := by
  simp only [run, hc, bind, StateT.bind, h]
  exact ⟨rfl, rfl⟩

end Settings

/-- Without a pattern no report is made. -/
theorem produce_of_no_pattern (h : r.text? tree c.patternEncoding i.pattern = none) :
    ∃ error, i.produce r.access c tree = (⟨.error error, []⟩, tree) := by
  obtain ⟨error, hread⟩ := readText_of_no_text h
  unfold produce
  cases i.format with
  | table =>
    simp only [FileAccess.readPattern, bind, StateT.bind, hread]
    exact ⟨error, rfl⟩
  | text =>
    simp only [bind, StateT.bind, hread]
    exact ⟨error, rfl⟩

/-- With a pattern one report after the other is made. -/
theorem produce_of_pattern (hw : c.defaultWidth = i.defaultWidth)
    (h : r.text? tree c.patternEncoding i.pattern = some pattern) :
    ∃ (α : Type) (each : Text → Text → StateM FileTree (Logged Event (Except ReportError α))),
      Produces r c.dataEncoding (i.report pattern) each ∧
      (i.produce r.access c tree).1.result =
        (produceEach each i.output 1 i.data tree).1.result ∧
      (i.produce r.access c tree).2 = (produceEach each i.output 1 i.data tree).2 := by
  have hread := readText_of_text? h
  unfold produce report
  cases i.format with
  | table =>
    simp only [FileAccess.readPattern, bind, StateT.bind, hread]
    exact ⟨_, _, hw ▸ produces_produceTable r _ c, rfl, rfl⟩
  | text =>
    simp only [bind, StateT.bind, hread]
    exact ⟨_, _, hw ▸ produces_produceText r pattern _ c, rfl, rfl⟩

section Run

variable [EncodingLibrary]

/-- A run without a pattern or without an encoding fails before it writes anything. -/
theorem run_of_unready (h : i.patternText? r tree = none ∨ i.dataEncoding? = none) :
    (i.run r.access tree).1.code = 1 ∧ (i.run r.access tree).2 = tree := by
  cases hp : i.patternEncoding? with
  | none =>
    obtain ⟨error, hc⟩ := config_of_unknown_pattern hp
    exact run_of_config_error hc
  | some patternEncoding =>
    cases hd : i.dataEncoding? with
    | none =>
      obtain ⟨error, hc⟩ := config_of_unknown_data hd
      exact run_of_config_error hc
    | some dataEncoding =>
      have hnone : r.text? tree patternEncoding i.pattern = none := by
        simpa [patternText?, hp, hd] using h
      obtain ⟨error, hproduce⟩ := produce_of_no_pattern
        (c := ⟨i.defaultWidth, patternEncoding, dataEncoding⟩) hnone
      exact run_of_produce_error (config_of_labels hp hd) hproduce

/-- A run with a pattern writes the reports before the first that fails, and ends well if none
does. -/
theorem run_of_ready {e : Encoding} {count : Nat} (hp : i.patternText? r tree = some pattern)
    (hd : i.dataEncoding? = some e)
    (hapart : ∀ j < i.data.length, ∀ path ∈ i.data,
      ¬tree.SameFile (indexedOutput i.output (1 + j)) path)
    (hcount : count ≤ i.data.length)
    (hbefore : ∀ j < count, (i.report? r tree e pattern j).isSome = true)
    (hstop : count < i.data.length → i.report? r tree e pattern count = none) :
    (i.run r.access tree).1.code = (if count = i.data.length then 0 else 1) ∧
      Wrote (i.report? r tree e pattern) i.output 1 count tree (i.run r.access tree).2 := by
  obtain ⟨patternEncoding, hlabel, htext⟩ := Option.bind_eq_some_iff.1 hp
  have hc : i.config = .ok ⟨i.defaultWidth, patternEncoding, e⟩ := config_of_labels hlabel hd
  obtain ⟨α, each, hproduces, hresult, htree⟩ := produce_of_pattern
    (c := ⟨i.defaultWidth, patternEncoding, e⟩) rfl htext
  obtain ⟨hok, hwrote⟩ := produceEach_effect hproduces hapart hcount hbefore hstop
  rw [← hresult] at hok
  rw [← htree] at hwrote
  rcases hrun : i.produce r.access ⟨i.defaultWidth, patternEncoding, e⟩ tree with
    ⟨⟨result, notices⟩, later⟩
  rw [hrun] at hok hwrote
  cases result with
  | ok u =>
    obtain ⟨hcode, hlater⟩ := run_of_produce_ok hc hrun
    rw [if_pos (hok.1 ⟨u, rfl⟩), hcode, hlater]
    exact ⟨rfl, hwrote⟩
  | error error =>
    obtain ⟨hcode, hlater⟩ := run_of_produce_error hc hrun
    have hne : count ≠ i.data.length := fun heq => by
      obtain ⟨u, hu⟩ := hok.2 heq
      cases hu
    rw [if_neg hne, hcode, hlater]
    exact ⟨rfl, hwrote⟩

/-- What a run does to the files, with any library of encodings and whatever the system refuses.
Without a pattern or an encoding it fails and changes none.  If no output names the file of any
data, it writes the reports before the first that fails, each of which is made of its own data as
that was before the run. -/
theorem run_effect (i : Invocation) (r : Refusals) (tree : FileTree) :
    Function.Injective (indexedOutput i.output) ∧
    (i.patternText? r tree = none ∨ i.dataEncoding? = none →
      (i.run r.access tree).1.code = 1 ∧ (i.run r.access tree).2 = tree) ∧
    ∀ pattern e, i.patternText? r tree = some pattern → i.dataEncoding? = some e →
      (∀ j < i.data.length, ∀ path ∈ i.data,
        ¬tree.SameFile (indexedOutput i.output (1 + j)) path) →
      (∀ k < i.data.length, (∀ j < k, (i.report? r tree e pattern j).isSome = true) →
        i.report? r tree e pattern k = none →
        (i.run r.access tree).1.code = 1 ∧
        Wrote (i.report? r tree e pattern) i.output 1 k tree (i.run r.access tree).2) ∧
      ((∀ j < i.data.length, (i.report? r tree e pattern j).isSome = true) →
        (i.run r.access tree).1.code = 0 ∧
        Wrote (i.report? r tree e pattern) i.output 1 i.data.length tree
          (i.run r.access tree).2) := by
  refine ⟨indexedOutput_injective i.output, run_of_unready, ?_⟩
  intro pattern e hp hd hapart
  constructor
  · intro k hk hbefore hnone
    have h := run_of_ready hp hd hapart (Nat.le_of_lt hk) hbefore fun _ => hnone
    rwa [if_neg (Nat.ne_of_lt hk)] at h
  · intro hall
    have h := run_of_ready hp hd hapart (Nat.le_refl _) hall fun hlt =>
      absurd hlt (Nat.lt_irrefl _)
    rwa [if_pos rfl] at h

end Run

/-- Three tables of which the second may not be read.  The first is written and the third is
not. -/
theorem run_effect_of_denied_data :
    let _ : EncodingLibrary := Encoding.builtin
    let i : Invocation := ⟨"p", ["a", "b", "c"], "utf-8", " UTF8", .table, 20, "r/out", "info"⟩
    let r : Refusals := ⟨fun path =>
      if path = "b" then some (.other "Permission denied (os error 13)") else none,
      fun _ _ => none⟩
    let pattern : Text := "table columns: N|int-3"
    let file (name t : String) : File := ⟨[name], encodeUtf8 t⟩
    let tree : FileTree := ⟨.ofList [⟨["p"], encodeUtf8 pattern⟩, file "a" "N\n1#",
      file "b" "N\n2#", file "c" "N\n3#"], [["r"]], []⟩
    let report : String := "-----\n| N |\n-----\n| 1 |\n-----"
    let e : Encoding := EncodingLibrary.utf8
    i.patternText? r tree = some pattern ∧ i.dataEncoding? = some e ∧
      (∀ j < i.data.length, ∀ path ∈ i.data,
        ¬tree.SameFile (indexedOutput i.output (1 + j)) path) ∧
      i.report? r tree e pattern 0 = some report.toList ∧
      i.report? r tree e pattern 1 = none ∧
      (i.run r.access tree).1.code = 1 ∧
      (i.run r.access tree).2.read "r/1_out" = .ok report.toUTF8.data.toList ∧
      FileTree.SameBut ["r/1_out"] tree (i.run r.access tree).2 := by
  intro _ i r pattern file tree report e
  have hp : i.patternText? r tree = some pattern := by decide +kernel
  have hd : i.dataEncoding? = some e := rfl
  have hapart : ∀ j < i.data.length, ∀ path ∈ i.data,
      ¬tree.SameFile (indexedOutput i.output (1 + j)) path := by decide +kernel
  have hfirst : i.report? r tree e pattern 0 = some report.toList := by decide +kernel
  have hsecond : i.report? r tree e pattern 1 = none := by decide +kernel
  have hbytes : encodeUtf8 report.toList = report.toUTF8.data.toList := encodeUtf8_toList report
  obtain ⟨-, -, hready⟩ := run_effect i r tree
  obtain ⟨hcode, hwrote⟩ := (hready pattern e hp hd hapart).1 1 (by decide)
    (fun j hj => by cases Nat.lt_one_iff.1 hj; rw [hfirst]; rfl) hsecond
  exact ⟨hp, hd, hapart, hfirst, hsecond, hcode,
    hbytes ▸ hwrote.reports 0 Nat.zero_lt_one report.toList hfirst, hwrote.others⟩

end Invocation

end PlainReport.Command
