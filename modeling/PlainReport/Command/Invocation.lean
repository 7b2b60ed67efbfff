import PlainReport.Report.Production

/-!
# Invocations

An invocation is what a command line asks for, when all its words are read.  A run
makes one report of each data file, in order, and stops at the first that fails.
The reports before it stay.  The output of the n-th data file is the output path
with `n_` before the name of the file.
-/

namespace PlainReport.Command

/-- What the data is. -/
inductive InputFormat where
  | table
  | text
deriving DecidableEq, Repr

/-- What a command line asks for. -/
structure Invocation where
  /-- The path of the pattern. -/
  pattern : Text
  /-- The paths of the data. -/
  data : List Text
  /-- The label of the encoding of the data. -/
  dataEncoding : Text
  /-- The label of the encoding of the pattern. -/
  patternEncoding : Text
  /-- What the data is. -/
  format : InputFormat
  /-- The width of columns and placeholders that give none. -/
  defaultWidth : Nat
  /-- The path of the output. -/
  output : Text
  /-- How much is logged. -/
  logLevel : Text
deriving DecidableEq, Repr

/-! ## Outputs -/

/-- Whether a part of a path stays where it is: an empty one or a single point. -/
def staysInPlace (part : Text) : Bool := part.isEmpty || part = ['.']

/-- The parts of a path without those at its end that stay in place.  The first part says
where the path starts and is kept. -/
def leadingParts : List Text → List Text
  | [] => []
  | start :: rest => start :: (rest.reverse.dropWhile staysInPlace).reverse

/-- The name of the file that the parts of a path lead to.  There is none if they stay in
place or go up at last. -/
def fileName? (parts : List Text) : Option Text :=
  (leadingParts parts).getLast?.filter fun part => !staysInPlace part && part ≠ ['.', '.']

/-- The path of the output for the data file with a number.  What comes before the name
stays as it is written, and a path without a name is taken for that of a directory. -/
def indexedOutput (output : Text) (index : Nat) : Text :=
  let parts := Text.pieces '/' output
  let numbered (name : Text) : Text := decimal index ++ "_" ++ name
  match fileName? parts with
  | some name =>
    Text.join "/" (leadingParts (leadingParts parts).dropLast ++ [numbered name])
  | none =>
    let directory := if parts.getLast? = some [] then parts.dropLast else parts
    Text.join "/" (directory ++ [numbered []])

/-! ## Runs -/

/-- How a run ends. -/
structure Exit where
  /-- The exit code. -/
  code : Nat
  /-- What is printed. -/
  output : Text
  /-- The log. -/
  events : List Event
  /-- The last words. -/
  complaint : Option Text
deriving DecidableEq, Repr

variable {m : Type → Type} [Monad m]

/-- Makes the reports of data files that are numbered from `index`. -/
def produceEach {α : Type} (make : Text → Text → m (Logged Event (Except ReportError α)))
    (output : Text) : Nat → List Text → m (Logged Event (Except ReportError Unit))
  | _, [] => return ⟨.ok (), []⟩
  | index, data :: rest => do
    let report ← make data (indexedOutput output index)
    match report.result with
    | .error error => return ⟨.error error, report.notices⟩
    | .ok _ =>
      let later ← produceEach make output (index + 1) rest
      return ⟨later.result, report.notices ++ later.notices⟩

namespace Invocation

/-- The settings of an invocation. -/
def config [EncodingLibrary] (i : Invocation) : Except ReportError Config := do
  let c ← { Config.standard with defaultWidth := i.defaultWidth }.withPatternEncoding
    i.patternEncoding
  c.withDataEncoding i.dataEncoding

/-- Makes the reports of an invocation with given settings. -/
def produce (i : Invocation) (a : FileAccess m) (c : Config) :
    m (Logged Event (Except ReportError Unit)) :=
  match i.format with
  | .table => do
    let pattern ← a.readPattern c i.pattern
    match pattern.result with
    | .error error => return ⟨.error error, pattern.notices⟩
    | .ok p =>
      let reports ← produceEach (a.produceTable p c) i.output 1 i.data
      return ⟨reports.result, pattern.notices ++ reports.notices⟩
  | .text => do
    match ← a.readText c.patternEncoding i.pattern with
    | .error error => return ⟨.error error, []⟩
    | .ok pattern =>
      produceEach (a.produceText pattern Filling.uninflected c) i.output 1 i.data

/-- Carries out an invocation. -/
def run [EncodingLibrary] (i : Invocation) (a : FileAccess m) : m Exit := do
  match i.config with
  | .error error => return ⟨1, [], [], some error.message⟩
  | .ok c =>
    let reports ← i.produce a c
    match reports.result with
    | .error error => return ⟨1, [], reports.notices, some error.message⟩
    | .ok _ => return ⟨0, [], reports.notices, none⟩

end Invocation

end PlainReport.Command
