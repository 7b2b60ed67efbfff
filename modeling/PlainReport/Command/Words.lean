import PlainReport.Command.Invocation
import PlainReport.Number.Integer

/-!
# Command lines

A command line is a list of words.  An option is a word that begins with a hyphen
and a letter, or with two hyphens and a name, and its value is in the same word
or in the next.  The option for data takes one or more values and may be
repeated, and any other is given once at most.

Words are read from left to right, and the first that is wrong decides.  Asking
for help or for the version ends the reading.
-/

namespace PlainReport.Command

/-- The options with a value. -/
inductive Setting where
  | pattern
  | data
  | dataEncoding
  | patternEncoding
  | inputFormat
  | defaultWidth
  | output
  | logLevel
deriving DecidableEq, Repr

namespace Setting

/-- The settings. -/
def all : List Setting :=
  [pattern, data, dataEncoding, patternEncoding, inputFormat, defaultWidth, output, logLevel]

/-- The name after two hyphens. -/
def longName : Setting → Text
  | pattern => "pattern"
  | data => "data"
  | dataEncoding => "data-encoding"
  | patternEncoding => "pattern-encoding"
  | inputFormat => "input-format"
  | defaultWidth => "default-field-width"
  | output => "output-filename"
  | logLevel => "log-level"

/-- The letter after one hyphen. -/
def letter? : Setting → Option Char
  | pattern => some 'p'
  | data => some 'd'
  | inputFormat => some 'i'
  | defaultWidth => some 'l'
  | output => some 'o'
  | _ => none

/-- Whether the setting takes many values and may be repeated. -/
def isList : Setting → Bool
  | data => true
  | _ => false

/-- What the setting is for. -/
def purpose : Setting → Text
  | pattern => "Pattern the data is substituted into"
  | data => "Data files; one report is generated for each"
  | dataEncoding => "Encoding of the data files (e.g. utf-8, cp1251)"
  | patternEncoding => "Encoding of the pattern file"
  | inputFormat => "Read data as a table or as text fields"
  | defaultWidth => "Width of fields that do not set one"
  | output => "Report file name; each report is prefixed with its 1-based index"
  | logLevel => "Log level"

/-- The line of the setting in the help text. -/
def helpLine (setting : Setting) : Text :=
  let letter : Text := match setting.letter? with
    | some letter => ['-', letter, ',']
    | none => []
  "  " ++ letter ++ " --" ++ setting.longName ++ ": " ++ setting.purpose ++ "\n"

end Setting

/-- The help text. -/
def helpText : Text :=
  "Generate fixed-width reports by substituting data into a pattern\n\n" ++
    "Usage: tabula [OPTIONS] --pattern <PATTERN> --data <DATA>... " ++
    "--input-format <INPUT_FORMAT>\n\nOptions:\n" ++ Setting.all.flatMap Setting.helpLine

/-- The version text. -/
def versionText : Text := "tabula 0.1.0\n"

/-- What is wrong with a command line. -/
inductive Misuse where
  /-- There is no such option. -/
  | unknownOption (word : Text)
  /-- A word is no value of any option. -/
  | unexpected (word : Text)
  /-- An option has no value. -/
  | noValue (setting : Setting)
  /-- An option that takes no value has one. -/
  | needlessValue (word : Text)
  /-- An option has a value that it cannot have. -/
  | invalid (setting : Setting) (value : Text)
  /-- An option is given twice. -/
  | repeated (setting : Setting)
  /-- A needed option is not given. -/
  | missing (setting : Setting)
deriving DecidableEq, Repr

/-- The message. -/
def Misuse.message : Misuse → Text
  | unknownOption word => "unknown option " ++ word
  | unexpected word => "unexpected argument " ++ word
  | noValue setting => "no value for --" ++ setting.longName
  | needlessValue word => "no value expected in " ++ word
  | invalid setting value => "invalid value \"" ++ value ++ "\" for --" ++ setting.longName
  | repeated setting => "--" ++ setting.longName ++ " is given twice"
  | missing setting => "--" ++ setting.longName ++ " is missing"

/-- The format that a text names. -/
def InputFormat.ofKeyword? (t : Text) : Option InputFormat :=
  if t = "table" then some table else if t = "text" then some text else none

/-- A width in 64 bits, with an optional plus sign. -/
def readWidth? (t : Text) : Option Nat :=
  (readDecimal? (match t with | '+' :: rest => rest | _ => t)).filter (· < wordLimit)

/-- Whether a setting may have a value. -/
def Setting.admits (setting : Setting) (value : Text) : Bool :=
  match setting with
  | pattern | data | output => !value.isEmpty
  | inputFormat => (InputFormat.ofKeyword? value).isSome
  | defaultWidth => (readWidth? value).isSome
  | dataEncoding | patternEncoding | logLevel => true

/-- A setting with the values given to it at one place. -/
structure Occurrence where
  /-- The setting. -/
  setting : Setting
  /-- Its values. -/
  values : List Text
deriving DecidableEq, Repr

/-- Why reading stops before the last word. -/
inductive Stop where
  | misuse (m : Misuse)
  | help
  | version
deriving DecidableEq, Repr

/-- What is read of a command line. -/
structure Reading where
  /-- The occurrences that are complete. -/
  done : List Occurrence
  /-- The occurrence that the next word may belong to. -/
  current : Option Occurrence
deriving DecidableEq, Repr

namespace Reading

/-- Completes an occurrence, if it is right. -/
def complete (done : List Occurrence) (o : Occurrence) : Except Stop (List Occurrence) :=
  if o.values.isEmpty then .error (.misuse (.noValue o.setting))
  else if !o.setting.isList && done.any (·.setting = o.setting) then
    .error (.misuse (.repeated o.setting))
  else match o.values.find? (!o.setting.admits ·) with
    | some value => .error (.misuse (.invalid o.setting value))
    | none => .ok (done ++ [o])

/-- Completes the current occurrence. -/
def settle (r : Reading) : Except Stop (List Occurrence) :=
  match r.current with
  | none => .ok r.done
  | some o => complete r.done o

/-- Begins an occurrence, with the value that is in the same word if there is one. -/
def start (r : Reading) (setting : Setting) (value : Option Text) : Except Stop Reading := do
  let done ← r.settle
  match value with
  | none => return ⟨done, some ⟨setting, []⟩⟩
  | some value => return ⟨← complete done ⟨setting, [value]⟩, none⟩

/-- Ends the reading. -/
def stopAt (r : Reading) (stop : Stop) : Except Stop Reading := do
  let _ ← r.settle
  throw stop

/-- Reads a word after two hyphens. -/
def long (r : Reading) (word : Text) : Except Stop Reading :=
  let (name, value) := Text.cut '=' word
  let question? : Option Stop :=
    if name = "help" then some .help else if name = "version" then some .version else none
  match question? with
  | some stop => if value.isSome then .error (.misuse (.needlessValue word)) else r.stopAt stop
  | none => match Setting.all.find? (·.longName = name) with
    | none => .error (.misuse (.unknownOption word))
    | some setting => r.start setting value

/-- The value that follows the letter of an option in its word. -/
def valueAfterLetter : Text → Option Text
  | [] => none
  | '=' :: rest => some rest
  | t => some t

/-- Reads a word after one hyphen. -/
def short (r : Reading) (letter : Char) (rest : Text) : Except Stop Reading :=
  if letter = 'h' then r.stopAt .help
  else if letter = 'V' then r.stopAt .version
  else match Setting.all.find? (·.letter? = some letter) with
    | none => .error (.misuse (.unknownOption [letter]))
    | some setting => r.start setting (valueAfterLetter rest)

/-- Reads a word without a hyphen. -/
def bare (r : Reading) (word : Text) : Except Stop Reading :=
  match r.current with
  | some o =>
    if o.values.isEmpty || o.setting.isList then .ok ⟨r.done, some ⟨o.setting, o.values ++ [word]⟩⟩
    else .error (.misuse (.unexpected word))
  | none => .error (.misuse (.unexpected word))

/-- Reads words.  After two hyphens alone no options and no values may come. -/
def words (r : Reading) : List Text → Except Stop Reading
  | [] => .ok r
  | word :: rest =>
    match word with
    | ['-', '-'] =>
      match rest with
      | [] => .ok r
      | next :: _ => .error (.misuse (.unexpected next))
    | '-' :: '-' :: name => do words (← r.long name) rest
    | '-' :: letter :: value => do words (← r.short letter value) rest
    | _ => do words (← r.bare word) rest

end Reading

namespace Invocation

/-- The values of a setting. -/
def valuesOf (done : List Occurrence) (setting : Setting) : List Text :=
  (done.filter (·.setting = setting)).flatMap (·.values)

/-- The value of a setting. -/
def value? (done : List Occurrence) (setting : Setting) : Option Text :=
  (valuesOf done setting).head?

/-- The value of a setting that must be given. -/
def required (done : List Occurrence) (setting : Setting) : Except Stop Text :=
  match value? done setting with
  | some value => .ok value
  | none => .error (.misuse (.missing setting))

/-- The width given on the command line, or else in the environment, or else the
standard one. -/
def widthOf (done : List Occurrence) (environment : Option Text) : Except Stop Nat :=
  match (value? done .defaultWidth).or environment with
  | none => .ok 20
  | some value =>
    match readWidth? value with
    | some width => .ok width
    | none => .error (.misuse (.invalid .defaultWidth value))

/-- The invocation of complete occurrences. -/
def ofOccurrences (done : List Occurrence) (environment : Option Text) :
    Except Stop Invocation := do
  let width ← widthOf done environment
  let pattern ← required done .pattern
  let _ ← required done .data
  let word ← required done .inputFormat
  match InputFormat.ofKeyword? word with
  | none => throw (.misuse (.invalid .inputFormat word))
  | some format =>
    return {
      pattern
      data := valuesOf done .data
      dataEncoding := (value? done .dataEncoding).getD "utf-8"
      patternEncoding := (value? done .patternEncoding).getD "utf-8"
      format
      defaultWidth := width
      output := (value? done .output).getD "generated_report.txt"
      logLevel := (value? done .logLevel).getD "info" }

/-- Reads a command line.  The environment may give a default width. -/
def ofWords (environment : Option Text) (words : List Text) : Except Stop Invocation := do
  ofOccurrences (← (← Reading.words ⟨[], none⟩ words).settle) environment

end Invocation

end PlainReport.Command
