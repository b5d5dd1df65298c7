import NativeStyle.Adapt.Sheet
import NativeStyle.CommandLine.Command
import NativeStyle.CommandLine.Directory
import NativeStyle.Text.ControlSequence

/-!
# Running a command

A command is run on what it can read: an environment, the standard input, and the files whose
paths it names. Its report says what is printed, which file is written, and how it ends. A file
that cannot be adapted is passed through as it is and does not disturb the others. What the program
says in its own words holds no control sequences; stylesheets and records keep theirs.

Main statement: `run_version` (the version needs nothing to be read).
-/

namespace NativeStyle.CommandLine

/-! ## Reports -/

/-- Why a run can break off. -/
inductive Crash where
  /-- An input is not UTF-8. -/
  | undecodable
  /-- An animation holds a time without a value. -/
  | unreadableTime
  /-- A path holds a NUL. -/
  | noPath
deriving DecidableEq, Repr

/-- What a run leaves behind. -/
structure Report where
  exitCode : Nat
  output : Text
  /-- The lines on the error output. -/
  errors : List Text
  crash : Option Crash
  /-- The path of the file that is to be written, and its text. -/
  written : Option (Text × Text)
deriving DecidableEq, Repr

namespace Report

/-- The report of a run that prints and ends. -/
def printing (exitCode : Nat) (output : Text) : Report :=
  ⟨exitCode, output, [], none, none⟩

/-- The report of a run that says something and ends. -/
def saying (exitCode : Nat) (lines : List Text) : Report :=
  .printing exitCode (Text.lines (lines.map Text.withoutControls))

/-- The report of a run that breaks off. -/
def crashed (errors : List Text) (crash : Crash) : Report :=
  ⟨1, [], errors, some crash, none⟩

/-- The report of a run that breaks off before its file is written. -/
def brokenOff (report : Report) (crash : Crash) : Report :=
  { report with exitCode := 1, crash := some crash, written := none }

/-- The report of a run whose output file cannot be opened. Quoting leaves no control sequence in
the path. -/
def notWritten (report : Report) (path reason : Text) : Report :=
  let line := "Error: Could not open file ".toList ++ Text.quoted path ++ ": ".toList ++ reason
  { report with exitCode := 1, errors := report.errors ++ [line], written := none }

end Report

/-! ## Log lines -/

/-- The line on the error output that shows a record. Without debugging only warnings and errors
show. -/
def recordLine? (debug : Bool) (record : Record) : Option Text :=
  match record.level, debug with
  | .debug, _ | .info, false => none
  | .info, true | .warning, true | .error, true => some ("[ns-tailwind] ".toList ++ record.message)
  | .warning, false | .error, false => some record.message

/-! ## Adapting files -/

/-- Something to be read: a file, or the standard input. -/
inductive Source where
  | standard
  | file (path : Text) (bytes : ByteArray)

/-- The name of a source in messages. -/
def Source.name : Source → Text
  | standard => "<stdin>".toList
  | file path _ => path

/-- The source of a path, if it can be opened. -/
def Source.ofPath (contents : Text → Except Obstacle ByteArray) (path : Text) :
    Except Obstacle Source :=
  if path = standardPath then .ok .standard else (contents path).map (.file path)

/-- The text of a source, and what is left of the standard input, which can be read but once. -/
def Source.read? (standardInput : ByteArray) : Source → Option (Text × ByteArray)
  | standard => (Text.ofUtf8? standardInput).map fun t => (Text.unifyNewlines t, .empty)
  | file _ bytes => (Text.ofUtf8? bytes).map fun t => (Text.unifyNewlines t, standardInput)

/-- The adapted text of a source with the lines about it. A text that cannot be adapted
stays. -/
def adaptSource (options : Options) (name css : Text) : List Text × Text :=
  let (records, adapted) := adapt? options css
  let lines (records : List Record) := records.filterMap (recordLine? options.debug)
  match adapted with
  | some text => (lines (records ++ [.transformed name]), text)
  | none =>
    let line := "Error transforming ".toList ++ name ++ "; passing it through unchanged".toList
    (lines records ++ [Text.withoutControls line], css)

/-- The adapted texts of the sources in order, with the lines about them. The first source that
cannot be decoded breaks off. -/
def adaptSources (options : Options) :
    (standardInput : ByteArray) → List Source → List Text × Except Crash (List Text)
  | _, [] => ([], .ok [])
  | standardInput, source :: sources =>
    match source.read? standardInput with
    | none => ([], .error .undecodable)
    | some (css, standardInput) =>
      let first := adaptSource options source.name css
      let others := adaptSources options standardInput sources
      (first.1 ++ others.1, others.2.map (first.2 :: ·))

/-- The report about adapted sources. Where nothing is left, nothing is written. -/
def transform (options : Options) (standardInput : ByteArray) (sources : List Source)
    (output : Text) : Report :=
  match adaptSources options standardInput sources with
  | (lines, .error crash) => .crashed lines crash
  | (lines, .ok texts) =>
    let joined := Text.join fragmentSeparator (texts.filter (· ≠ []))
    if joined = [] then ⟨0, [], lines, none, none⟩
    else if output = standardPath then ⟨0, joined ++ ['\n'], lines, none, none⟩
    else ⟨0, [], lines, none, some (output, joined ++ ['\n'])⟩

/-! ## Checking declarations -/

/-- Whether a property survives with some value: a custom property unless it only keeps books, or
a property of the engine. -/
def isKnown (property : Text) : Bool :=
  (("--".toList).isPrefixOf property && !Support.isBookkeeping property) ||
    Support.isSupported property none

/-- The report about one declaration, or about a property alone. -/
def check (property value : Text) : Report :=
  if value = [] then
    if isKnown property then .saying 0 ["supported: ".toList ++ property]
    else .saying 1 ["unsupported: ".toList ++ property]
  else
    match (Policy.verdict {} .standard ⟨property, value⟩).result with
    | .error (.unreadableTime _) => .crashed [] .unreadableTime
    | .ok .drop => .saying 1 ["dropped: ".toList ++ property ++ ": ".toList ++ value]
    | .ok verdict => .saying 0 verdict.lines

/-! ## Commands -/

/-- What the program says about its version. -/
def versionLine : Text := "ns-tailwind, version 0.1.0".toList

/-- The report of a command. An input file that cannot be opened leaves no report, but one whose
path is no path breaks the run off. -/
def Command.run? (environment : List (Text × Text)) (standardInput : ByteArray)
    (contents : Text → Except Obstacle ByteArray) : Command → Option Report
  | .version => some (.saying 0 [versionLine])
  | .check property value => some (CommandLine.check property value)
  | .transform files output debug =>
    let options := Options.ofEnvironment environment
    match (if files = [] then [standardPath] else files).mapM (Source.ofPath contents) with
    | .ok sources =>
      some (CommandLine.transform { options with debug := debug || options.debug } standardInput
        sources output)
    | .error .noPath => some (.crashed [] .noPath)
    | .error _ => none

/-- The version needs nothing to be read. -/
theorem Command.run_version (environment : List (Text × Text)) (standardInput : ByteArray)
    (contents : Text → Except Obstacle ByteArray) :
    Command.run? environment standardInput contents .version =
      some (.printing 0 (versionLine ++ ['\n'])) := by
  have hescape : ControlSequence.escape ∉ versionLine := by decide
  simp [Command.run?, Report.saying, Text.lines, Text.withoutControls_eq_self hescape]

/-! ## Runs in a directory -/

/-- The report of a run with these arguments in a directory, and the directory afterwards. There is
no report where the arguments are not proper. -/
def runIn (directory : Directory) (environment : List (Text × Text)) (standardInput : ByteArray)
    (arguments : List Text) : Option (Report × Directory) := do
  let command ← Command.ofArguments? arguments
  let report ← command.run? environment standardInput directory.read
  match report.written with
  | none => some (report, directory)
  | some (path, text) =>
    match directory.write path (Text.toUtf8 text) with
    | .ok directory => some (report, directory)
    | .error .noPath => some (report.brokenOff .noPath, directory)
    | .error obstacle => some (report.notWritten path obstacle.message, directory)

end NativeStyle.CommandLine
