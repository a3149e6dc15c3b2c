import SchemaIntake.CommandLine.Output
import SchemaIntake.Conversion.Session
import SchemaIntake.Files.Expansion

/-!
# Commands

The commands of the program, on any disk.  A command first asks the disk for everything it needs;
what it prints is a function of the answers.

The lines of the log are left out, so that `-v` makes no difference.  The parser of SQL that shows
statements is not part of the library: the command for it takes any.

## Main definitions

* `CheckPlan` — a configuration understood; `CheckPlan.report` and `CheckPlan.output` for what
  is found in the files.
* `tablesOutput`, `convertOutput`, `parseOutput` — what the other commands print.
* `SqlParser` — the parser that shows the nodes of statements; it is given from outside.
* `Command.run`, `runArguments` — a command, or a whole command line, carried out on a disk.

## Main results

* `untilUnreadable_eq_none_iff` — no file is left out exactly if all of them have a text.
-/

namespace SchemaIntake

open Text

/-! ### Files -/

/-- Files with their texts, as far as all before them have one, and the first that has none. -/
def untilUnreadable : List (Text × Option Text) → List (Text × Text) × Option Text
  | [] => ([], none)
  | (path, none) :: _ => ([], some path)
  | (path, some content) :: rest =>
    let r := untilUnreadable rest
    ((path, content) :: r.1, r.2)

/-- No file is left out exactly if all of them have a text. -/
theorem untilUnreadable_eq_none_iff {files : List (Text × Option Text)} :
    (untilUnreadable files).2 = none ↔
      files = (untilUnreadable files).1.map fun file => (file.1, some file.2) := by
  induction files with
  | nil => simp [untilUnreadable]
  | cons file rest ih =>
    obtain ⟨path, content⟩ := file
    cases content with
    | none => simp [untilUnreadable]
    | some content => simp [untilUnreadable, ih]

/-! ### Checking -/

/-- What the command `check` does with each file. -/
structure CheckPlan where
  format : OutputFormat
  /-- The optimization type noted in reports. -/
  optimization : Optimization
  /-- The codes of the warnings that are not reported. -/
  disabled : List Code
  failOnWarnings : Bool
  /-- Whether to print errors and warnings only. -/
  quiet : Bool
deriving DecidableEq, Repr

/-- What a configuration means. -/
def Config.plan (config : Config) (quiet : Bool) : Except Failure CheckPlan :=
  match config.outputFormat, config.optimizationType with
  | .error e, _ => .error (.unknownFormat e)
  | _, .error e => .error (.unknownOptimization e)
  | .ok format, .ok optimization =>
    .ok ⟨format, optimization, config.disabledWarnings, config.failOnWarnings, quiet⟩

namespace CheckPlan

def report (plan : CheckPlan) (content : Text) : Report :=
  (checkSchema content).withoutWarnings plan.disabled

/-- What a report adds to the standard output. -/
def out (plan : CheckPlan) (file : Text) (report : Report) : Text :=
  match plan.format with
  | .human => []
  | .json => unlines [report.jsonText file plan.optimization]

/-- What a report adds to the standard error stream. -/
def err (plan : CheckPlan) (file : Text) (report : Report) : Text :=
  match plan.format with
  | .human => unlines (report.humanLines plan.quiet file)
  | .json => []

/-- The number of findings of a severity in some reports. -/
def total (severity : Severity) (reports : List Report) : Nat :=
  (reports.flatMap Report.findings).countP (·.severity = severity)

/-- The lines that sum up the reports on all files. -/
def summary (reports : List Report) : List Text :=
  let errors := total .error reports
  let warnings := total .warning reports
  [[],
    if 0 < errors || 0 < warnings then
      "Found ".toList ++ decimal errors ++ " error(s), ".toList ++ decimal warnings ++
        " warning(s) in ".toList ++ decimal reports.length ++ " file(s)".toList
    else "All ".toList ++ decimal reports.length ++ " file(s) passed validation".toList]

/-- The exit status after reports on all files. -/
def status (plan : CheckPlan) (reports : List Report) : Nat :=
  if reports.any (!·.isValid) || (plan.failOnWarnings && 0 < total .warning reports) then 1 else 0

/-- What is printed about some files.  It ends at the first one that cannot be read. -/
def output (plan : CheckPlan) (files : List (Text × Option Text)) : Output :=
  let (readable, unreadable) := untilUnreadable files
  let reports := readable.map fun file => (file.1, plan.report file.2)
  let out := reports.flatMap fun r => plan.out r.1 r.2
  let err := reports.flatMap fun r => plan.err r.1 r.2
  match unreadable with
  | some path => (Failure.unreadable path).outputAfter out err
  | none =>
    let reports := reports.map (·.2)
    ⟨plan.status reports, out, err ++ if plan.quiet then [] else unlines (summary reports)⟩

end CheckPlan

/-! ### Listing tables -/

/-- The lines that show the tables of a file. -/
def tablesLines (file : Text) (report : Report) : List Text :=
  (file ++ ":".toList) ::
    if report.tables.isEmpty then ["  (no tables)".toList] else report.tables.flatMap Table.lines

/-- What the command `tables` prints about some files. -/
def tablesOutput (files : List (Text × Option Text)) : Output :=
  let (readable, unreadable) := untilUnreadable files
  let reports := readable.map fun file => (file.1, checkSchema file.2)
  let out := unlines (reports.flatMap fun r => tablesLines r.1 r.2)
  match unreadable with
  | some path => (Failure.unreadable path).outputAfter out []
  | none => ⟨if reports.any (!·.2.isValid) then 1 else 0, out, []⟩

/-! ### Converting -/

/-- The body of a request to convert a schema text. -/
def requestBody (content : Text) (optimization : Optimization) : Text :=
  (Json.record [("optimizationType".toList, Wire.encode optimization),
    ("sqlContent".toList, .text content)]).render .compact

/-- Works on a message, and gives it up if that fails. -/
def Session.workOrGiveUp (settings : Settings) (s : Session) (m : Message) :
    Except CallError Session :=
  match s.processMessage settings m with
  | (.ok _, s) => .ok s
  | (.error _, s) => s.deadLetter (Wire.toText .compact m)

/-- Takes all messages from the queue, the oldest first, and works on them. -/
def Session.drain (settings : Settings) (s : Session) : Except CallError Session :=
  s.queue.foldlM (Session.workOrGiveUp settings) { s with queue := [] }

/-- The record of a conversion that has been accepted, after all messages have been worked on. -/
def Session.finished? (settings : Settings) (s : Session) (r : Receipt) : Option Conversion :=
  match s.drain settings with
  | .error _ => none
  | .ok s =>
    match s.get r.conversionId with
    | .ok c => c
    | .error _ => none

/-- What the command `convert` prints about a schema text. -/
def convertOutput (settings : Settings) (content : Text) (optimization : Option Text) : Output :=
  match optimization.elim (.ok .balanced) Optimization.read with
  | .error e => (Failure.unknownOptimization e).output
  | .ok optimization =>
    match Session.start.submit settings (requestBody content optimization) with
    | (.error e, _) => ⟨1, unlines [Wire.toText .indented e.response], []⟩
    | (.ok receipt, s) =>
      match s.finished? settings receipt with
      | none => Failure.lostConversion.output
      | some c => ⟨0, unlines [Wire.toText .indented c], []⟩

/-! ### Showing statements -/

/-- A parser of SQL.  It shows the nodes that it finds in a statement, or says why it finds none. -/
abbrev SqlParser := Text → Except Text (List Text)

/-- In place of a parser: every statement is read, and nothing is shown of it. -/
def SqlParser.none : SqlParser := fun _ => .ok []

/-- What a parser shows of a statement, or its error. -/
def SqlParser.lines (parser : SqlParser) (statement : Text) : List Text :=
  match parser statement with
  | .ok nodes => nodes
  | .error e => ["Parse error: ".toList ++ e]

/-- The lines that show what is found in a statement, which is the one with a given number: by a
parser first, and then by the check. -/
def statementLines (parser : SqlParser) (number : Nat) (statement : Text) : List Text :=
  let report := checkSchema statement
  let name := (Statement.tableName? statement).getD "?".toList
  ["Statement ".toList ++ decimal number ++ " (table ".toList ++ name ++ "):".toList] ++
  parser.lines statement ++
  (report.tables.map fun table =>
    "Extracted: ".toList ++ table.name ++ " (".toList ++
      join ", ".toList (table.columns.map fun c => c.name ++ ' ' :: c.dataType) ++ ")".toList) ++
  (report.errors.map fun e =>
    "Extraction error [".toList ++ e.code.name ++ "]: ".toList ++ e.message) ++ [[]]

/-- What the command `parse` prints about a schema text.  The status tells whether the parser could
read all statements; what the check says of them does not count. -/
def parseOutput (parser : SqlParser) (content : Text) : Output :=
  match Statement.all content with
  | [] => ⟨1, [], unlines ["No CREATE TABLE statements found".toList]⟩
  | statements =>
    ⟨if statements.all fun statement => (parser statement).isOk then 0 else 1,
      unlines (statements.zipIdx.flatMap fun s => statementLines parser (s.2 + 1) s.1), []⟩

/-! ### Running -/

section Run

variable {m : Type → Type} [Monad m]

def Disk.readAll (disk : Disk m) (paths : List Text) : m (List (Text × Option Text)) :=
  paths.mapM fun path => return (path, ← disk.read? path)

/-- The name of the file that a configuration is looked for in. -/
def Config.fileName : Text := "ddlgate.toml".toList

/-- The path of the first configuration file in some directories. -/
def Disk.findConfig (disk : Disk m) : List Text → m (Option Text)
  | [] => return none
  | directory :: rest => do
    let path := Path.append directory Config.fileName
    if ← disk.exists? path then return some path else disk.findConfig rest

def Disk.readConfig (disk : Disk m) (path : Text) : m (Except Failure Config) := do
  match ← disk.read? path with
  | none => return .error (.unreadable path)
  | some t =>
    match Config.ofText? t with
    | none => return .error (.malformedConfig path)
    | some config => return .ok config

/-- The configuration in a given file, or else in the innermost directory that has one. -/
def Disk.loadConfig (disk : Disk m) : Option Text → m (Except Failure Config)
  | some path => disk.readConfig path
  | none => do
    match ← disk.findConfig (← disk.ancestors) with
    | some path => disk.readConfig path
    | none => return .ok .empty

def CheckOptions.run (disk : Disk m) (quiet : Bool) (options : CheckOptions) : m Output := do
  match ← disk.loadConfig options.config with
  | .error failure => return failure.output
  | .ok config =>
    let config := config.overriddenBy options.files options.format options.optimization
      options.disable options.failOnWarnings
    match config.plan quiet with
    | .error failure => return failure.output
    | .ok plan =>
      match ← disk.expand config.files with
      | none => return Failure.malformedPattern.output
      | some [] => return Failure.noFilesNamed.output
      | some paths => return plan.output (← disk.readAll paths)

/-- A command carried out on a disk.  The parser is for showing statements, and the settings are
those of conversions. -/
def Command.run (disk : Disk m) (parser : SqlParser) (settings : Settings) (quiet : Bool) :
    Command → m Output
  | .check options => options.run disk quiet
  | .tables files => do
    match ← disk.expand files with
    | none => return Failure.malformedPattern.output
    | some [] => return Failure.noFilesMatched.output
    | some paths => return tablesOutput (← disk.readAll paths)
  | .convert file optimization => do
    match ← disk.read? file with
    | none => return (Failure.unreadable file).output
    | some content => return convertOutput settings content optimization
  | .parse file => do
    match ← disk.read? file with
    | none => return (Failure.unreadable file).output
    | some content => return parseOutput parser content

/-- A command line carried out on a disk. -/
def runArguments (disk : Disk m) (parser : SqlParser) (settings : Settings)
    (arguments : List Text) : m Output :=
  match Request.ofArguments arguments with
  | .error stop => return stop.output
  | .ok request => request.command.run disk parser settings request.quiet

end Run

end SchemaIntake
