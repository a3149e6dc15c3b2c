import SchemaIntake.CommandLine.Config
import SchemaIntake.CommandLine.Arguments
import SchemaIntake.Ddl.DataType
import SchemaIntake.Schema.Check
import SchemaIntake.Schema.Wire

/-!
# Output

What the commands print, and with which status they end.  The lines of the log are no part of it,
such as the one about a code that cannot be disabled.

## Main definitions

* `Output` — the status and what is printed.
* `Failure` — why a command cannot be carried out.
* `Finding.lines`, `Report.humanLines`, `Report.jsonText` — a report for people and as JSON.
* `Table.lines` — a table with its columns.
* `Stop.output` — what is printed in place of a command.
-/

namespace SchemaIntake

open Text

/-! ### Outputs -/

/-- What a run of the program leaves behind. -/
structure Output where
  /-- The exit status: 0 if all is well, 1 if something has been found, 2 on failure. -/
  status : Nat
  /-- What has been printed to the standard output. -/
  out : Text
  /-- What has been printed to the standard error stream, but for the lines of the log. -/
  err : Text
deriving DecidableEq, Repr

/-- Why a command cannot be carried out. -/
inductive Failure
  /-- A file is missing, or does not hold a text. -/
  | unreadable (path : Text)
  /-- The configuration is not well formed. -/
  | malformedConfig (path : Text)
  | unknownFormat (e : UnknownOutputFormat)
  | unknownOptimization (e : UnknownOptimization)
  /-- Some pattern is not well formed. -/
  | malformedPattern
  /-- No files have been named to check. -/
  | noFilesNamed
  /-- The patterns select no files. -/
  | noFilesMatched
  /-- The record store has lost a record, or could not be changed. -/
  | lostConversion
deriving DecidableEq, Repr

namespace Failure

/-- A failure in words.  Where a library would find them, as for files and patterns, they stand for
its own. -/
def message : Failure → Text
  | unreadable path => "cannot read ".toList ++ path
  | malformedConfig path => "cannot understand ".toList ++ path
  | unknownFormat e => e.message
  | unknownOptimization e => e.message
  | malformedPattern => "malformed pattern".toList
  | noFilesNamed =>
    "No schema files specified. Use positional arguments or configure in ddlgate.toml".toList
  | noFilesMatched => "No schema files matched".toList
  | lostConversion => "the conversion disappeared".toList

/-- What is printed when a command fails after it has printed something. -/
def outputAfter (out err : Text) (failure : Failure) : Output :=
  ⟨2, out, err ++ unlines ["Error: ".toList ++ failure.message]⟩

/-- What is printed when a command fails at once. -/
def output (failure : Failure) : Output := failure.outputAfter [] []

end Failure

/-! ### Reports for people -/

/-- A text in a colour of the terminal. -/
def colored (colour : String) (t : String) : Text :=
  "\x1b[".toList ++ colour.toList ++ "m".toList ++ t.toList ++ "\x1b[0m".toList

namespace Finding

/-- The severity of a finding for people: errors in red, warnings in yellow. -/
def severityText (f : Finding) : Text :=
  match f.severity with
  | .error => colored "31" "error"
  | .warning => colored "33" "warning"

/-- The lines that show a finding in a file. -/
def lines (file : Text) (f : Finding) : List Text :=
  [f.severityText ++ '[' :: f.code.name ++ "]: ".toList ++ f.message,
    "  --> ".toList ++ file] ++
  (match f.table, f.column with
    | some table, some column => ["   = in: ".toList ++ table ++ '.' :: column]
    | some table, none => ["   = in: ".toList ++ table]
    | none, _ => []) ++ [[]]

end Finding

namespace Report

/-- All findings of a report, the errors first. -/
def findings (report : Report) : List Finding := report.errors ++ report.warnings

/-- The line that tells whether a file is valid: green or red. -/
def verdict (file : Text) (report : Report) : Text :=
  file ++ ": ".toList ++
    (if report.isValid then colored "32" "valid" else colored "31" "invalid") ++
    " (".toList ++ decimal report.tables.length ++ " table(s))".toList

def tableLine (table : Table) : Text :=
  "  - ".toList ++ table.name ++ " (".toList ++ decimal table.columns.length ++
    " column(s)".toList ++ (if table.hasPrimaryKey then ", primary key".toList else []) ++
    ")".toList

/-- The lines that show a report for people.  The tables are left out to be quiet. -/
def humanLines (quiet : Bool) (file : Text) (report : Report) : List Text :=
  report.findings.flatMap (Finding.lines file) ++
    if quiet then [] else verdict file report :: report.tables.map tableLine

/-! ### Reports as JSON -/

/-- A report on a file as JSON, with its members in alphabetical order. -/
def jsonText (file : Text) (optimization : Optimization) (report : Report) : Text :=
  (Json.record [("file".toList, .text file), ("optimizationType".toList, Wire.encode optimization),
    ("result".toList, Wire.encode report)]).sortKeys.render .indented

end Report

/-! ### Tables -/

namespace Table

/-- The line that shows a column: its type with the category, and whether its definition speaks
of a primary key. -/
def columnLine (c : Column) : Text :=
  "    - ".toList ++ c.name ++ ' ' :: c.dataType ++
    (match DataType.category? c.dataType with
      | some category => " [".toList ++ category.label ++ "]".toList
      | none => []) ++
    (if hasInfix "PRIMARY KEY".toList (upper c.raw) then " PK".toList else [])

def lines (table : Table) : List Text :=
  ("  Table: ".toList ++ table.name ++
    (if table.hasPrimaryKey then [] else " (no primary key)".toList)) ::
      table.columns.map columnLine

end Table

/-! ### In place of a command -/

/-- How the program is used, in short.  The text stands for the one that is made from the arguments
that there are. -/
def usage : Text :=
  unlines (["CREATE TABLE schema validator", "",
    "Usage: ddlgate [-v] [-q] COMMAND", "",
    "Commands:",
    "  check [-o TYPE] [-f human|json] [-c FILE] [--disable CODE] [--fail-on-warnings] [FILES]",
    "  tables FILES",
    "  convert [-o TYPE] FILE",
    "  parse FILE",
    "  help [COMMAND]"].map String.toList)

/-- What is printed in place of a command. -/
def Stop.output : Stop → Output
  | .misuse => ⟨2, [], usage⟩
  | .help => ⟨0, usage, []⟩
  | .version => ⟨0, unlines ["ddlgate 0.1.0".toList], []⟩

end SchemaIntake
