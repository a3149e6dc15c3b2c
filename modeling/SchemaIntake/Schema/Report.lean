import SchemaIntake.Schema.Finding

/-!
# Reports

What checking a schema text results in: the tables found, the errors and the warnings.

## Main definitions

* `Column`, `Table`, `Report`.
* `Report.ofFindings` — a report, valid exactly if it has no errors.
* `Report.table? name`, `Table.column? name` — looking up by name, the case of ASCII letters
  left aside.
* `Report.withoutWarnings codes` — a report without some of its warnings.
-/

namespace SchemaIntake

open Text

/-- A column of a table. -/
structure Column where
  /-- The name, without quotes. -/
  name : Text
  /-- The base name of the type. -/
  dataType : Text
  /-- The whole definition as written, without white space at its ends. -/
  raw : Text
deriving DecidableEq, Repr

/-- A table that a statement defines. -/
structure Table where
  /-- The name, without quotes and schema. -/
  name : Text
  columns : List Column
  /-- The table constraints as written, in order. -/
  constraints : List Text
  /-- Whether a primary key is mentioned. -/
  hasPrimaryKey : Bool
deriving DecidableEq, Repr

/-- What checking a schema text results in. -/
structure Report where
  isValid : Bool
  tables : List Table
  errors : List Finding
  warnings : List Finding
deriving DecidableEq, Repr

/-- The column of a table with a given name. -/
def Table.column? (table : Table) (name : Text) : Option Column :=
  table.columns.find? fun column => sameLetters column.name name

namespace Report

/-- A report on tables, errors and warnings; it is valid exactly if there are no errors. -/
def ofFindings (tables : List Table) (errors warnings : List Finding) : Report :=
  ⟨errors.isEmpty, tables, errors, warnings⟩

def ofError (finding : Finding) : Report := ofFindings [] [finding] []

/-- The first table with a given name. -/
def table? (report : Report) (name : Text) : Option Table :=
  report.tables.find? fun table => sameLetters table.name name

/-- The report without the warnings that have one of the given codes. -/
def withoutWarnings (codes : List Code) (report : Report) : Report :=
  { report with warnings := report.warnings.filter fun w => !codes.contains w.code }

end Report

end SchemaIntake
