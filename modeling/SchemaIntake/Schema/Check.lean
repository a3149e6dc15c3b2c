import SchemaIntake.Ddl.ColumnDefinition
import SchemaIntake.Ddl.Statement
import SchemaIntake.Ddl.TableConstraint
import SchemaIntake.Schema.Report

/-!
# Checking a schema

Every statement of a schema text is checked on its own.  Nothing stops the check: a bad
element is reported and left out, and the rest of the table and the other statements are
checked all the same.

## Main definitions

* `Outcome` — what one or more statements contribute to the report.
* `TableDraft` — what the elements of a table have contributed so far.
* `checkStatement s` — the outcome of one statement.
* `checkSchema sql` — the report on a whole schema text.

## Main results

* `checkSchema_isValid` — a schema is valid exactly if nothing is reported as an error.
-/

namespace SchemaIntake

open Text

/-! ### Outcomes -/

/-- What one or more statements contribute to the report. -/
structure Outcome where
  tables : List Table
  errors : List Finding
  warnings : List Finding
deriving DecidableEq, Repr

namespace Outcome

def empty : Outcome := ⟨[], [], []⟩

/-- The contributions of the first outcome, then those of the second. -/
def append (a b : Outcome) : Outcome :=
  ⟨a.tables ++ b.tables, a.errors ++ b.errors, a.warnings ++ b.warnings⟩

/-- A statement that is rejected for one reason. -/
def rejected (finding : Finding) : Outcome := ⟨[], [finding], []⟩

/-- The outcomes of several statements in order. -/
def concat (outcomes : List Outcome) : Outcome := outcomes.foldl append empty

end Outcome

/-! ### Tables -/

/-- Whether an element mentions a primary key, its words one space apart. -/
def mentionsPrimaryKey (element : Text) : Bool := hasInfix "PRIMARY KEY".toList (upper element)

/-- What the elements of a table have contributed so far. -/
structure TableDraft where
  columns : List Column
  /-- The table constraints, the rejected ones included, in order. -/
  constraints : List Text
  /-- Whether a column or constraint mentions a primary key. -/
  hasPrimaryKey : Bool
  errors : List Finding
deriving DecidableEq, Repr

namespace TableDraft

/-- No element has been looked at. -/
def empty : TableDraft := ⟨[], [], false, []⟩

/-- The code that a column fault is reported under. -/
def faultCode : ColumnFault → Code
  | .incomplete => .invalidSqlSyntax
  | .unknownType _ _ => .invalidDataType
  | .invalidName _ => .invalidColumnName
  | .misplacedToken _ _ => .invalidColumnName

def faultMessage (table element : Text) : ColumnFault → Text
  | .incomplete =>
    "Incomplete column definition in table ".toList ++ quoted table ++ ": ".toList ++ element
  | .unknownType column type =>
    "Invalid data type ".toList ++ quoted type ++ " for column ".toList ++ quoted column ++
      " in table ".toList ++ quoted table
  | .invalidName column =>
    "Invalid column definition in table ".toList ++ quoted table ++ ": ".toList ++ element ++
      " (invalid column name ".toList ++ quoted column ++ ")".toList
  | .misplacedToken _ token =>
    "Invalid column definition in table ".toList ++ quoted table ++ ": ".toList ++ element ++
      " (unexpected token ".toList ++ quoted token ++ ")".toList

/-- The error for an element that defines no column. -/
def columnError (table element : Text) (fault : ColumnFault) : Finding :=
  (Finding.errorIn table (faultCode fault) (faultMessage table element fault)).about fault.column?

/-- The error for a column whose name, its case left aside, an earlier column has. -/
def duplicateError (table column : Text) : Finding :=
  (Finding.errorIn table .duplicateColumn
    ("Duplicate column ".toList ++ quoted column ++ " in table ".toList ++ quoted table)).about
      (some column)

def constraintError (table element : Text) (fault : ConstraintFault) : Finding :=
  Finding.errorIn table .invalidConstraintSyntax
    ("Invalid constraint in table ".toList ++ quoted table ++ ": ".toList ++ element ++
      " (".toList ++ fault.message ++ ")".toList)

def report (draft : TableDraft) (finding : Finding) : TableDraft :=
  { draft with errors := draft.errors ++ [finding] }

/-- Whether a column of this name has been accepted, its case left aside. -/
def hasColumn (draft : TableDraft) (name : Text) : Bool :=
  let key := lower name
  draft.columns.any fun column => lower column.name = key

/-- Adds a table constraint.  A rejected one is kept and counts as a mention all the same. -/
def addConstraint (table : Text) (draft : TableDraft) (element : Text) : TableDraft :=
  let draft := match TableConstraint.check element with
    | .ok _ => draft
    | .error fault => draft.report (constraintError table element fault)
  { draft with
    constraints := draft.constraints ++ [element]
    hasPrimaryKey := draft.hasPrimaryKey || mentionsPrimaryKey element }

/-- Adds a column, unless the element defines none or one that is there already. -/
def addColumn (table : Text) (draft : TableDraft) (element : Text) : TableDraft :=
  match ColumnDefinition.read element with
  | .error fault => draft.report (columnError table element fault)
  | .ok column =>
    if draft.hasColumn column.name then draft.report (duplicateError table column.name)
    else { draft with
      columns := draft.columns ++ [⟨column.name, column.type.baseName, element⟩]
      hasPrimaryKey := draft.hasPrimaryKey || mentionsPrimaryKey element }

def add (table : Text) (draft : TableDraft) (element : Text) : TableDraft :=
  if TableConstraint.isOne element then draft.addConstraint table element
  else draft.addColumn table element

/-- The outcome once all elements have been added.  A table without columns is an error and is
not reported as a table; one without a primary key is warned about. -/
def finish (table : Text) (draft : TableDraft) : Outcome :=
  if draft.columns.isEmpty then
    ⟨[], draft.errors ++ [Finding.errorIn table .invalidSqlSyntax
      ("Table ".toList ++ quoted table ++ " has no valid columns".toList)], []⟩
  else
    ⟨[⟨table, draft.columns, draft.constraints, draft.hasPrimaryKey⟩], draft.errors,
      if draft.hasPrimaryKey then []
      else [Finding.warningIn table .noPrimaryKey
        ("Table ".toList ++ quoted table ++ " has no PRIMARY KEY defined".toList)]⟩

end TableDraft

/-- The elements of a body that are checked: those that are not blank, without white space at
their ends. -/
def checkedElements (body : Text) : List Text :=
  ((elements body).map trim).filter (!·.isEmpty)

/-- The outcome of a table with a given name and body. -/
def checkTable (table body : Text) : Outcome :=
  ((checkedElements body).foldl (TableDraft.add table) .empty).finish table

/-! ### Statements and schemas -/

/-- The outcome of one statement.  Trailing text is reported rather than a bad name, and that
rather than an empty body. -/
def checkStatement (statement : Text) : Outcome :=
  if Statement.hasTrailingText statement then
    .rejected (.error .invalidSqlSyntax
      ("Unexpected characters after closing parenthesis in statement: ".toList ++
        trim statement))
  else
    let name := (Statement.tableName? statement).getD []
    if !Identifier.isValid name then
      .rejected {
        Finding.error .invalidTableName ("Invalid table name: ".toList ++ quoted name) with
        table := if name.isEmpty then none else some name }
    else if (Statement.body statement).isEmpty then
      .rejected (.errorIn name .invalidSqlSyntax
        ("Table ".toList ++ quoted name ++ " has empty body".toList))
    else checkTable name (Statement.body statement)

/-- The report on a schema text.  A blank one is told apart from one without statements. -/
def checkSchema (sql : Text) : Report :=
  if isAllBlank sql then
    .ofError (.error .emptySqlContent "Field sqlContent is required".toList)
  else if !Statement.occursIn sql then
    .ofError (.error .noCreateTablesFound "No CREATE TABLE statements found".toList)
  else
    let outcome := Outcome.concat ((Statement.all sql).map checkStatement)
    .ofFindings outcome.tables outcome.errors outcome.warnings

/-- A schema is valid exactly if nothing is reported as an error. -/
theorem checkSchema_isValid (sql : Text) :
    (checkSchema sql).isValid = (checkSchema sql).errors.isEmpty := by
  unfold checkSchema
  split
  · rfl
  · split <;> rfl

end SchemaIntake
