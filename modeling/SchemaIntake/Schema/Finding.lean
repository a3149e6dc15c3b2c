import SchemaIntake.Text.Basic

/-!
# Findings

What a check reports: an error or a warning with a stable code, a message for people, and
the table and column that it is about.

## Main definitions

* `Code` — the codes, `Code.name` as they are written and `Code.ofName?` read back.
* `Severity` — error or warning.
* `Finding` — one report of a check.

## Main results

* `Code.ofName?_eq_some_iff` — a code is read back from its name and from nothing else.
-/

namespace SchemaIntake

open Text

/-! ### Codes -/

/-- What a finding is about, in a form that other programs can rely on. -/
inductive Code
  | emptySqlContent
  | invalidJson
  | invalidSqlSyntax
  | invalidOptimizationType
  | noCreateTablesFound
  | invalidTableName
  | invalidColumnName
  | invalidDataType
  | invalidConstraintSyntax
  | duplicateColumn
  /-- Reserved: no check reports it. -/
  | fkInvalidReference
  /-- Reserved: no check reports it. -/
  | incompleteStatement
  /-- Raised for requests only. -/
  | internalServerError
  | noPrimaryKey
deriving DecidableEq, Repr

namespace Code

def all : List Code :=
  [emptySqlContent, invalidJson, invalidSqlSyntax, invalidOptimizationType,
    noCreateTablesFound, invalidTableName, invalidColumnName, invalidDataType,
    invalidConstraintSyntax, duplicateColumn, fkInvalidReference, incompleteStatement,
    internalServerError, noPrimaryKey]

/-- The name of a code as it is written. -/
def name : Code → Text
  | emptySqlContent => "EMPTY_SQL_CONTENT".toList
  | invalidJson => "INVALID_JSON".toList
  | invalidSqlSyntax => "INVALID_SQL_SYNTAX".toList
  | invalidOptimizationType => "INVALID_OPTIMIZATION_TYPE".toList
  | noCreateTablesFound => "NO_CREATE_TABLES_FOUND".toList
  | invalidTableName => "INVALID_TABLE_NAME".toList
  | invalidColumnName => "INVALID_COLUMN_NAME".toList
  | invalidDataType => "INVALID_DATA_TYPE".toList
  | invalidConstraintSyntax => "INVALID_CONSTRAINT_SYNTAX".toList
  | duplicateColumn => "DUPLICATE_COLUMN".toList
  | fkInvalidReference => "FK_INVALID_REFERENCE".toList
  | incompleteStatement => "INCOMPLETE_STATEMENT".toList
  | internalServerError => "INTERNAL_SERVER_ERROR".toList
  | noPrimaryKey => "NO_PRIMARY_KEY".toList

def isWarning (code : Code) : Bool := code = noPrimaryKey

def ofName? (name : Text) : Option Code := all.find? (·.name = name)

theorem ofName?_name (code : Code) : ofName? code.name = some code := by
  cases code <;> decide

/-- A code is read back from its name and from nothing else. -/
theorem ofName?_eq_some_iff {t : Text} {code : Code} : ofName? t = some code ↔ code.name = t := by
  constructor
  · intro h
    simpa using List.find?_some h
  · rintro rfl
    exact ofName?_name code

end Code

/-! ### Severity -/

/-- How grave a finding is. -/
inductive Severity
  | error | warning
deriving DecidableEq, Repr

/-- The name of a severity as it is written. -/
def Severity.name : Severity → Text
  | .error => "ERROR".toList
  | .warning => "WARNING".toList

def Severity.all : List Severity := [.error, .warning]

/-! ### Findings -/

/-- One report of a check. -/
structure Finding where
  /-- What it is about. -/
  code : Code
  /-- The same in words. -/
  message : Text
  severity : Severity
  /-- The table that it is about. -/
  table : Option Text
  /-- The column that it is about. -/
  column : Option Text
deriving DecidableEq, Repr

namespace Finding

/-- An error, not yet put down to a table. -/
def error (code : Code) (message : Text) : Finding := ⟨code, message, .error, none, none⟩

def errorIn (table : Text) (code : Code) (message : Text) : Finding :=
  ⟨code, message, .error, some table, none⟩

def warningIn (table : Text) (code : Code) (message : Text) : Finding :=
  ⟨code, message, .warning, some table, none⟩

/-- The finding put down to a column as well, if one is named. -/
def about (finding : Finding) (column : Option Text) : Finding := { finding with column := column }

end Finding

end SchemaIntake
