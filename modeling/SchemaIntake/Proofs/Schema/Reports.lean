import SchemaIntake.Proofs.Schema.Coverage
import SchemaIntake.Proofs.Schema.PrimaryKeys

/-!
# What every report is like

A report is put together by many hands: a text may be turned away as a whole, a statement before
its elements are looked at, and a table may be kept although some of its elements were rejected.
Whatever happens, no statement goes by without a trace: it has left one table, or at least one
error and no table.  The errors are of few kinds, and the warnings can be read off the tables.

## Main definitions

* `Code.notForSchemas` — the codes that no error of a report has.
* `Finding.IsSchemaError` — what the errors of a report have in common.
* `Finding.IsStatementError` — what the errors of a statement have in common.

## Main results

* `errors_checkSchema_cases` — what the errors of a report are about.
* `isSchemaError_of_mem_errors` — every error of a report is an error of a schema.
* `one_table_or_errors` — a statement leaves one table, or errors and no table.
* `report_of_any_text` — **what every report is like**.
-/

namespace SchemaIntake

open Text

/-! ### Errors -/

/-- The codes that no error of a report has: that of a warning, those that are raised for requests
only, and those that are reserved. -/
def Code.notForSchemas : List Code :=
  [noPrimaryKey, invalidJson, invalidOptimizationType, internalServerError, fkInvalidReference,
    incompleteStatement]

/-- The codes of the errors in statements. -/
def Code.ofStatements : List Code :=
  [invalidSqlSyntax, invalidTableName, invalidConstraintSyntax, invalidDataType,
    invalidColumnName, duplicateColumn]

/-- A finding as it is reported for a fault of a schema. -/
structure Finding.IsSchemaError (finding : Finding) : Prop where
  severity_eq : finding.severity = .error
  /-- Its code is one of those for schemas. -/
  code_not_mem : finding.code ∉ Code.notForSchemas

/-- A finding as it is reported for a fault of a statement. -/
structure Finding.IsStatementError (finding : Finding) : Prop where
  severity_eq : finding.severity = .error
  /-- Its code is one of those for statements. -/
  code_mem : finding.code ∈ Code.ofStatements

theorem Finding.IsStatementError.isSchemaError {finding : Finding} (h : finding.IsStatementError) :
    finding.IsSchemaError := by
  have hcodes : ∀ code ∈ Code.ofStatements, code ∉ Code.notForSchemas := by decide
  exact ⟨h.severity_eq, hcodes _ h.code_mem⟩

/-- What is reported for an element is an error, whatever becomes of the element. -/
theorem Verdict.isStatementError_of_finding? {table element : Text} {verdict : Verdict}
    {finding : Finding} (h : verdict.finding? table element = some finding) :
    finding.IsStatementError := by
  refine ⟨(Verdict.table_of_finding? h).2, ?_⟩
  cases verdict with
  | constraint fault? =>
    obtain ⟨fault, -, rfl⟩ := Option.map_eq_some_iff.mp h
    exact (by decide : Code.invalidConstraintSyntax ∈ Code.ofStatements)
  | rejected fault =>
    have hcode : TableDraft.faultCode fault ∈ Code.ofStatements := by
      cases fault <;> simp [TableDraft.faultCode, Code.ofStatements]
    obtain rfl := Option.some.inj h
    exact hcode
  | repeated column =>
    obtain rfl := Option.some.inj h
    exact (by decide : Code.duplicateColumn ∈ Code.ofStatements)
  | accepted column => exact absurd h (by simp [finding?])

theorem isStatementError_of_mem_elementFindings {table : Text} {elements : List Text}
    {finding : Finding} (h : finding ∈ elementFindings table elements) :
    finding.IsStatementError := by
  obtain ⟨entry, -, hentry⟩ := List.mem_filterMap.mp h
  exact Verdict.isStatementError_of_finding? hentry

theorem isStatementError_of_mem_errors_checkTable {name body : Text} {finding : Finding}
    (h : finding ∈ (checkTable name body).errors) : finding.IsStatementError := by
  rw [checkTable_eq] at h
  split at h
  · rcases List.mem_append.mp h with h | h
    · exact isStatementError_of_mem_elementFindings h
    · obtain rfl := List.mem_singleton.mp h
      exact ⟨rfl, (by decide : Code.invalidSqlSyntax ∈ Code.ofStatements)⟩
  · exact isStatementError_of_mem_elementFindings h

theorem isStatementError_of_mem_errors_checkStatement {s : Text} {finding : Finding}
    (h : finding ∈ (checkStatement s).errors) : finding.IsStatementError := by
  have hsyntax : Code.invalidSqlSyntax ∈ Code.ofStatements := by decide
  have hname : Code.invalidTableName ∈ Code.ofStatements := by decide
  unfold checkStatement at h
  split at h
  · obtain rfl := List.mem_singleton.mp h
    exact ⟨rfl, hsyntax⟩
  · dsimp only at h
    split at h
    · obtain rfl := List.mem_singleton.mp h
      exact ⟨rfl, hname⟩
    · split at h
      · obtain rfl := List.mem_singleton.mp h
        exact ⟨rfl, hsyntax⟩
      · exact isStatementError_of_mem_errors_checkTable h

/-- **The errors of a report** are those of its statements, unless there is none; then one error
says whether the text is blank. -/
theorem errors_checkSchema_cases (sql : Text) :
    (checkSchema sql).errors = [.error .emptySqlContent "Field sqlContent is required".toList] ∧
        isAllBlank sql = true ∨
      (checkSchema sql).errors =
          [.error .noCreateTablesFound "No CREATE TABLE statements found".toList] ∧
        isAllBlank sql = false ∨
      (∀ finding ∈ (checkSchema sql).errors, finding.IsStatementError) ∧
        isAllBlank sql = false := by
  cases hblank : isAllBlank sql with
  | true =>
    rw [checkSchema, if_pos hblank]
    exact Or.inl ⟨rfl, rfl⟩
  | false =>
    refine Or.inr ?_
    -- a text without statements has an error of its own, all other errors come from statements
    by_cases hnone : Statement.all sql = []
    · rw [checkSchema, if_neg (by simp [hblank]), if_pos (by simp [Statement.occursIn, hnone])]
      exact Or.inl ⟨rfl, rfl⟩
    · rw [checkSchema_of_statements hnone]
      refine Or.inr ⟨fun finding hfinding => ?_, rfl⟩
      obtain ⟨s, -, hs⟩ := List.mem_flatMap.mp hfinding
      exact isStatementError_of_mem_errors_checkStatement hs

/-- **Every error of a report is an error of a schema**, also where the text has no statement. -/
theorem isSchemaError_of_mem_errors {sql : Text} {finding : Finding}
    (h : finding ∈ (checkSchema sql).errors) : finding.IsSchemaError := by
  rcases errors_checkSchema_cases sql with ⟨herrors, -⟩ | ⟨herrors, -⟩ | ⟨herrors, -⟩
  · rw [herrors] at h
    obtain rfl := List.mem_singleton.mp h
    exact ⟨rfl, (by decide : Code.emptySqlContent ∉ Code.notForSchemas)⟩
  · rw [herrors] at h
    obtain rfl := List.mem_singleton.mp h
    exact ⟨rfl, (by decide : Code.noCreateTablesFound ∉ Code.notForSchemas)⟩
  · exact (herrors finding h).isSchemaError

/-- **A statement leaves one table, or at least one error and no table.** -/
theorem one_table_or_errors (s : Text) : (∃ table, (checkStatement s).tables = [table]) ∨
    (checkStatement s).tables = [] ∧ (checkStatement s).errors ≠ [] := by
  rcases isAdmitted_or_rejected s with ⟨name, hname⟩ | ⟨finding, hfinding⟩
  · rw [checkStatement_of_isAdmitted hname, checkTable_eq]
    split
    · exact Or.inr ⟨rfl, by simp⟩
    · exact Or.inl ⟨_, rfl⟩
  · rw [hfinding]
    exact Or.inr ⟨rfl, List.cons_ne_nil finding []⟩

/-- The tables of a report are those that its statements leave, in order. -/
theorem tables_checkSchema (sql : Text) : (checkSchema sql).tables =
    (Statement.all sql).flatMap fun s => (checkStatement s).tables := by
  by_cases hnone : Statement.all sql = []
  · rw [(checkSchema_of_all_eq_nil hnone).1, hnone, List.flatMap_nil]
  · rw [checkSchema_of_statements hnone]
    rfl

/-- The errors that a statement leaves are errors of the report. -/
theorem errors_subset_of_mem_all {sql s : Text} (h : s ∈ Statement.all sql) :
    (checkStatement s).errors ⊆ (checkSchema sql).errors := by
  rw [checkSchema_of_statements (List.ne_nil_of_mem h)]
  intro finding hfinding
  exact List.mem_flatMap.mpr ⟨s, h, hfinding⟩

/-- A text without statements has no valid report. -/
theorem all_ne_nil_of_isValid {sql : Text} (h : (checkSchema sql).isValid = true) :
    Statement.all sql ≠ [] := by
  intro hnone
  unfold checkSchema at h
  split at h
  · exact absurd h (by simp [Report.ofError, Report.ofFindings])
  · rw [if_pos (by simp [Statement.occursIn, hnone])] at h
    exact absurd h (by simp [Report.ofError, Report.ofFindings])

/-- The flag of a table of a report says whether the words stand in a column or a constraint. -/
theorem hasPrimaryKey_iff {sql : Text} {table : Table} (h : table ∈ (checkSchema sql).tables) :
    table.hasPrimaryKey = true ↔
      (∃ column ∈ table.columns, SpellsKey column.raw) ∨ ∃ t ∈ table.constraints, SpellsKey t := by
  rw [(spec_of_mem_tables h).1]
  constructor
  · rintro ⟨t, ht, hspells⟩
    rcases List.mem_append.mp ht with ht | ht
    · obtain ⟨column, hcolumn, rfl⟩ := List.mem_map.mp ht
      exact Or.inl ⟨column, hcolumn, hspells⟩
    · exact Or.inr ⟨t, ht, hspells⟩
  · rintro (⟨column, hcolumn, hspells⟩ | ⟨t, ht, hspells⟩)
    · exact ⟨column.raw, List.mem_append_left _ (List.mem_map_of_mem hcolumn), hspells⟩
    · exact ⟨t, List.mem_append_right _ ht, hspells⟩

/-- **What every report is like.**  It is valid exactly if it has no errors, and its errors are
errors of schemas.  There is one warning for each table without a primary key, in the order of the
tables, each with the code and the severity for this and the name of the table; and the flag of a
table says whether the words stand in a text that the table keeps.  Each statement contributes one
table, or none and at least one error, which the report then has; so a valid report has one table
for each statement, and at least one. -/
theorem report_of_any_text (sql : Text) :
    let report := checkSchema sql
    let statements := Statement.all sql
    (report.isValid = true ↔ report.errors = []) ∧
    (∀ finding ∈ report.errors,
      finding.severity = .error ∧ finding.code ∉ Code.notForSchemas) ∧
    (report.warnings = (report.tables.filter (!·.hasPrimaryKey)).map
      fun table => noPrimaryKeyFinding table.name) ∧
    ((report.warnings.map fun finding => (finding.code, finding.severity, finding.table)) =
      (report.tables.filter (!·.hasPrimaryKey)).map
        fun table => (.noPrimaryKey, .warning, some table.name)) ∧
    (∀ table ∈ report.tables, table.hasPrimaryKey = true ↔
      (∃ column ∈ table.columns, SpellsKey column.raw) ∨ ∃ t ∈ table.constraints, SpellsKey t) ∧
    (report.tables = statements.flatMap fun s => (checkStatement s).tables) ∧
    (∀ s ∈ statements, (checkStatement s).errors ⊆ report.errors ∧
      ((∃ table, (checkStatement s).tables = [table]) ∨
        (checkStatement s).tables = [] ∧ (checkStatement s).errors ≠ [])) ∧
    (report.isValid = true →
      report.tables.length = statements.length ∧ 1 ≤ report.tables.length) := by
  intro report statements
  have hvalid : report.isValid = true ↔ report.errors = [] := by
    rw [checkSchema_isValid, List.isEmpty_iff]
  have hwarnings := warnings_checkSchema sql
  refine ⟨hvalid, ?_, hwarnings, ?_, fun table => hasPrimaryKey_iff, tables_checkSchema sql, ?_, ?_⟩
  · intro finding hfinding
    obtain ⟨hseverity, hcode⟩ := isSchemaError_of_mem_errors hfinding
    exact ⟨hseverity, hcode⟩
  · rw [hwarnings, List.map_map]
    rfl
  · intro s hs
    exact ⟨errors_subset_of_mem_all hs, one_table_or_errors s⟩
  · intro h
    have hlength := (forall₂_tables_of_isValid h).length_eq.symm
    refine ⟨hlength, ?_⟩
    rw [hlength]
    exact List.length_pos_iff.mpr (all_ne_nil_of_isValid h)

/-- A report on three statements: a table that mentions a key in a rejected column only, one that
mentions it in a constraint that is rejected and kept, and a statement without a name. -/
theorem report_of_three_statements :
    let sql := "CREATE TABLE a (x INT, ".toList ++ "y FOO PRIMARY KEY);".toList ++
      "CREATE TABLE b (x INT, ".toList ++ "CONSTRAINT 1 PRIMARY KEY);".toList ++
      "CREATE TABLE (x INT);".toList
    let report := checkSchema sql
    report.warnings = [noPrimaryKeyFinding ['a']] ∧
      (report.warnings.map fun finding => (finding.code, finding.severity, finding.table)) =
        [(.noPrimaryKey, .warning, some ['a'])] ∧
      (report.errors.map fun finding => (finding.code, finding.severity)) =
        [(.invalidDataType, .error), (.invalidConstraintSyntax, .error),
          (.invalidTableName, .error)] ∧
      (∀ finding ∈ report.errors, finding.code ∉ Code.notForSchemas) ∧
      report.tables.length = 2 ∧ (Statement.all sql).length = 3 := by
  intro sql report
  obtain ⟨-, herrors, hwarnings, hshown, -, -, -, -⟩ := report_of_any_text sql
  refine ⟨?_, ?_, by decide +kernel, fun finding hfinding => (herrors finding hfinding).2,
    by decide +kernel, by decide +kernel⟩
  · rw [hwarnings]
    decide +kernel
  · rw [hshown]
    decide +kernel

end SchemaIntake
