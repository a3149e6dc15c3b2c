import SchemaIntake.Proofs.Ddl.LetterCase
import SchemaIntake.Proofs.Schema.Verdicts

/-!
# Checking a schema without regard to letter case

The case of ASCII letters decides nothing.  It is put aside in a text and in what is reported on
it, and the two go together at every stage: for an element and its verdict, for a table, for a
statement, and for the whole schema.  So the reports on two spellings of a schema differ in the
spelling of what they quote and in nothing else.

## Main definitions

* `Column.uncased`, `Table.uncased`, `Finding.uncased`, `Report.uncased` — what is reported, with
  the case of the letters that it quotes put aside.

## Main results

* `Verdict.of_uncased` — the verdict on an element.
* `checkSchema_uncased` — the report on a schema in lower case.
* `uncased_checkSchema_eq` — **two spellings of a schema have the same report** up to letter case.
-/

namespace SchemaIntake

open Text

/-! ### Verdicts -/

theorem TableConstraint.fault?_uncased (element : Text) :
    fault? (uncased element) = (fault? element).map ConstraintFault.uncased := by
  rw [fault?, check_uncased, fault?]
  cases check element <;> rfl

theorem definedColumn?_uncased (element : Text) :
    definedColumn? (uncased element) = (definedColumn? element).map ColumnDefinition.uncased := by
  rw [definedColumn?, TableConstraint.isOne_uncased, ColumnDefinition.read_uncased, definedColumn?]
  split
  · rfl
  · cases ColumnDefinition.read element <;> rfl

/-- Names are compared in lower case. -/
theorem isTaken_uncased (earlier : List Text) (name : Text) :
    isTaken (earlier.map uncased) (uncased name) = isTaken earlier name := by
  have hname (column : ColumnDefinition) : lower column.uncased.name = lower column.name :=
    lower_uncased column.name
  rw [isTaken, List.any_map, isTaken]
  congr 1
  funext element
  simp only [Function.comp_apply, definedColumn?_uncased, Option.any_map, hname, lower_uncased]

namespace Verdict

/-- A verdict with the case of letters put aside. -/
def uncased : Verdict → Verdict
  | constraint fault? => .constraint (fault?.map ConstraintFault.uncased)
  | rejected fault => .rejected fault.uncased
  | repeated column => .repeated column.uncased
  | accepted column => .accepted column.uncased

/-- **The verdict on an element** does not depend on the case of letters, here or in the elements
before it. -/
theorem of_uncased (earlier : List Text) (element : Text) :
    Verdict.of (earlier.map Text.uncased) (Text.uncased element) =
      (Verdict.of earlier element).uncased := by
  cases hone : TableConstraint.isOne element with
  | true =>
    have hone' := (TableConstraint.isOne_uncased element).trans hone
    rw [of_constraint _ hone', of_constraint _ hone, TableConstraint.fault?_uncased, uncased]
  | false =>
    have hone' := (TableConstraint.isOne_uncased element).trans hone
    have hread' := ColumnDefinition.read_uncased element
    cases hread : ColumnDefinition.read element with
    | error fault =>
      rw [hread] at hread'
      rw [of_rejected _ hone' hread', of_rejected _ hone hread, uncased]
    | ok column =>
      rw [hread] at hread'
      -- whether a name is taken is asked up to the case of letters anyway
      have htaken : isTaken (earlier.map Text.uncased) column.uncased.name =
          isTaken earlier column.name := isTaken_uncased earlier column.name
      rw [of_ok _ hone' hread', of_ok _ hone hread, htaken]
      split <;> rfl

end Verdict

theorem verdictsAfter_uncased (earlier elements : List Text) :
    verdictsAfter (earlier.map uncased) (elements.map uncased) =
      (verdictsAfter earlier elements).map fun entry => (uncased entry.1, entry.2.uncased) := by
  induction elements generalizing earlier with
  | nil => rfl
  | cons element elements ih =>
    have hrest := ih (earlier ++ [element])
    rw [List.map_append] at hrest
    rw [List.map_cons, verdictsAfter, Verdict.of_uncased, verdictsAfter, List.map_cons, ← hrest]
    rfl

theorem verdicts_uncased (elements : List Text) : verdicts (elements.map uncased) =
    (verdicts elements).map fun entry => (uncased entry.1, entry.2.uncased) :=
  verdictsAfter_uncased [] elements

/-! ### Columns and findings -/

/-- A column with the case of what is written put aside.  The base name of its type is not what is
written, and stays. -/
def Column.uncased (column : Column) : Column :=
  { column with name := Text.uncased column.name, raw := Text.uncased column.raw }

/-- A finding with the case of letters put aside: its code and its severity stay. -/
def Finding.uncased (finding : Finding) : Finding :=
  { finding with
    message := Text.uncased finding.message
    table := finding.table.map Text.uncased
    column := finding.column.map Text.uncased }

theorem Verdict.column?_uncased (element : Text) (verdict : Verdict) :
    verdict.uncased.column? (Text.uncased element) =
      (verdict.column? element).map Column.uncased := by
  cases verdict with
  | accepted column =>
    have hbase : column.uncased.type.baseName = column.type.baseName :=
      column.type.baseName_uncased
    rw [uncased, column?, hbase]
    rfl
  | _ => rfl

theorem ConstraintFault.message_uncased (fault : ConstraintFault) :
    Text.uncased fault.uncased.message = Text.uncased fault.message := by
  cases fault with
  | missingBody => rfl
  | invalidName name => exact uncased_append_congr rfl (uncased_quoted_uncased name)
  | unknownKind => rfl

/-- Findings are compared part by part, and the texts among the parts by their letters. -/
theorem Finding.uncased_congr {a b : Finding} (hcode : a.code = b.code)
    (hmessage : Text.uncased a.message = Text.uncased b.message)
    (hseverity : a.severity = b.severity)
    (htable : a.table.map Text.uncased = b.table.map Text.uncased)
    (hcolumn : a.column.map Text.uncased = b.column.map Text.uncased) : a.uncased = b.uncased := by
  rw [Finding.uncased, hcode, hmessage, hseverity, htable, hcolumn, Finding.uncased]

namespace TableDraft

variable (table element : Text)

/-- The words that come before the name of a table, the name, and those that come after it. -/
theorem uncased_around_quoted (before after : Text) :
    Text.uncased (before ++ quoted (Text.uncased table) ++ after) =
      Text.uncased (before ++ quoted table ++ after) :=
  uncased_append_congr (uncased_append_congr rfl (uncased_quoted_uncased table)) rfl

/-- Most messages begin with some words, the table and the element. -/
theorem uncased_at_element (before : Text) :
    Text.uncased (before ++ quoted (Text.uncased table) ++ ": ".toList ++ Text.uncased element) =
      Text.uncased (before ++ quoted table ++ ": ".toList ++ element) :=
  uncased_append_congr (uncased_around_quoted table before _) (uncased_uncased element)

theorem constraintError_uncased (fault : ConstraintFault) :
    (constraintError (Text.uncased table) (Text.uncased element) fault.uncased).uncased =
      (constraintError table element fault).uncased := by
  refine Finding.uncased_congr rfl ?_ rfl (congrArg some (uncased_uncased table)) rfl
  exact uncased_append_congr (uncased_append_congr (uncased_append_congr
    (uncased_at_element table element _) rfl) fault.message_uncased) rfl

theorem duplicateError_uncased (column : Text) :
    (duplicateError (Text.uncased table) (Text.uncased column)).uncased =
      (duplicateError table column).uncased := by
  refine Finding.uncased_congr rfl ?_ rfl (congrArg some (uncased_uncased table))
    (congrArg some (uncased_uncased column))
  exact uncased_append_congr (uncased_around_quoted column _ _) (uncased_quoted_uncased table)

theorem faultMessage_uncased (fault : ColumnFault) :
    Text.uncased (faultMessage (Text.uncased table) (Text.uncased element) fault.uncased) =
      Text.uncased (faultMessage table element fault) := by
  have hstart := uncased_at_element table element
  cases fault with
  | incomplete => exact hstart _
  | unknownType column type =>
    have hcolumn := uncased_append_congr
      (uncased_around_quoted type "Invalid data type ".toList " for column ".toList)
      (uncased_quoted_uncased column)
    exact uncased_append_congr (uncased_append_congr hcolumn rfl) (uncased_quoted_uncased table)
  | invalidName column =>
    exact uncased_append_congr (uncased_append_congr (uncased_append_congr (hstart _) rfl)
      (uncased_quoted_uncased column)) rfl
  | misplacedToken column token =>
    exact uncased_append_congr (uncased_append_congr (uncased_append_congr (hstart _) rfl)
      (uncased_quoted_uncased token)) rfl

theorem columnError_uncased (fault : ColumnFault) :
    (columnError (Text.uncased table) (Text.uncased element) fault.uncased).uncased =
      (columnError table element fault).uncased := by
  refine Finding.uncased_congr ?_ (faultMessage_uncased table element fault) rfl
    (congrArg some (uncased_uncased table)) ?_
  · cases fault <;> rfl
  · cases fault with
    | incomplete => rfl
    | _ => exact congrArg some (uncased_uncased _)

end TableDraft

/-- **What is said of an element** is said of it in any spelling. -/
theorem Verdict.finding?_uncased (table element : Text) (verdict : Verdict) :
    (verdict.uncased.finding? (Text.uncased table) (Text.uncased element)).map Finding.uncased =
      (verdict.finding? table element).map Finding.uncased := by
  cases verdict with
  | constraint fault? =>
    cases fault? with
    | none => rfl
    | some fault => exact congrArg some (TableDraft.constraintError_uncased table element fault)
  | rejected fault => exact congrArg some (TableDraft.columnError_uncased table element fault)
  | repeated column => exact congrArg some (TableDraft.duplicateError_uncased table column.name)
  | accepted column => rfl

theorem tableColumns_uncased (elements : List Text) :
    tableColumns (elements.map uncased) = (tableColumns elements).map Column.uncased := by
  rw [tableColumns, verdicts_uncased, List.filterMap_map, tableColumns, List.map_filterMap]
  congr 1
  funext entry
  exact Verdict.column?_uncased entry.1 entry.2

theorem elementFindings_uncased (table : Text) (elements : List Text) :
    (elementFindings (uncased table) (elements.map uncased)).map Finding.uncased =
      (elementFindings table elements).map Finding.uncased := by
  rw [elementFindings, verdicts_uncased, List.filterMap_map, List.map_filterMap, elementFindings,
    List.map_filterMap]
  congr 1
  funext entry
  exact Verdict.finding?_uncased table entry.1 entry.2

theorem filter_isOne_uncased (elements : List Text) :
    (elements.map uncased).filter TableConstraint.isOne =
      (elements.filter TableConstraint.isOne).map uncased := by
  rw [List.filter_map]
  congr 2
  funext element
  exact TableConstraint.isOne_uncased element

/-- A primary key is looked for in upper case. -/
theorem mentionsPrimaryKey_uncased (element : Text) :
    mentionsPrimaryKey (uncased element) = mentionsPrimaryKey element := by
  rw [mentionsPrimaryKey, upper_uncased, mentionsPrimaryKey]

theorem keepsMention_uncased (elements : List Text) :
    keepsMention (elements.map uncased) = keepsMention elements := by
  have hraw (column : Column) :
      mentionsPrimaryKey column.uncased.raw = mentionsPrimaryKey column.raw :=
    mentionsPrimaryKey_uncased column.raw
  rw [keepsMention, tableColumns_uncased, filter_isOne_uncased, List.any_map, List.any_map,
    keepsMention]
  simp only [Function.comp_def, hraw, mentionsPrimaryKey_uncased]

/-! ### Outcomes -/

/-- A table with the case of what is written put aside. -/
def Table.uncased (table : Table) : Table where
  name := Text.uncased table.name
  columns := table.columns.map Column.uncased
  constraints := table.constraints.map Text.uncased
  hasPrimaryKey := table.hasPrimaryKey

/-- An outcome with the case of letters put aside. -/
def Outcome.uncased (outcome : Outcome) : Outcome where
  tables := outcome.tables.map Table.uncased
  errors := outcome.errors.map Finding.uncased
  warnings := outcome.warnings.map Finding.uncased

theorem checkedElements_uncased (body : Text) :
    checkedElements (uncased body) = (checkedElements body).map uncased := by
  have htrim : ((elements body).map uncased).map trim = ((elements body).map trim).map uncased := by
    rw [List.map_map, List.map_map]
    exact List.map_congr_left fun element _ => trim_uncased element
  rw [checkedElements, elements_uncased, htrim, filter_map_uncased, checkedElements]

theorem noColumnsFinding_uncased (table : Text) :
    (noColumnsFinding (uncased table)).uncased = (noColumnsFinding table).uncased :=
  Finding.uncased_congr rfl (TableDraft.uncased_around_quoted table _ _) rfl
    (congrArg some (uncased_uncased table)) rfl

theorem noPrimaryKeyFinding_uncased (table : Text) :
    (noPrimaryKeyFinding (uncased table)).uncased = (noPrimaryKeyFinding table).uncased :=
  Finding.uncased_congr rfl (TableDraft.uncased_around_quoted table _ _) rfl
    (congrArg some (uncased_uncased table)) rfl

theorem Column.uncased_uncased (column : Column) : column.uncased.uncased = column.uncased := by
  simp only [uncased, Text.uncased_uncased]

theorem Table.uncased_of_uncased (name : Text) (columns : List Column) (constraints : List Text)
    (hasPrimaryKey : Bool) : Table.uncased ⟨Text.uncased name, columns.map Column.uncased,
      constraints.map Text.uncased, hasPrimaryKey⟩ =
      Table.uncased ⟨name, columns, constraints, hasPrimaryKey⟩ := by
  have hcolumn : Column.uncased ∘ Column.uncased = Column.uncased := funext Column.uncased_uncased
  have htext : Text.uncased ∘ Text.uncased = Text.uncased := funext Text.uncased_uncased
  rw [uncased, Text.uncased_uncased, List.map_map, List.map_map, hcolumn, htext, uncased]

/-- **The outcome of a table.** -/
theorem checkTable_uncased (table body : Text) :
    (checkTable (uncased table) (uncased body)).uncased = (checkTable table body).uncased := by
  rw [checkTable_eq, checkTable_eq, checkedElements_uncased, tableColumns_uncased,
    filter_isOne_uncased, keepsMention_uncased]
  by_cases hcolumns : tableColumns (checkedElements body) = []
  · rw [if_pos (by rw [hcolumns, List.map_nil]), if_pos hcolumns, Outcome.uncased, Outcome.uncased,
      List.map_append, List.map_append, elementFindings_uncased]
    simp only [List.map_cons, List.map_nil, noColumnsFinding_uncased]
  · rw [if_neg (by rwa [List.map_eq_nil_iff]), if_neg hcolumns, Outcome.uncased, Outcome.uncased,
      elementFindings_uncased]
    simp only [List.map_cons, List.map_nil, Table.uncased_of_uncased]
    cases keepsMention (checkedElements body) with
    | true => rfl
    | false => simp only [noPrimaryKeyFinding_uncased, List.map_cons, Bool.false_eq_true, if_false]

/-! ### Statements and schemas -/

theorem Outcome.rejected_uncased {a b : Finding} (h : a.uncased = b.uncased) :
    (rejected a).uncased = (rejected b).uncased := by
  rw [uncased, rejected, List.map_singleton, h, uncased, rejected, List.map_singleton]

theorem checkStatement_uncased (statement : Text) :
    (checkStatement (uncased statement)).uncased = (checkStatement statement).uncased := by
  have hname : (Statement.tableName? (uncased statement)).getD [] =
      uncased ((Statement.tableName? statement).getD []) := by
    rw [Statement.tableName?_uncased]
    cases Statement.tableName? statement <;> rfl
  rw [checkStatement, Statement.hasTrailingText_uncased, checkStatement]
  split
  · refine Outcome.rejected_uncased (Finding.uncased_congr rfl ?_ rfl rfl rfl)
    rw [trim_uncased]
    exact uncased_append_congr rfl (uncased_uncased _)
  -- the name goes into the messages; from here on it may be any text
  · generalize (Statement.tableName? statement).getD [] = name at hname
    simp only [hname, Identifier.isValid_uncased, Statement.body_uncased, isEmpty_uncased]
    split
    · refine Outcome.rejected_uncased (Finding.uncased_congr rfl ?_ rfl ?_ rfl)
      · exact uncased_append_congr rfl (uncased_quoted_uncased name)
      · cases name with
        | nil => rfl
        | cons c name => exact congrArg some (uncased_uncased (c :: name))
    · split
      · refine Outcome.rejected_uncased (Finding.uncased_congr rfl ?_ rfl ?_ rfl)
        · exact TableDraft.uncased_around_quoted name _ _
        · exact congrArg some (uncased_uncased name)
      · exact checkTable_uncased name (Statement.body statement)

/-- A report with the case of letters put aside.  Whether the schema is valid stays, and with it
the number of tables, errors and warnings, the codes, the types of the columns and whether there
is a primary key; only texts change that repeat what is written. -/
def Report.uncased (report : Report) : Report where
  isValid := report.isValid
  tables := report.tables.map Table.uncased
  errors := report.errors.map Finding.uncased
  warnings := report.warnings.map Finding.uncased

theorem Report.ofFindings_uncased (outcome : Outcome) :
    (ofFindings outcome.tables outcome.errors outcome.warnings).uncased =
      ofFindings outcome.uncased.tables outcome.uncased.errors outcome.uncased.warnings := by
  rw [uncased, ofFindings, ofFindings]
  congr 1
  exact List.isEmpty_map.symm

theorem Outcome.concat_uncased (outcomes : List Outcome) :
    (concat outcomes).uncased = concat (outcomes.map uncased) := by
  rw [concat_eq, concat_eq, uncased]
  simp only [List.map_flatMap, List.flatMap_map, uncased]

/-- The report on a schema in lower case is the report on the schema. -/
theorem checkSchema_uncased (sql : Text) :
    (checkSchema (uncased sql)).uncased = (checkSchema sql).uncased := by
  have hoccurs : Statement.occursIn (uncased sql) = Statement.occursIn sql := by
    rw [Statement.occursIn, Statement.all_uncased, List.isEmpty_map, Statement.occursIn]
  have houtcomes : ((Statement.all (uncased sql)).map checkStatement).map Outcome.uncased =
      ((Statement.all sql).map checkStatement).map Outcome.uncased := by
    rw [Statement.all_uncased, List.map_map, List.map_map, List.map_map]
    exact List.map_congr_left fun statement _ => checkStatement_uncased statement
  rw [checkSchema, isAllBlank_uncased, hoccurs, checkSchema]
  split
  · rfl
  · split
    · rfl
    · rw [Report.ofFindings_uncased, Outcome.concat_uncased, houtcomes, ← Outcome.concat_uncased,
        ← Report.ofFindings_uncased]

/-- **The case of ASCII letters never changes the outcome**: the reports on two spellings of a
schema differ in the letter case of what they quote and in nothing else. -/
theorem uncased_checkSchema_eq {a b : Text} (h : sameLetters a b = true) :
    (checkSchema a).uncased = (checkSchema b).uncased := by
  rw [← checkSchema_uncased a, sameLetters_iff.mp h, checkSchema_uncased]

/-- Two spellings of a table with a repeated column, an unknown type and a constraint without a
valid name: the reports are not the same, but agree once the case of letters is put aside. -/
theorem mixed_spellings_agree :
    let a := "CREATE TABLE T (Id INT, ".toList ++ "ID Int, x Foo, ".toList ++
      "CONSTRAINT 1x CHECK (x));".toList
    let b := "create Table t (ID int, ".toList ++ "id iNT, X fOO, ".toList ++
      "constraint 1X check (X));".toList
    sameLetters a b = true ∧ checkSchema a ≠ checkSchema b ∧
      (checkSchema a).uncased = (checkSchema b).uncased ∧
      ((checkSchema b).uncased.errors.map fun finding => (finding.code, finding.column)) =
        [(.duplicateColumn, some ['i', 'd']), (.invalidDataType, some ['x']),
          (.invalidConstraintSyntax, none)] := by
  intro a b
  have hsame : sameLetters a b = true := by decide +kernel
  have hreport := uncased_checkSchema_eq hsame
  refine ⟨hsame, by decide +kernel, hreport, ?_⟩
  rw [← hreport]
  decide +kernel

end SchemaIntake
