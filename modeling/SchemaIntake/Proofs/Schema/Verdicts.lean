import Mathlib.Data.List.Induction
import SchemaIntake.Proofs.Schema.Outcomes

/-!
# What becomes of the elements of a table

A table is checked element by element, and what is collected on the way moves through many hands.
Here the same is said of each element on its own: its verdict depends on the element and on the
ones before it, and on nothing that was collected.  The draft of a table is what its verdicts
amount to, so no element is lost and none is counted twice.

## Main definitions

* `Verdict`, `Verdict.of earlier e` — what becomes of the element `e` after some others.
* `verdicts es` — the elements with their verdicts.
* `tableColumns es`, `elementFindings table es` — the columns and the errors that these give.

## Main results

* `foldl_add_eq_draftOf` — the draft of a table is given by the verdicts.
* `checkTable_eq` — so is the outcome of a table.
* `checkStatement_accounts_for_elements` — **every element of an admitted statement is accounted
  for**, once.
-/

namespace SchemaIntake

open Text

/-! ### Verdicts -/

/-- Why a table constraint is rejected, if it is. -/
def TableConstraint.fault? (element : Text) : Option ConstraintFault :=
  match check element with
  | .ok _ => none
  | .error fault => some fault

/-- The column that an element defines, unless it is taken for a table constraint. -/
def definedColumn? (element : Text) : Option ColumnDefinition :=
  if TableConstraint.isOne element then none
  else match ColumnDefinition.read element with
  | .ok column => some column
  | .error _ => none

/-- Whether one of some elements defines a column of the given name, its case left aside. -/
def isTaken (earlier : List Text) (name : Text) : Bool :=
  earlier.any fun element =>
    (definedColumn? element).any fun column => lower column.name = lower name

/-- What becomes of an element of a table. -/
inductive Verdict
  /-- It is kept as a table constraint, and reported if it has a fault. -/
  | constraint (fault? : Option ConstraintFault)
  /-- It defines no column. -/
  | rejected (fault : ColumnFault)
  /-- It defines a column whose name is taken. -/
  | repeated (column : ColumnDefinition)
  /-- It becomes a column. -/
  | accepted (column : ColumnDefinition)
deriving DecidableEq, Repr

namespace Verdict

/-- What becomes of an element that comes after some others. -/
def of (earlier : List Text) (element : Text) : Verdict :=
  if TableConstraint.isOne element then .constraint (TableConstraint.fault? element)
  else match ColumnDefinition.read element with
  | .error fault => .rejected fault
  | .ok column => if isTaken earlier column.name then .repeated column else .accepted column

/-- The column that an element becomes. -/
def column? (element : Text) : Verdict → Option Column
  | accepted column => some ⟨column.name, column.type.baseName, element⟩
  | _ => none

/-- The error that is reported for an element. -/
def finding? (table element : Text) : Verdict → Option Finding
  | constraint fault? => fault?.map (TableDraft.constraintError table element)
  | rejected fault => some (TableDraft.columnError table element fault)
  | repeated column => some (TableDraft.duplicateError table column.name)
  | accepted _ => none

/-- The code and the column of the error that is reported for an element. -/
def label? : Verdict → Option (Code × Option Text)
  | constraint (some _) => some (.invalidConstraintSyntax, none)
  | constraint none => none
  | rejected .incomplete => some (.invalidSqlSyntax, none)
  | rejected (.unknownType column _) => some (.invalidDataType, some column)
  | rejected (.invalidName column) => some (.invalidColumnName, some column)
  | rejected (.misplacedToken column _) => some (.invalidColumnName, some column)
  | repeated column => some (.duplicateColumn, some column.name)
  | accepted _ => none

end Verdict

/-- Some elements with their verdicts, when others come before them. -/
def verdictsAfter (earlier : List Text) : List Text → List (Text × Verdict)
  | [] => []
  | element :: rest =>
    (element, Verdict.of earlier element) :: verdictsAfter (earlier ++ [element]) rest

/-- The elements of a table with their verdicts. -/
def verdicts (elements : List Text) : List (Text × Verdict) := verdictsAfter [] elements

/-- The columns that the elements of a table become. -/
def tableColumns (elements : List Text) : List Column :=
  (verdicts elements).filterMap fun entry => entry.2.column? entry.1

/-- The errors that are reported for the elements of a table. -/
def elementFindings (table : Text) (elements : List Text) : List Finding :=
  (verdicts elements).filterMap fun entry => entry.2.finding? table entry.1

/-- Whether one of the texts that a table keeps mentions a primary key. -/
def keepsMention (elements : List Text) : Bool :=
  ((tableColumns elements).any fun column => mentionsPrimaryKey column.raw) ||
    (elements.filter TableConstraint.isOne).any mentionsPrimaryKey

/-! ### Elements one by one -/

theorem isTaken_concat (earlier : List Text) (element name : Text) :
    isTaken (earlier ++ [element]) name = (isTaken earlier name ||
      (definedColumn? element).any fun column => lower column.name = lower name) := by
  rw [isTaken, List.any_append, isTaken, List.any_cons, List.any_nil, Bool.or_false]

theorem isTaken_congr {a b : Text} (h : lower a = lower b) (earlier : List Text) :
    isTaken earlier a = isTaken earlier b := by
  rw [isTaken, h, isTaken]

namespace Verdict

variable {element : Text} (earlier : List Text)

theorem of_constraint (hone : TableConstraint.isOne element = true) :
    of earlier element = .constraint (TableConstraint.fault? element) := by
  rw [of, if_pos hone]

theorem of_rejected (hone : TableConstraint.isOne element = false) {fault : ColumnFault}
    (hread : ColumnDefinition.read element = .error fault) :
    of earlier element = .rejected fault := by
  rw [of, if_neg (by simp [hone]), hread]

theorem of_ok (hone : TableConstraint.isOne element = false) {column : ColumnDefinition}
    (hread : ColumnDefinition.read element = .ok column) : of earlier element =
      if isTaken earlier column.name then .repeated column else .accepted column := by
  rw [of, if_neg (by simp [hone]), hread]

end Verdict

theorem definedColumn?_of_ok {element : Text} (hone : TableConstraint.isOne element = false)
    {column : ColumnDefinition} (hread : ColumnDefinition.read element = .ok column) :
    definedColumn? element = some column := by
  rw [definedColumn?, if_neg (by simp [hone]), hread]

theorem verdictsAfter_append (earlier as bs : List Text) : verdictsAfter earlier (as ++ bs) =
    verdictsAfter earlier as ++ verdictsAfter (earlier ++ as) bs := by
  induction as generalizing earlier with
  | nil => simp [verdictsAfter]
  | cons a as ih => rw [List.cons_append, verdictsAfter, ih, verdictsAfter]; simp

/-- The verdict on one element depends on the earlier ones only. -/
theorem verdicts_append_cons (before : List Text) (element : Text) (after : List Text) :
    verdicts (before ++ element :: after) =
      verdicts before ++ (element, Verdict.of before element) ::
        verdictsAfter (before ++ [element]) after := by
  rw [verdicts, verdictsAfter_append, verdictsAfter, List.nil_append, verdicts]

theorem tableColumns_concat (elements : List Text) (element : Text) :
    tableColumns (elements ++ [element]) =
      tableColumns elements ++ ((Verdict.of elements element).column? element).toList := by
  rw [tableColumns, verdicts_append_cons, List.filterMap_append, tableColumns]
  cases h : (Verdict.of elements element).column? element <;> simp [verdictsAfter, h]

theorem elementFindings_concat (table : Text) (elements : List Text) (element : Text) :
    elementFindings table (elements ++ [element]) = elementFindings table elements ++
      ((Verdict.of elements element).finding? table element).toList := by
  rw [elementFindings, verdicts_append_cons, List.filterMap_append, elementFindings]
  cases h : (Verdict.of elements element).finding? table element <;> simp [verdictsAfter, h]

/-- A name is taken exactly if a column has it: a repeated name was taken before. -/
theorem any_tableColumns (elements : List Text) (name : Text) :
    ((tableColumns elements).any fun column => lower column.name = lower name) =
      isTaken elements name := by
  induction elements using List.reverseRecOn with
  | nil => rfl
  | append_singleton elements element ih =>
    rw [tableColumns_concat, List.any_append, ih, isTaken_concat]
    cases hone : TableConstraint.isOne element with
    | true => simp [Verdict.of_constraint elements hone, Verdict.column?, definedColumn?, hone]
    | false =>
      cases hread : ColumnDefinition.read element with
      | error fault =>
        simp [Verdict.of_rejected elements hone hread, Verdict.column?, definedColumn?, hone, hread]
      | ok column =>
        rw [Verdict.of_ok elements hone hread, definedColumn?_of_ok hone hread]
        cases htaken : isTaken elements column.name with
        | false => simp [Verdict.column?]
        | true =>
          -- the element becomes no column, but then its name was taken before
          by_cases hname : lower column.name = lower name
          · simp [← isTaken_congr hname, htaken]
          · simp [Verdict.column?, hname]

/-- The columns of some elements are columns of any that go on from them. -/
theorem tableColumns_subset_append (as bs : List Text) :
    tableColumns as ⊆ tableColumns (as ++ bs) := by
  rw [tableColumns, tableColumns, verdicts, verdicts, verdictsAfter_append, List.filterMap_append]
  exact List.subset_append_left _ _

theorem Verdict.exists_of_column? {earlier : List Text} {element : Text} {column : Column}
    (h : (Verdict.of earlier element).column? element = some column) :
    TableConstraint.isOne element = false ∧ ∃ c, ColumnDefinition.read element = .ok c ∧
      column = ⟨c.name, c.type.baseName, element⟩ := by
  cases hone : TableConstraint.isOne element with
  | true => simp [of_constraint earlier hone, column?] at h
  | false =>
    cases hread : ColumnDefinition.read element with
    | error fault => simp [of_rejected earlier hone hread, column?] at h
    | ok c =>
      rw [of_ok earlier hone hread] at h
      cases htaken : isTaken earlier c.name with
      | true => simp [htaken, column?] at h
      | false => exact ⟨rfl, c, rfl, by simpa [htaken, column?] using h.symm⟩

/-- A column of a table is one of the elements, and is what that element defines. -/
theorem exists_of_mem_tableColumns {elements : List Text} {column : Column}
    (h : column ∈ tableColumns elements) : column.raw ∈ elements ∧
      TableConstraint.isOne column.raw = false ∧ ∃ c, ColumnDefinition.read column.raw = .ok c ∧
        column = ⟨c.name, c.type.baseName, column.raw⟩ := by
  induction elements using List.reverseRecOn with
  | nil => exact absurd h List.not_mem_nil
  | append_singleton elements element ih =>
    rw [tableColumns_concat] at h
    rcases List.mem_append.mp h with h | h
    · obtain ⟨hmem, hcolumn⟩ := ih h
      exact ⟨List.mem_append_left _ hmem, hcolumn⟩
    · obtain ⟨hone, c, hread, rfl⟩ := Verdict.exists_of_column? (Option.mem_toList.mp h)
      exact ⟨by simp, hone, c, hread, rfl⟩

/-! ### The draft of a table -/

/-- The draft that the verdicts on some elements amount to. -/
def draftOf (table : Text) (elements : List Text) : TableDraft where
  columns := tableColumns elements
  constraints := elements.filter TableConstraint.isOne
  hasPrimaryKey := keepsMention elements
  errors := elementFindings table elements

/-- **One step**: adding an element to the draft adds what its verdict says. -/
theorem add_draftOf (table : Text) (elements : List Text) (element : Text) :
    (draftOf table elements).add table element = draftOf table (elements ++ [element]) := by
  rw [TableDraft.add]
  cases hone : TableConstraint.isOne element with
  | true =>
    -- a constraint is kept and counts as a mention, whether it has a fault or not
    rw [if_pos rfl, TableDraft.addConstraint, draftOf, draftOf, keepsMention, keepsMention,
      tableColumns_concat, elementFindings_concat, Verdict.of_constraint elements hone]
    cases hcheck : TableConstraint.check element <;>
      simp [TableConstraint.fault?, hcheck, hone, Verdict.column?, Verdict.finding?,
        TableDraft.report, Bool.or_assoc]
  | false =>
    rw [if_neg (by simp), TableDraft.addColumn]
    cases hread : ColumnDefinition.read element with
    | error fault =>
      rw [draftOf, draftOf, keepsMention, keepsMention, tableColumns_concat,
        elementFindings_concat, Verdict.of_rejected elements hone hread]
      simp [hone, Verdict.column?, Verdict.finding?, TableDraft.report]
    | ok column =>
      -- the draft looks among its columns, the verdict among the elements
      have hhas : (draftOf table elements).hasColumn column.name =
          isTaken elements column.name := any_tableColumns elements column.name
      dsimp only
      rw [hhas, draftOf, draftOf, keepsMention, keepsMention, tableColumns_concat,
        elementFindings_concat, Verdict.of_ok elements hone hread]
      cases isTaken elements column.name with
      | true => simp [hone, Verdict.column?, Verdict.finding?, TableDraft.report]
      | false => simp [hone, Verdict.column?, Verdict.finding?, Bool.or_right_comm]

/-- **The draft of a table is what the verdicts on its elements amount to.** -/
theorem foldl_add_eq_draftOf (table : Text) (elements : List Text) :
    elements.foldl (TableDraft.add table) .empty = draftOf table elements := by
  induction elements using List.reverseRecOn with
  | nil => rfl
  | append_singleton elements element ih =>
    rw [List.foldl_append, List.foldl_cons, List.foldl_nil, ih, add_draftOf]

/-! ### The outcome of a table -/

/-- The error for a table none of whose elements became a column. -/
def noColumnsFinding (table : Text) : Finding :=
  Finding.errorIn table .invalidSqlSyntax
    ("Table ".toList ++ quoted table ++ " has no valid columns".toList)

/-- The warning for a table that mentions no primary key. -/
def noPrimaryKeyFinding (table : Text) : Finding :=
  Finding.warningIn table .noPrimaryKey
    ("Table ".toList ++ quoted table ++ " has no PRIMARY KEY defined".toList)

/-- **The outcome of a table**, read off the verdicts on its elements. -/
theorem checkTable_eq (table body : Text) : checkTable table body =
    if tableColumns (checkedElements body) = [] then
      ⟨[], elementFindings table (checkedElements body) ++ [noColumnsFinding table], []⟩
    else
      ⟨[⟨table, tableColumns (checkedElements body),
          (checkedElements body).filter TableConstraint.isOne,
          keepsMention (checkedElements body)⟩],
        elementFindings table (checkedElements body),
        if keepsMention (checkedElements body) then [] else [noPrimaryKeyFinding table]⟩ := by
  rw [checkTable, foldl_add_eq_draftOf, TableDraft.finish]
  by_cases hnone : tableColumns (checkedElements body) = []
  · rw [if_pos hnone, if_pos (by simpa [draftOf] using hnone)]
    rfl
  · rw [if_neg hnone, if_neg (by simpa [draftOf] using hnone)]
    rfl

/-- The table of an outcome is the one that the verdicts on its elements give. -/
theorem eq_of_mem_tables_checkTable {name body : Text} {table : Table}
    (h : table ∈ (checkTable name body).tables) :
    table = ⟨name, tableColumns (checkedElements body),
      (checkedElements body).filter TableConstraint.isOne,
      keepsMention (checkedElements body)⟩ := by
  rw [checkTable_eq] at h
  split at h
  · exact absurd h List.not_mem_nil
  · exact List.mem_singleton.mp h

/-- A table is warned about exactly if it mentions no primary key. -/
theorem warnings_checkTable (name body : Text) : (checkTable name body).warnings =
    ((checkTable name body).tables.filter (!·.hasPrimaryKey)).map
      fun table => noPrimaryKeyFinding table.name := by
  rw [checkTable_eq]
  split
  · rfl
  · cases h : keepsMention (checkedElements body) <;> simp

/-! ### Findings and their labels -/

theorem Verdict.map_finding? (table element : Text) (verdict : Verdict) :
    (verdict.finding? table element).map (fun finding => (finding.code, finding.column)) =
      verdict.label? := by
  cases verdict with
  | constraint fault? => cases fault? <;> rfl
  | rejected fault => cases fault <;> rfl
  | repeated column => rfl
  | accepted column => rfl

theorem Verdict.table_of_finding? {table element : Text} {verdict : Verdict} {finding : Finding}
    (h : verdict.finding? table element = some finding) :
    finding.table = some table ∧ finding.severity = .error := by
  cases verdict with
  | constraint fault? =>
    obtain ⟨fault, -, rfl⟩ := Option.map_eq_some_iff.mp h
    exact ⟨rfl, rfl⟩
  | rejected fault =>
    obtain rfl := Option.some.inj h
    exact ⟨rfl, rfl⟩
  | repeated column =>
    obtain rfl := Option.some.inj h
    exact ⟨rfl, rfl⟩
  | accepted column => simp [finding?] at h

theorem map_elementFindings (table : Text) (elements : List Text) :
    ((elementFindings table elements).map fun finding => (finding.code, finding.column)) =
      (verdicts elements).filterMap fun entry => entry.2.label? := by
  rw [elementFindings, List.map_filterMap]
  simp only [Verdict.map_finding?]

theorem table_of_mem_elementFindings {table : Text} {elements : List Text} {finding : Finding}
    (h : finding ∈ elementFindings table elements) :
    finding.table = some table ∧ finding.severity = .error := by
  obtain ⟨entry, -, hentry⟩ := List.mem_filterMap.mp h
  exact Verdict.table_of_finding? hentry

/-! ### Counting -/

/-- The errors that are reported for columns, and not for table constraints. -/
def columnFindings (findings : List Finding) : List Finding :=
  findings.filter fun finding => finding.code != .invalidConstraintSyntax

/-- One verdict counts once: as a constraint, as a column, or as an error of a column. -/
theorem length_verdict (table : Text) (elements : List Text) (element : Text) :
    ((Verdict.of elements element).column? element).toList.length +
      ([element].filter TableConstraint.isOne).length +
        (columnFindings ((Verdict.of elements element).finding? table element).toList).length =
          1 := by
  cases hone : TableConstraint.isOne element with
  | true =>
    rw [Verdict.of_constraint elements hone]
    cases h : TableConstraint.fault? element <;>
      simp [hone, Verdict.column?, Verdict.finding?, columnFindings, TableDraft.constraintError,
        Finding.errorIn]
  | false =>
    cases hread : ColumnDefinition.read element with
    | error fault =>
      rw [Verdict.of_rejected elements hone hread]
      cases fault <;>
        simp [hone, Verdict.column?, Verdict.finding?, columnFindings, TableDraft.columnError,
          TableDraft.faultCode, Finding.errorIn, Finding.about]
    | ok column =>
      rw [Verdict.of_ok elements hone hread]
      cases isTaken elements column.name <;>
        simp [hone, Verdict.column?, Verdict.finding?, columnFindings, TableDraft.duplicateError,
          Finding.errorIn, Finding.about]

/-- Columns, constraints and errors of columns together are as many as the elements. -/
theorem length_tableColumns_add (table : Text) (elements : List Text) :
    (tableColumns elements).length + (elements.filter TableConstraint.isOne).length +
      (columnFindings (elementFindings table elements)).length = elements.length := by
  induction elements using List.reverseRecOn with
  | nil => rfl
  | append_singleton elements element ih =>
    have hone := length_verdict table elements element
    rw [tableColumns_concat, elementFindings_concat, columnFindings, List.filter_append,
      List.filter_append, List.length_append, List.length_append, List.length_append,
      List.length_append, List.length_singleton]
    rw [columnFindings] at hone ih
    omega

/-- **Every element of an admitted statement is accounted for.**  The constraints of the table are
the elements taken for constraints, the rejected ones included; its columns are the others that
define a column whose name no earlier one has (`any_tableColumns`); and what is reported is one
error for each rejected constraint, each rejected column and each repeated one, in the order of
the elements.  Without columns there is one more error and no table. -/
theorem checkStatement_accounts_for_elements {statement name : Text}
    (h : Statement.IsAdmitted statement name) :
    let elements := checkedElements (Statement.body statement)
    let outcome := checkStatement statement
    (outcome.tables = if tableColumns elements = [] then [] else
      [⟨name, tableColumns elements, elements.filter TableConstraint.isOne,
        keepsMention elements⟩]) ∧
    (outcome.errors = elementFindings name elements ++
      if tableColumns elements = [] then [noColumnsFinding name] else []) ∧
    ((outcome.errors.map fun finding => (finding.code, finding.column)) =
      ((verdicts elements).filterMap fun entry => entry.2.label?) ++
        if tableColumns elements = [] then [(.invalidSqlSyntax, none)] else []) ∧
    (∀ finding ∈ outcome.errors, finding.table = some name ∧ finding.severity = .error) ∧
    ∀ table ∈ outcome.tables, table.columns.length + table.constraints.length +
      (columnFindings outcome.errors).length = elements.length := by
  intro elements outcome
  have houtcome := (checkStatement_of_isAdmitted h).trans (checkTable_eq name _)
  rw [show checkedElements (Statement.body statement) = elements from rfl] at houtcome
  change outcome = _ at houtcome
  -- from here on the elements may be any texts
  clear_value elements outcome
  by_cases hnone : tableColumns elements = []
  · rw [if_pos hnone] at houtcome ⊢
    subst houtcome
    rw [if_pos hnone]
    refine ⟨rfl, rfl, ?_, ?_, ?_⟩
    · rw [if_pos hnone, List.map_append, map_elementFindings]
      rfl
    · intro finding hfinding
      rcases List.mem_append.mp hfinding with hfinding | hfinding
      · exact table_of_mem_elementFindings hfinding
      · obtain rfl := List.mem_singleton.mp hfinding
        exact ⟨rfl, rfl⟩
    · intro table htable
      exact absurd htable (List.not_mem_nil)
  · rw [if_neg hnone] at houtcome ⊢
    subst houtcome
    rw [if_neg hnone, if_neg hnone, List.append_nil, List.append_nil]
    refine ⟨rfl, rfl, map_elementFindings name elements, ?_, ?_⟩
    · intro finding hfinding
      exact table_of_mem_elementFindings hfinding
    · intro table htable
      obtain rfl := List.mem_singleton.mp htable
      exact length_tableColumns_add name elements

/-- A statement with a column of every fate and a constraint of either: one of its six elements
becomes a column, two are kept as constraints, and three are errors of columns. -/
theorem accounts_for_mixed_elements :
    let statement := "CREATE TABLE t (id INT, ".toList ++ "x FOO, y, ID INT, ".toList ++
      "UNIQUE (id), ".toList ++ "CONSTRAINT 1x CHECK (y));".toList
    Statement.IsAdmitted statement ['t'] ∧
      ((checkStatement statement).tables.map fun table =>
        (table.columns.length, table.constraints.length)) = [(1, 2)] ∧
      ((checkStatement statement).errors.map fun finding => (finding.code, finding.column)) =
        [(.invalidDataType, some ['x']), (.invalidSqlSyntax, none),
          (.duplicateColumn, some ['I', 'D']), (.invalidConstraintSyntax, none)] := by
  intro statement
  have hadmitted : Statement.IsAdmitted statement ['t'] :=
    ⟨by decide +kernel, by decide +kernel, by decide +kernel, by decide +kernel⟩
  obtain ⟨htables, -, hlabels, -, -⟩ := checkStatement_accounts_for_elements hadmitted
  refine ⟨hadmitted, ?_, ?_⟩
  · rw [htables]
    decide +kernel
  · rw [hlabels]
    decide +kernel

end SchemaIntake
