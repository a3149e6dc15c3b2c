import Mathlib.Algebra.Order.BigOperators.Group.List
import Mathlib.Algebra.Order.Ring.Nat
import SchemaIntake.Proofs.Ddl.Spacing
import SchemaIntake.Proofs.Schema.PrimaryKeys

/-!
# Checking a schema without regard to the kind of white space

The elements of a table are cut and read with any separators between their words.  Two looks at
them are not so patient: an element is taken for a table constraint, and a text mentions a primary
key, where the words stand one space apart.  So a schema with one space for every run of separators
has the same outline as the schema, unless one of these two looks depends on the runs.

## Main definitions

* `Table.outline`, `Report.outline` — what is left of a report when the texts of the elements and
  the messages are put aside.
* `KeepsKinds es` — no element becomes a table constraint when its runs are squeezed.
* `IsEvenlySpaced sql` — neither look depends on the runs of separators.

## Main results

* `Verdict.gist_squeezed` — the verdict on an element.
* `outline_squeezed_iff` — **one space for every run** leaves the outline exactly of the evenly
  spaced schemas.
* `outline_of_respaced` — what replacing a run of separators does to the outline.
-/

namespace SchemaIntake

open Text

/-! ### Outlines -/

/-- What is left of a table when the texts of its elements are put aside. -/
structure Table.Outline where
  name : Text
  /-- The names and the types of the columns, in order. -/
  columns : List (Text × Text)
  constraints : Nat
  /-- Whether a primary key is mentioned. -/
  hasPrimaryKey : Bool
deriving DecidableEq, Repr

/-- What is left of a report when the texts of the elements and the messages are put aside. -/
structure Report.Outline where
  isValid : Bool
  /-- The outlines of the tables, in order. -/
  tables : List Table.Outline
  /-- The codes of the errors, in order. -/
  errors : List Code
  /-- The codes of the warnings, in order. -/
  warnings : List Code
deriving DecidableEq, Repr

def Table.outline (table : Table) : Table.Outline where
  name := table.name
  columns := table.columns.map fun column => (column.name, column.dataType)
  constraints := table.constraints.length
  hasPrimaryKey := table.hasPrimaryKey

def Report.outline (report : Report) : Report.Outline where
  isValid := report.isValid
  tables := report.tables.map Table.outline
  errors := report.errors.map (·.code)
  warnings := report.warnings.map (·.code)

/-- The warnings and whether a schema is valid can be read off the rest of the outline. -/
theorem outline_checkSchema_eq_iff {a b : Text} :
    (checkSchema a).outline = (checkSchema b).outline ↔
      (checkSchema a).tables.map Table.outline = (checkSchema b).tables.map Table.outline ∧
        (checkSchema a).errors.map (·.code) = (checkSchema b).errors.map (·.code) := by
  have hvalid : ∀ sql, (checkSchema sql).isValid =
      ((checkSchema sql).errors.map (·.code)).isEmpty := by
    intro sql
    rw [List.isEmpty_map, checkSchema_isValid]
  have hwarnings : ∀ sql, (checkSchema sql).warnings.map (·.code) =
      (((checkSchema sql).tables.map Table.outline).filter (!·.hasPrimaryKey)).map
        fun _ => .noPrimaryKey := by
    intro sql
    rw [warnings_checkSchema, List.map_map, List.filter_map, List.map_map]
    rfl
  -- validity and warnings follow from the tables and the errors
  constructor
  · intro h
    exact ⟨congrArg Report.Outline.tables h, congrArg Report.Outline.errors h⟩
  · rintro ⟨htables, herrors⟩
    rw [Report.outline, Report.outline, hvalid, hvalid, hwarnings, hwarnings, htables, herrors]

/-! ### Elements and verdicts -/

/-- No element becomes a table constraint when its runs of separators are squeezed. -/
def KeepsKinds (elements : List Text) : Prop :=
  ∀ e ∈ elements, TableConstraint.isOne (squeezed e) = true → TableConstraint.isOne e = true

instance (elements : List Text) : Decidable (KeepsKinds elements) := by
  unfold KeepsKinds
  infer_instance

namespace ColumnDefinition

variable {element : Text}

theorem read_squeezed_of_ok {column : ColumnDefinition} (h : read element = .ok column) :
    ∃ column', read (squeezed element) = .ok column' ∧ column'.name = column.name ∧
      column'.type.baseName = column.type.baseName := by
  have hgist := gist_squeezed element
  rw [h] at hgist
  cases hread : read (squeezed element) with
  | error fault => simp [hread, gist, Except.map, Except.mapError] at hgist
  | ok column' =>
    rw [hread] at hgist
    obtain ⟨hname, hbase⟩ := Prod.mk.inj (Except.ok.inj hgist)
    exact ⟨column', rfl, hname, hbase⟩

theorem read_squeezed_of_error {fault : ColumnFault} (h : read element = .error fault) :
    ∃ fault', read (squeezed element) = .error fault' ∧
      TableDraft.faultCode fault' = TableDraft.faultCode fault := by
  have hgist := gist_squeezed element
  rw [h] at hgist
  cases hread : read (squeezed element) with
  | error fault' =>
    rw [hread] at hgist
    exact ⟨fault', rfl, Except.error.inj hgist⟩
  | ok column => simp [hread, gist, Except.map, Except.mapError] at hgist

end ColumnDefinition

namespace KeepsKinds

variable {elements : List Text} {element : Text}

theorem of_append {more : List Text} (h : KeepsKinds (elements ++ more)) :
    KeepsKinds elements ∧ KeepsKinds more :=
  ⟨fun e he => h e (List.mem_append_left _ he), fun e he => h e (List.mem_append_right _ he)⟩

theorem isOne_eq (h : KeepsKinds elements) (he : element ∈ elements) :
    TableConstraint.isOne (squeezed element) = TableConstraint.isOne element :=
  Bool.eq_iff_iff.mpr ⟨h element he, TableConstraint.isOne_squeezed⟩

theorem filter_isOne (h : KeepsKinds elements) :
    (elements.map squeezed).filter TableConstraint.isOne =
      (elements.filter TableConstraint.isOne).map squeezed := by
  rw [List.filter_map]
  exact congrArg _ (List.filter_congr fun e he => h.isOne_eq he)

/-- The names that are taken are taken with any separators. -/
theorem isTaken (h : KeepsKinds elements) (name : Text) :
    SchemaIntake.isTaken (elements.map squeezed) name = SchemaIntake.isTaken elements name := by
  rw [SchemaIntake.isTaken, List.any_map, SchemaIntake.isTaken, Bool.eq_iff_iff, List.any_eq_true,
    List.any_eq_true]
  refine exists_congr fun e => and_congr_right fun he => ?_
  have hone := h.isOne_eq he
  rw [Function.comp_apply, definedColumn?, hone, definedColumn?]
  cases hread : ColumnDefinition.read e with
  | error fault =>
    obtain ⟨fault', hread', -⟩ := ColumnDefinition.read_squeezed_of_error hread
    rw [hread']
  | ok column =>
    obtain ⟨column', hread', hname, -⟩ := ColumnDefinition.read_squeezed_of_ok hread
    rw [hread']
    split
    · rfl
    · simp only [Option.any_some, hname]

end KeepsKinds

namespace Verdict

/-- What a verdict comes to when the text of the element is put aside: the name and the base type
of a column, and the code of an error. -/
def gist : Verdict → Option (Text × Text) × Option Code
  | constraint fault? => (none, fault?.map fun _ => .invalidConstraintSyntax)
  | rejected fault => (none, some (TableDraft.faultCode fault))
  | repeated _ => (none, some .duplicateColumn)
  | accepted column => (some (column.name, column.type.baseName), none)

theorem column?_eq_gist (element : Text) (verdict : Verdict) :
    verdict.column? element = verdict.gist.1.map fun column => ⟨column.1, column.2, element⟩ := by
  cases verdict <;> rfl

theorem map_code_finding? (table element : Text) (verdict : Verdict) :
    (verdict.finding? table element).map (·.code) = verdict.gist.2 := by
  cases verdict with
  | constraint fault? => cases fault? <;> rfl
  | _ => rfl

/-- **The verdict on an element** comes to the same with any separators, here and in the elements
before it. -/
theorem gist_squeezed {earlier : List Text} {element : Text}
    (h : KeepsKinds (earlier ++ [element])) :
    (Verdict.of (earlier.map squeezed) (squeezed element)).gist =
      (Verdict.of earlier element).gist := by
  have hsame : TableConstraint.isOne (squeezed element) = TableConstraint.isOne element :=
    h.isOne_eq (by simp)
  cases hone : TableConstraint.isOne element with
  | true =>
    rw [of_constraint _ (hsame.trans hone), of_constraint _ hone, TableConstraint.fault?,
      TableConstraint.check_squeezed hone, TableConstraint.fault?]
  | false =>
    cases hread : ColumnDefinition.read element with
    | error fault =>
      obtain ⟨fault', hread', hcode⟩ := ColumnDefinition.read_squeezed_of_error hread
      rw [of_rejected _ (hsame.trans hone) hread', of_rejected _ hone hread, gist, hcode, gist]
    | ok column =>
      obtain ⟨column', hread', hname, hbase⟩ := ColumnDefinition.read_squeezed_of_ok hread
      -- the name is the same, so it is taken by the earlier elements in both places or in none
      rw [of_ok _ (hsame.trans hone) hread', of_ok _ hone hread, hname, h.of_append.1.isTaken]
      split
      · rfl
      · rw [gist, hname, hbase, gist]

end Verdict

def Column.squeezed (column : Column) : Column :=
  { column with raw := SchemaIntake.squeezed column.raw }

namespace KeepsKinds

variable {elements : List Text}

theorem tableColumns (h : KeepsKinds elements) :
    SchemaIntake.tableColumns (elements.map squeezed) =
      (SchemaIntake.tableColumns elements).map Column.squeezed := by
  induction elements using List.reverseRecOn with
  | nil => rfl
  | append_singleton elements element ih =>
    have hgist := Verdict.gist_squeezed h
    rw [List.map_append, List.map_singleton, tableColumns_concat, tableColumns_concat,
      ih h.of_append.1, List.map_append, Verdict.column?_eq_gist, Verdict.column?_eq_gist, hgist]
    cases (Verdict.of elements element).gist.1 <;> rfl

theorem map_code_elementFindings (h : KeepsKinds elements) (table : Text) :
    (elementFindings table (elements.map squeezed)).map (·.code) =
      (elementFindings table elements).map (·.code) := by
  induction elements using List.reverseRecOn with
  | nil => rfl
  | append_singleton elements element ih =>
    have hgist := congrArg Prod.snd (Verdict.gist_squeezed h)
    rw [← Verdict.map_code_finding? table (squeezed element),
      ← Verdict.map_code_finding? table element] at hgist
    rw [List.map_append, List.map_singleton, elementFindings_concat, elementFindings_concat,
      List.map_append, List.map_append, ih h.of_append.1, ← Option.toList_map, hgist,
      Option.toList_map]

end KeepsKinds

/-! ### Tables -/

/-- A table whose texts are squeezed.  The flag looks at the squeezed texts. -/
def Table.squeezed (table : Table) : Table where
  name := table.name
  columns := table.columns.map Column.squeezed
  constraints := table.constraints.map SchemaIntake.squeezed
  hasPrimaryKey := table.texts.any fun t => mentionsPrimaryKey (SchemaIntake.squeezed t)

/-- Words one space apart stay one space apart. -/
theorem SpellsKey.squeezed {t : Text} (h : SpellsKey t) : SpellsKey (squeezed t) := by
  have hwords : SchemaIntake.squeezed "PRIMARY KEY".toList = "PRIMARY KEY".toList := by decide
  rw [SpellsKey, upper_squeezed, ← hwords]
  exact infix_squeezed h

/-- **The outcome of a table** whose elements stay what they are. -/
theorem checkTable_squeezed {name body : Text} (h : KeepsKinds (checkedElements body)) :
    (checkTable name (squeezed body)).tables = (checkTable name body).tables.map Table.squeezed ∧
      (checkTable name (squeezed body)).errors.map (·.code) =
        (checkTable name body).errors.map (·.code) := by
  have hmention : keepsMention ((checkedElements body).map squeezed) =
      ((tableColumns (checkedElements body)).map (·.raw) ++
        (checkedElements body).filter TableConstraint.isOne).any
          fun t => mentionsPrimaryKey (squeezed t) := by
    rw [keepsMention, h.tableColumns, h.filter_isOne, List.any_map, List.any_map, List.any_append,
      List.any_map]
    rfl
  rw [checkTable_eq, checkTable_eq, checkedElements_squeezed, h.tableColumns, h.filter_isOne]
  by_cases hnone : tableColumns (checkedElements body) = []
  · rw [if_pos (by rw [hnone, List.map_nil]), if_pos hnone, List.map_append, List.map_append,
      h.map_code_elementFindings]
    exact ⟨rfl, rfl⟩
  · rw [if_neg (by rwa [List.map_eq_nil_iff]), if_neg hnone, hmention]
    exact ⟨rfl, h.map_code_elementFindings name⟩

/-! ### Statements -/

/-- No element of the statement, if it gets as far as that, becomes a table constraint when its
runs of separators are squeezed. -/
def Statement.KeepsKinds (s : Text) : Prop :=
  ∀ name, IsAdmitted s name → SchemaIntake.KeepsKinds (checkedElements (body s))

theorem Statement.isAdmitted_squeezed_iff {s name : Text} :
    IsAdmitted (squeezed s) name ↔ IsAdmitted s name := by
  have hbody : squeezed (body s) = [] ↔ body s = [] := squeezed_eq_iff rfl
  constructor
  · rintro ⟨htrailing, hnamed, hvalid, hne⟩
    rw [hasTrailingText_squeezed] at htrailing
    rw [tableName?_squeezed] at hnamed
    rw [body_squeezed, Ne, hbody] at hne
    exact ⟨htrailing, hnamed, hvalid, hne⟩
  · rintro ⟨htrailing, hnamed, hvalid, hne⟩
    refine ⟨?_, ?_, hvalid, ?_⟩
    · rwa [hasTrailingText_squeezed]
    · rwa [tableName?_squeezed]
    · rwa [body_squeezed, Ne, hbody]

/-- **The outcome of a statement** whose elements stay what they are. -/
theorem checkStatement_squeezed {s : Text} (h : Statement.KeepsKinds s) :
    (checkStatement (squeezed s)).tables = (checkStatement s).tables.map Table.squeezed ∧
      (checkStatement (squeezed s)).errors.map (·.code) =
        (checkStatement s).errors.map (·.code) := by
  rw [checkStatement, checkStatement, Statement.hasTrailingText_squeezed,
    Statement.tableName?_squeezed, Statement.body_squeezed, isEmpty_squeezed]
  dsimp only
  split
  · exact ⟨rfl, rfl⟩
  · next htrailing =>
    split
    · exact ⟨rfl, rfl⟩
    · next hvalid =>
      split
      · exact ⟨rfl, rfl⟩
      -- only here the elements are looked at
      · next hbody =>
        have hadmitted := Statement.isAdmitted_of_checks (by simpa using htrailing)
          (by simpa using hvalid) (by simpa using hbody)
        exact checkTable_squeezed (h _ hadmitted)

/-! ### Schemas -/

/-- Neither of the two looks that ask for one space depends on the runs of separators: no element
becomes a table constraint when they are squeezed, and no table a table with a primary key. -/
structure IsEvenlySpaced (sql : Text) : Prop where
  /-- No element becomes a table constraint. -/
  kinds : ∀ s ∈ Statement.all sql, Statement.KeepsKinds s
  /-- No table becomes one with a primary key. -/
  keys : ∀ table ∈ (checkSchema sql).tables,
    (∃ t ∈ table.texts, SpellsKey (squeezed t)) → ∃ t ∈ table.texts, SpellsKey t

theorem Table.squeezed_hasPrimaryKey_iff {table : Table} :
    table.squeezed.hasPrimaryKey = true ↔
      ∃ t ∈ table.texts, SpellsKey (SchemaIntake.squeezed t) := by
  simp only [squeezed, List.any_eq_true, mentionsPrimaryKey_iff]

/-- Only the flag of a table depends on the runs. -/
theorem Table.outline_squeezed_iff {table : Table} :
    table.squeezed.outline = table.outline ↔
      table.squeezed.hasPrimaryKey = table.hasPrimaryKey := by
  have hcolumns : table.squeezed.columns.map (fun column => (column.name, column.dataType)) =
      table.columns.map fun column => (column.name, column.dataType) := by
    rw [squeezed, List.map_map]
    rfl
  have hconstraints : table.squeezed.constraints.length = table.constraints.length :=
    List.length_map _
  constructor
  · exact fun h => congrArg Table.Outline.hasPrimaryKey h
  · intro h
    rw [outline, hcolumns, hconstraints, h]
    rfl

/-- A table of a report keeps its outline exactly if it does not become one with a primary key. -/
theorem outline_squeezed_iff_of_mem_tables {sql : Text} {table : Table}
    (h : table ∈ (checkSchema sql).tables) : table.squeezed.outline = table.outline ↔
      ((∃ t ∈ table.texts, SpellsKey (squeezed t)) → ∃ t ∈ table.texts, SpellsKey t) := by
  rw [Table.outline_squeezed_iff, Bool.eq_iff_iff, Table.squeezed_hasPrimaryKey_iff,
    (spec_of_mem_tables h).1]
  refine ⟨fun hiff => hiff.mp, fun himp => ⟨himp, ?_⟩⟩
  rintro ⟨t, ht, hspells⟩
  exact ⟨t, ht, hspells.squeezed⟩

/-- A text without statements is told from a blank one with any separators. -/
theorem checkSchema_squeezed_of_none {sql : Text} (h : Statement.all sql = []) :
    checkSchema (squeezed sql) = checkSchema sql := by
  have hnone : Statement.occursIn sql = false := by simp [Statement.occursIn, h]
  have hnone' : Statement.occursIn (squeezed sql) = false := by
    simp [Statement.occursIn, Statement.all_squeezed, h]
  rw [checkSchema, checkSchema, isAllBlank_squeezed, hnone, hnone']
  rfl

/-- **The outcome of a schema** whose elements stay what they are. -/
theorem checkSchema_squeezed {sql : Text} (h : ∀ s ∈ Statement.all sql, Statement.KeepsKinds s) :
    (checkSchema (squeezed sql)).tables = (checkSchema sql).tables.map Table.squeezed ∧
      (checkSchema (squeezed sql)).errors.map (·.code) =
        (checkSchema sql).errors.map (·.code) := by
  by_cases hnone : Statement.all sql = []
  · rw [checkSchema_squeezed_of_none hnone, (checkSchema_of_all_eq_nil hnone).1]
    exact ⟨rfl, rfl⟩
  · have hsome : Statement.all (squeezed sql) ≠ [] := by
      rwa [Statement.all_squeezed, Ne, List.map_eq_nil_iff]
    rw [checkSchema_of_statements hnone, checkSchema_of_statements hsome, Statement.all_squeezed]
    simp only [Report.ofFindings, List.flatMap_map, List.map_flatMap]
    exact ⟨List.flatMap_congr fun s hs => (checkStatement_squeezed (h s hs)).1,
      List.flatMap_congr fun s hs => (checkStatement_squeezed (h s hs)).2⟩

/-! ### Counting columns

An element that becomes a table constraint is no longer counted as a column: it is neither a column
of a table nor an error of one.  So the outline tells whether there is such an element. -/

/-- How many elements the tables and errors of some statements count as columns.  A table counts
for one more, as does the error that stands for a table without columns. -/
def columnCount (tables : List Table) (errors : List Finding) : Nat :=
  (tables.map fun table => table.columns.length + 1).sum + (columnFindings errors).length

theorem columnCount_congr {tables tables' : List Table} {errors errors' : List Finding}
    (htables : tables.map (·.columns.length) = tables'.map (·.columns.length))
    (herrors : errors.map (·.code) = errors'.map (·.code)) :
    columnCount tables errors = columnCount tables' errors' := by
  have hsplit : ∀ (ts : List Table) (es : List Finding), columnCount ts es =
      ((ts.map (·.columns.length)).map (· + 1)).sum +
        ((es.map (·.code)).filter (· != .invalidConstraintSyntax)).length := by
    intro ts es
    rw [columnCount, columnFindings, List.map_map, List.filter_map, List.length_map]
    rfl
  rw [hsplit, hsplit, htables, herrors]

/-- The count of some statements is the sum of their counts. -/
theorem columnCount_flatMap (statements : List Text) :
    columnCount (statements.flatMap fun s => (checkStatement s).tables)
        (statements.flatMap fun s => (checkStatement s).errors) =
      (statements.map fun s =>
        columnCount (checkStatement s).tables (checkStatement s).errors).sum := by
  induction statements with
  | nil => rfl
  | cons s statements ih =>
    rw [List.map_cons, List.sum_cons, ← ih]
    simp only [columnCount, columnFindings, List.flatMap_cons, List.map_append, List.sum_append,
      List.filter_append, List.length_append]
    omega

/-- A table counts the elements that are not taken for constraints. -/
theorem columnCount_checkTable (name body : Text) :
    columnCount (checkTable name body).tables (checkTable name body).errors =
      (checkedElements body).countP (!TableConstraint.isOne ·) + 1 := by
  have hlength := length_tableColumns_add name (checkedElements body)
  have hcount : (checkedElements body).length =
      ((checkedElements body).filter TableConstraint.isOne).length +
        (checkedElements body).countP (!TableConstraint.isOne ·) := by
    rw [List.length_eq_countP_add_countP TableConstraint.isOne, List.countP_eq_length_filter]
    simp
  rw [checkTable_eq]
  split
  -- where no column is left, the error that says so counts instead
  · next hnone =>
    have herror : (columnFindings [noColumnsFinding name]).length = 1 := rfl
    rw [hnone, List.length_nil] at hlength
    rw [columnFindings] at hlength herror
    rw [columnCount, List.map_nil, List.sum_nil, columnFindings, List.filter_append,
      List.length_append, herror]
    omega
  · rw [columnCount, List.map_singleton, List.sum_singleton]
    dsimp only
    omega

/-- How many elements the check of a statement counts as columns. -/
def Statement.columnCount (s : Text) : Nat :=
  SchemaIntake.columnCount (checkStatement s).tables (checkStatement s).errors

namespace Statement

theorem columnCount_squeezed {s : Text} (h : KeepsKinds s) :
    columnCount (squeezed s) = columnCount s := by
  obtain ⟨htables, herrors⟩ := checkStatement_squeezed h
  refine columnCount_congr ?_ herrors
  rw [htables, List.map_map]
  exact List.map_congr_left fun table _ => List.length_map _

/-- A statement that gets as far as its elements counts those that are not taken for constraints. -/
theorem columnCount_of_isAdmitted {s name : Text} (h : IsAdmitted s name) :
    columnCount s = (checkedElements (body s)).countP (!TableConstraint.isOne ·) + 1 := by
  rw [columnCount, checkStatement_of_isAdmitted h, columnCount_checkTable]

/-- Squeezing makes no columns out of elements, and if it leaves as many, it makes no table
constraints either. -/
theorem countP_squeezed_le (elements : List Text) :
    elements.countP (fun e => !TableConstraint.isOne (squeezed e)) ≤
        elements.countP (!TableConstraint.isOne ·) ∧
      (elements.countP (!TableConstraint.isOne ·) ≤
          elements.countP (fun e => !TableConstraint.isOne (squeezed e)) →
        SchemaIntake.KeepsKinds elements) := by
  have hweaker : ∀ e, (!TableConstraint.isOne (squeezed e)) = true →
      (!TableConstraint.isOne e) = true := by
    intro e he
    rw [Bool.not_eq_true', Bool.eq_false_iff] at he ⊢
    exact mt TableConstraint.isOne_squeezed he
  refine ⟨List.countP_mono_left fun e _ => hweaker e, fun hle e he hone => ?_⟩
  rw [List.countP_eq_length_filter, List.countP_eq_length_filter] at hle
  have hsame := (List.monotone_filter_right elements hweaker).eq_of_length_le hle
  by_contra hcolumn
  -- it is counted on one side only
  have hmem : e ∈ elements.filter (!TableConstraint.isOne ·) :=
    List.mem_filter.mpr ⟨he, by simpa using hcolumn⟩
  rw [← hsame, List.mem_filter] at hmem
  simp [hone] at hmem

/-- **Squeezing makes no columns**, and if it makes no table constraints either, the elements stay
what they are. -/
theorem columnCount_squeezed_le (s : Text) : columnCount (squeezed s) ≤ columnCount s ∧
    (columnCount s ≤ columnCount (squeezed s) → KeepsKinds s) := by
  by_cases hadmitted : ∃ name, IsAdmitted s name
  · obtain ⟨name, hname⟩ := hadmitted
    rw [columnCount_of_isAdmitted hname,
      columnCount_of_isAdmitted (isAdmitted_squeezed_iff.mpr hname), body_squeezed,
      checkedElements_squeezed, List.countP_map]
    obtain ⟨hle, hkeeps⟩ := countP_squeezed_le (checkedElements (body s))
    refine ⟨Nat.add_le_add_right hle 1, fun hge name' hname' => ?_⟩
    exact hkeeps (Nat.le_of_add_le_add_right hge)
  · have hkinds : KeepsKinds s := fun name hname => absurd ⟨name, hname⟩ hadmitted
    exact ⟨(columnCount_squeezed hkinds).le, fun _ => hkinds⟩

end Statement

/-- The tables and errors of a report count the elements of all statements. -/
theorem columnCount_checkSchema {sql : Text} (h : Statement.all sql ≠ []) :
    columnCount (checkSchema sql).tables (checkSchema sql).errors =
      ((Statement.all sql).map Statement.columnCount).sum := by
  rw [checkSchema_of_statements h]
  exact columnCount_flatMap _

/-- **Where squeezing leaves the outline, every element stays what it is.** -/
theorem keepsKinds_of_outline_squeezed {sql : Text}
    (h : (checkSchema (squeezed sql)).outline = (checkSchema sql).outline) :
    ∀ s ∈ Statement.all sql, Statement.KeepsKinds s := by
  intro s hs
  have hne := List.ne_nil_of_mem hs
  obtain ⟨htables, herrors⟩ := outline_checkSchema_eq_iff.mp h
  have hlengths : (checkSchema (squeezed sql)).tables.map (·.columns.length) =
      (checkSchema sql).tables.map (·.columns.length) := by
    have houtlines := congrArg (List.map fun outline => outline.columns.length) htables
    simpa [Table.outline, Function.comp_def] using houtlines
  have hsum : ((Statement.all sql).map fun s => Statement.columnCount (squeezed s)).sum =
      ((Statement.all sql).map Statement.columnCount).sum := by
    have hcount := columnCount_congr hlengths herrors
    rw [columnCount_checkSchema hne, columnCount_checkSchema, Statement.all_squeezed,
      List.map_map] at hcount
    · exact hcount
    · rwa [Statement.all_squeezed, Ne, List.map_eq_nil_iff]
  -- no statement counts more once it is squeezed, so with the same sum none counts less
  refine (Statement.columnCount_squeezed_le s).2 ?_
  by_contra hlt
  have hless := List.sum_lt_sum _ _ (fun s _ => (Statement.columnCount_squeezed_le s).1)
    ⟨s, hs, Nat.lt_of_not_le hlt⟩
  exact absurd hsum hless.ne

/-! ### Even spacing -/

/-- **One space for every run of separators** leaves the outline exactly of the evenly spaced
schemas. -/
theorem outline_squeezed_iff (sql : Text) :
    (checkSchema (squeezed sql)).outline = (checkSchema sql).outline ↔ IsEvenlySpaced sql := by
  constructor
  · intro h
    -- once the elements are known to stay what they are, only the flags can differ
    have hkinds := keepsKinds_of_outline_squeezed h
    have htables := (outline_checkSchema_eq_iff.mp h).1
    rw [(checkSchema_squeezed hkinds).1, List.map_map, List.map_inj_left] at htables
    exact ⟨hkinds, fun table htable =>
      (outline_squeezed_iff_of_mem_tables htable).mp (htables table htable)⟩
  · intro h
    obtain ⟨htables, herrors⟩ := checkSchema_squeezed h.kinds
    refine outline_checkSchema_eq_iff.mpr ⟨?_, herrors⟩
    rw [htables, List.map_map, List.map_inj_left]
    exact fun table htable => (outline_squeezed_iff_of_mem_tables htable).mpr (h.keys table htable)

/-- One space for every run is an even spacing. -/
theorem isEvenlySpaced_squeezed (sql : Text) : IsEvenlySpaced (squeezed sql) := by
  rw [← outline_squeezed_iff, squeezed_squeezed]

/-- **What replacing a run of separators does to the outline** of the report on a schema.  With one
space for every run each schema is evenly spaced, and that outline is the one of every evenly
spaced way to write it, and of no other one.  So if a schema is evenly spaced, replacing a run by
another leaves its outline exactly if it is still evenly spaced. -/
theorem outline_of_respaced {run run' : Text} (hne : run ≠ [])
    (hrun : run.all isSeparator = true) (hne' : run' ≠ []) (hrun' : run'.all isSeparator = true)
    (before after : Text) :
    let a := before ++ run ++ after
    let b := before ++ run' ++ after
    IsEvenlySpaced (squeezed a) ∧
      ((checkSchema (squeezed a)).outline = (checkSchema a).outline ↔ IsEvenlySpaced a) ∧
      (IsEvenlySpaced a →
        ((checkSchema b).outline = (checkSchema a).outline ↔ IsEvenlySpaced b)) := by
  intro a b
  have hsqueezed : squeezed a = squeezed b := squeezed_replace hne hrun hne' hrun' before after
  refine ⟨isEvenlySpaced_squeezed a, outline_squeezed_iff a, fun ha => ?_⟩
  rw [← outline_squeezed_iff b, ← hsqueezed, (outline_squeezed_iff a).mpr ha]
  exact eq_comm

/-- A tab and two line feeds between the name of a column and its type, or one space: a column with
a primary key and a constraint either way. -/
theorem outline_respaced_between_name_and_type :
    let before := "CREATE TABLE t (\r\n  id".toList
    let after := "INT PRIMARY KEY,\n  CHECK (id > 0)\n);".toList
    let a := before ++ "\t\n\n".toList ++ after
    let b := before ++ " ".toList ++ after
    IsEvenlySpaced a ∧ IsEvenlySpaced b ∧ a ≠ b ∧
      (checkSchema b).outline = (checkSchema a).outline ∧
      (checkSchema b).outline =
        ⟨true, [⟨['t'], [(['i', 'd'], ['i', 'n', 't'])], 1, true⟩], [], []⟩ := by
  intro before after a b
  have ha : IsEvenlySpaced a := by
    have hkinds : ∀ s ∈ Statement.all a, KeepsKinds (checkedElements (Statement.body s)) := by
      decide +kernel
    exact ⟨fun s hs _ _ => hkinds s hs, by decide +kernel⟩
  have hb : IsEvenlySpaced b := by
    have hkinds : ∀ s ∈ Statement.all b, KeepsKinds (checkedElements (Statement.body s)) := by
      decide +kernel
    exact ⟨fun s hs _ _ => hkinds s hs, by decide +kernel⟩
  have hrespaced := outline_of_respaced (show "\t\n\n".toList ≠ [] by decide) (by decide)
    (show " ".toList ≠ [] by decide) (by decide) before after
  exact ⟨ha, hb, by decide +kernel, (hrespaced.2.2 ha).mpr hb, by decide +kernel⟩

/-- With two spaces between its words a primary key is read as a column of an unknown type; with a
tab between them it is not seen in a column, and there is a warning. -/
theorem outline_changed_by_one_run :
    let key (run : Text) := "CREATE TABLE t (id INT, PRIMARY".toList ++ run ++ "KEY (id));".toList
    let column (run : Text) := "CREATE TABLE t (id INT PRIMARY".toList ++ run ++ "KEY);".toList
    let id : Text × Text := (['i', 'd'], ['i', 'n', 't'])
    (checkSchema (key " ".toList)).outline = ⟨true, [⟨['t'], [id], 1, true⟩], [], []⟩ ∧
      (checkSchema (key "  ".toList)).outline =
        ⟨false, [⟨['t'], [id], 0, false⟩], [.invalidDataType], [.noPrimaryKey]⟩ ∧
      (checkSchema (column " ".toList)).outline = ⟨true, [⟨['t'], [id], 0, true⟩], [], []⟩ ∧
      (checkSchema (column "\t".toList)).outline =
        ⟨true, [⟨['t'], [id], 0, false⟩], [], [.noPrimaryKey]⟩ := by
  decide +kernel

end SchemaIntake
