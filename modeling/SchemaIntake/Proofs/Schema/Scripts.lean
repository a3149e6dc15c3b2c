import SchemaIntake.Proofs.Ddl.Elements
import SchemaIntake.Proofs.Ddl.Statements
import SchemaIntake.Proofs.Schema.Verdicts

/-!
# Scripts that define tables

A list of described tables is written down as a script, one statement a line.  If the elements
of every table stand alone and are accepted one by one, the report on the script gives the
described tables back: neither the writing nor the reading leaves anything of one element or of
one statement to the next.

## Main definitions

* `TableDescription`, `TableDescription.IsWellFormed` — the tables that can be written down.
* `script ts` — the text that defines the tables `ts`.

## Main results

* `all_script` — the statements of a script.
* `findings_columns_of_accepted` — elements that are accepted one by one are accepted together.
* `checkSchema_script` — **the report on a script gives the tables back**.
-/

namespace SchemaIntake

open Text

/-! ### Described tables -/

/-- A table as it is to be defined. -/
structure TableDescription where
  /-- The name, without quotes. -/
  name : Text
  /-- The columns and table constraints as they are to be written, in order. -/
  elements : List Text
deriving DecidableEq, Repr

/-- The element is accepted when it is looked at on its own, as a table constraint if it opens
like one and as a column otherwise. -/
def IsAcceptedAlone (element : Text) : Prop :=
  if TableConstraint.isOne element then ∃ kind, TableConstraint.check element = .ok kind
  else ∃ column, ColumnDefinition.read element = .ok column

instance (element : Text) : Decidable (IsAcceptedAlone element) :=
  decidable_of_iff (if TableConstraint.isOne element
      then (TableConstraint.check element).isOk = true
      else (ColumnDefinition.read element).isOk = true) <| by
    rw [IsAcceptedAlone]
    cases TableConstraint.check element <;> cases ColumnDefinition.read element <;>
      simp [Except.isOk, Except.toBool]

/-- The column of a table that an element defines, its text included. -/
def writtenColumn? (element : Text) : Option Column :=
  (definedColumn? element).map fun column => ⟨column.name, column.type.baseName, element⟩

namespace TableDescription

/-- The statement that defines a table. -/
def statement (t : TableDescription) : Text :=
  Statement.plain t.name (join ", ".toList t.elements)

/-- The table that is described: a column for each element that defines one, and the table
constraints. -/
def table (t : TableDescription) : Table where
  name := t.name
  columns := t.elements.filterMap writtenColumn?
  constraints := t.elements.filter TableConstraint.isOne
  hasPrimaryKey := t.elements.any mentionsPrimaryKey

/-- A description that can be written down and read back. -/
structure IsWellFormed (t : TableDescription) : Prop where
  /-- The name needs no quotes. -/
  plainName : Statement.IsPlainName t.name
  /-- Every element is found again between two commas. -/
  standsAlone : ∀ e ∈ t.elements, StandsAlone e
  /-- No element ends the statement. -/
  noSemicolon : ∀ e ∈ t.elements, ';' ∉ e
  accepted : ∀ e ∈ t.elements, IsAcceptedAlone e
  /-- No two columns have one name, its case left aside. -/
  distinct : (t.elements.filterMap definedColumn?).Pairwise fun a b => lower a.name ≠ lower b.name
  hasColumn : ∃ e ∈ t.elements, TableConstraint.isOne e = false

instance (t : TableDescription) : Decidable t.IsWellFormed :=
  decidable_of_iff (Statement.IsPlainName t.name ∧
      (∀ e ∈ t.elements, StandsAlone e ∧ ';' ∉ e ∧ IsAcceptedAlone e) ∧
      ((t.elements.filterMap definedColumn?).Pairwise fun a b => lower a.name ≠ lower b.name) ∧
      ∃ e ∈ t.elements, TableConstraint.isOne e = false)
    ⟨fun ⟨hname, h, hdistinct, hcolumn⟩ => ⟨hname, fun e he => (h e he).1,
        fun e he => (h e he).2.1, fun e he => (h e he).2.2, hdistinct, hcolumn⟩,
      fun h => ⟨h.plainName, fun e he => ⟨h.standsAlone e he, h.noSemicolon e he,
        h.accepted e he⟩, h.distinct, h.hasColumn⟩⟩

theorem IsWellFormed.elements_ne_nil {t : TableDescription} (h : t.IsWellFormed) :
    t.elements ≠ [] := by
  obtain ⟨e, he, -⟩ := h.hasColumn
  exact List.ne_nil_of_mem he

end TableDescription

/-- The text that defines some tables, one a line. -/
def script (ts : List TableDescription) : Text :=
  join ['\n'] (ts.map TableDescription.statement)

/-! ### The statements of a script -/

theorem not_mem_join {c : Char} {separator : Text} {ps : List Text} (hseparator : c ∉ separator)
    (h : ∀ p ∈ ps, c ∉ p) : c ∉ join separator ps := by
  induction ps with
  | nil => exact List.not_mem_nil
  | cons p ps ih =>
    cases ps with
    | nil =>
      rw [join, List.intercalate_singleton]
      exact h p (by simp)
    | cons q ps =>
      have hp := h p (by simp)
      have hrest := ih fun x hx => h x (List.mem_cons_of_mem p hx)
      rw [join_cons_cons]
      simp [hp, hseparator, hrest]

/-- The elements of a table hold the semicolon neither alone nor together. -/
theorem TableDescription.IsWellFormed.semicolon_not_mem {t : TableDescription}
    (h : t.IsWellFormed) : ';' ∉ join ", ".toList t.elements :=
  not_mem_join (by decide) h.noSemicolon

/-- No statement opens with a line break. -/
theorem not_opens_newline (t : Text) : Statement.opens ('\n' :: t) = false := by
  simp [Statement.opens, Header.opening?, Header.keyword?, Header.folds]

/-- **The statements of a script** are those it was written from. -/
theorem all_script {ts : List TableDescription} (h : ∀ t ∈ ts, t.IsWellFormed) :
    Statement.all (script ts) = ts.map TableDescription.statement := by
  induction ts with
  | nil => rw [script, List.map_nil, join, List.intercalate_nil, Statement.all]
  | cons t ts ih =>
    have ht := h t (by simp)
    have hrest := ih fun x hx => h x (List.mem_cons_of_mem t hx)
    have hfirst (rest : Text) : Statement.all (t.statement ++ rest) =
        t.statement :: Statement.all rest :=
      Statement.all_plain_append ht.plainName ht.semicolon_not_mem rest
    cases ts with
    | nil =>
      rw [script, List.map_cons, List.map_nil, join, List.intercalate_singleton]
      have honly := hfirst []
      rwa [List.append_nil, Statement.all] at honly
    | cons t' ts =>
      -- the line break between two statements opens none
      rw [script, List.map_cons, List.map_cons, join_cons_cons, List.append_assoc, hfirst,
        List.singleton_append, Statement.all_cons_of_not_opens (not_opens_newline _)]
      rw [script, List.map_cons] at hrest
      rw [hrest]

/-! ### Elements that are accepted one by one -/

/-- Every accepted element is a table constraint or defines a column. -/
theorem IsAcceptedAlone.cases {element : Text} (h : IsAcceptedAlone element) :
    (TableConstraint.isOne element = true ∧ TableConstraint.fault? element = none) ∨
      (TableConstraint.isOne element = false ∧
        ∃ column, ColumnDefinition.read element = .ok column) := by
  rw [IsAcceptedAlone] at h
  split at h
  · next hone =>
    obtain ⟨kind, hkind⟩ := h
    exact Or.inl ⟨hone, by rw [TableConstraint.fault?, hkind]⟩
  · next hone => exact Or.inr ⟨by simpa using hone, h⟩

theorem writtenColumn?_of_ok {element : Text} (hone : TableConstraint.isOne element = false)
    {column : ColumnDefinition} (hread : ColumnDefinition.read element = .ok column) :
    writtenColumn? element = some ⟨column.name, column.type.baseName, element⟩ := by
  rw [writtenColumn?, definedColumn?_of_ok hone hread, Option.map_some]

/-- A name that no column has is not taken. -/
theorem isTaken_eq_false {earlier : List Text} {name : Text}
    (h : ∀ column ∈ earlier.filterMap definedColumn?, lower column.name ≠ lower name) :
    isTaken earlier name = false := by
  rw [isTaken, List.any_eq_false]
  intro element helement
  cases hcolumn : definedColumn? element with
  | none => simp
  | some column => simpa using h column (List.mem_filterMap.mpr ⟨element, helement, hcolumn⟩)

/-- The verdict on an accepted element whose name is free reports nothing and keeps the column
that the element defines. -/
theorem verdict_of_accepted {earlier : List Text} {element : Text} (h : IsAcceptedAlone element)
    (hfree : ∀ column, definedColumn? element = some column → isTaken earlier column.name = false)
    (table : Text) : (Verdict.of earlier element).finding? table element = none ∧
      (Verdict.of earlier element).column? element = writtenColumn? element := by
  rcases h.cases with ⟨hone, hfault⟩ | ⟨hone, column, hread⟩
  · rw [Verdict.of_constraint earlier hone, hfault, writtenColumn?, definedColumn?, if_pos hone]
    exact ⟨rfl, rfl⟩
  · rw [Verdict.of_ok earlier hone hread, hfree column (definedColumn?_of_ok hone hread),
      writtenColumn?_of_ok hone hread]
    exact ⟨rfl, rfl⟩

/-- **Elements that are accepted one by one are accepted together**, if no two columns have one
name. -/
theorem findings_columns_of_accepted (table : Text) {elements : List Text}
    (h : ∀ e ∈ elements, IsAcceptedAlone e)
    (hdistinct : (elements.filterMap definedColumn?).Pairwise
      fun a b => lower a.name ≠ lower b.name) :
    elementFindings table elements = [] ∧
      tableColumns elements = elements.filterMap writtenColumn? := by
  induction elements using List.reverseRecOn with
  | nil => exact ⟨rfl, rfl⟩
  | append_singleton elements element ih =>
    rw [List.filterMap_append, List.pairwise_append] at hdistinct
    -- the last element defines no column, or one of a new name
    obtain ⟨hdistinct, -, hlast⟩ := hdistinct
    obtain ⟨hfindings, hcolumns⟩ := ih (fun e he => h e (by simp [he])) hdistinct
    have hfree : ∀ column, definedColumn? element = some column →
        isTaken elements column.name = false := by
      intro column hcolumn
      exact isTaken_eq_false fun a ha => hlast a ha column (by simp [hcolumn])
    obtain ⟨hfinding, hcolumn⟩ := verdict_of_accepted (h element (by simp)) hfree table
    rw [elementFindings_concat, tableColumns_concat, hfindings, hcolumns, hfinding, hcolumn,
      List.filterMap_append]
    refine ⟨rfl, ?_⟩
    cases hwritten : writtenColumn? element <;> simp [hwritten]

/-! ### The report on a script -/

namespace TableDescription.IsWellFormed

variable {t : TableDescription} (h : t.IsWellFormed)

include h

theorem tableColumns_eq : tableColumns t.elements = t.table.columns :=
  (findings_columns_of_accepted t.name h.accepted h.distinct).2

theorem columns_ne_nil : t.table.columns ≠ [] := by
  obtain ⟨e, he, hone⟩ := h.hasColumn
  rcases (h.accepted e he).cases with ⟨htrue, -⟩ | ⟨-, column, hread⟩
  · exact absurd (hone.symm.trans htrue) (by simp)
  · exact List.ne_nil_of_mem (List.mem_filterMap.mpr ⟨e, he, writtenColumn?_of_ok hone hread⟩)

/-- Every element of the table is kept, and so are the words in it. -/
theorem keepsMention_eq : keepsMention t.elements = t.elements.any mentionsPrimaryKey := by
  rw [keepsMention, h.tableColumns_eq, Bool.eq_iff_iff, Bool.or_eq_true, List.any_eq_true,
    List.any_eq_true, List.any_eq_true]
  constructor
  · rintro (⟨column, hcolumn, hmention⟩ | ⟨e, he, hmention⟩)
    · obtain ⟨e, he, hwritten⟩ := List.mem_filterMap.mp hcolumn
      obtain ⟨c, -, rfl⟩ := Option.map_eq_some_iff.mp hwritten
      exact ⟨e, he, hmention⟩
    · exact ⟨e, List.mem_of_mem_filter he, hmention⟩
  · rintro ⟨e, he, hmention⟩
    rcases (h.accepted e he).cases with ⟨hone, -⟩ | ⟨hone, column, hread⟩
    · exact Or.inr ⟨e, List.mem_filter.mpr ⟨he, hone⟩, hmention⟩
    · exact Or.inl ⟨_, List.mem_filterMap.mpr ⟨e, he, writtenColumn?_of_ok hone hread⟩, hmention⟩

/-- The statement of a described table is admitted. -/
theorem isAdmitted : Statement.IsAdmitted t.statement t.name where
  noTrailingText := Statement.hasTrailingText_plain
  named := Statement.tableName?_plain h.plainName
  validName := h.plainName.isValid
  hasBody := by
    rw [statement, Statement.body_plain h.plainName, trim_join h.elements_ne_nil h.standsAlone]
    intro hnil
    have helements := checkedElements_join h.elements_ne_nil h.standsAlone
    rw [hnil] at helements
    exact h.elements_ne_nil helements.symm

/-- **The statement of a described table gives the table**, and no error. -/
theorem checkStatement_eq : (checkStatement t.statement).tables = [t.table] ∧
    (checkStatement t.statement).errors = [] := by
  have hbody : checkedElements (Statement.body t.statement) = t.elements := by
    rw [statement, Statement.body_plain h.plainName, trim_join h.elements_ne_nil h.standsAlone,
      checkedElements_join h.elements_ne_nil h.standsAlone]
  have hfindings := (findings_columns_of_accepted t.name h.accepted h.distinct).1
  rw [checkStatement_of_isAdmitted h.isAdmitted, checkTable_eq, hbody, h.tableColumns_eq,
    if_neg h.columns_ne_nil, h.keepsMention_eq, hfindings]
  exact ⟨rfl, rfl⟩

end TableDescription.IsWellFormed

/-- **Round trip.**  The report on a script of well-formed tables is valid and gives exactly the
described tables, in order. -/
theorem checkSchema_script {ts : List TableDescription} (hne : ts ≠ [])
    (h : ∀ t ∈ ts, t.IsWellFormed) :
    (checkSchema (script ts)).isValid = true ∧ (checkSchema (script ts)).errors = [] ∧
      (checkSchema (script ts)).tables = ts.map TableDescription.table := by
  have hall := all_script h
  have htables : (ts.flatMap fun t => (checkStatement t.statement).tables) =
      ts.map TableDescription.table := by
    rw [List.map_eq_flatMap]
    exact List.flatMap_congr fun t ht => (h t ht).checkStatement_eq.1
  have herrors : (ts.flatMap fun t => (checkStatement t.statement).errors) = [] :=
    List.flatMap_eq_nil_iff.mpr fun t ht => (h t ht).checkStatement_eq.2
  rw [checkSchema_isValid, checkSchema_of_statements (by simpa [hall] using hne), hall]
  rw [List.flatMap_map, List.flatMap_map, herrors, htables]
  exact ⟨rfl, rfl, rfl⟩

/-- A script of two tables, the second of which has a table constraint and a type with a comma
in its parentheses. -/
theorem script_of_two_tables :
    let ts : List TableDescription :=
      [⟨"users".toList, ["id INT PRIMARY KEY".toList, "name VARCHAR(80) NOT NULL".toList]⟩,
        ⟨"_x9".toList, ["a DECIMAL(5,2)".toList, "UNIQUE (a)".toList]⟩]
    (∀ t ∈ ts, t.IsWellFormed) ∧ (checkSchema (script ts)).isValid = true ∧
      (checkSchema (script ts)).tables = ts.map TableDescription.table := by
  intro ts
  have hwell : ∀ t ∈ ts, t.IsWellFormed := by decide +kernel
  obtain ⟨hvalid, -, htables⟩ := checkSchema_script (List.cons_ne_nil _ _) hwell
  exact ⟨hwell, hvalid, htables⟩

end SchemaIntake
