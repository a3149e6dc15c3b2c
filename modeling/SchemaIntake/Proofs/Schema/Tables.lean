import SchemaIntake.Proofs.Ddl.Columns
import SchemaIntake.Proofs.Schema.Verdicts
import SchemaIntake.Proofs.Text.LetterCase

/-!
# The tables of a report

Every table that is reported can be relied on.  Its names are valid, its columns have names that
stay different in any case, and each of them is what its text defines when it is read once more.
Types are reported by the names of the catalog, which normalizing leaves alone although it does not
leave alone everything that it gives.  So looking a column up by any spelling of its name finds
that column and no other.

## Main definitions

* `Column.IsSound`, `Table.IsSound` — what can be relied on.

## Main results

* `DataType.normalize_normalize` — a known type is normalized once and for all.
* `pairwise_tableColumns` — no two columns of a table have one name.
* `Table.IsSound.column?_eq_some_iff` — what looking a column up finds.
* `tables_isSound` — **every table of a report is sound**, and what looking a table up finds.
-/

namespace SchemaIntake

open Text

/-! ### Types of the catalog -/

namespace DataType

/-- The names of the catalog are normalized. -/
theorem normalize_of_mem_catalog {entry : Text × Category} (h : entry ∈ catalog) :
    normalize entry.1 = entry.1 := by
  have hall : ∀ entry ∈ catalog, normalize entry.1 = entry.1 := by decide +kernel
  exact hall entry h

/-- A known type has its base name in the catalog, with its category. -/
theorem exists_mem_catalog_of_isKnown {written : Text} (h : isKnown written = true) :
    ∃ category, category? written = some category ∧ (normalize written, category) ∈ catalog := by
  rw [isKnown, Bool.and_eq_true, Option.isSome_iff_exists] at h
  obtain ⟨-, category, hcategory⟩ := h
  have hlookup := hcategory
  rw [category?] at hlookup
  obtain ⟨before, after, hsplit, -⟩ := List.lookup_eq_some_iff.mp hlookup
  exact ⟨category, hcategory, by rw [hsplit]; simp⟩

/-- **A known type is normalized once and for all.** -/
theorem normalize_normalize {written : Text} (h : isKnown written = true) :
    normalize (normalize written) = normalize written := by
  obtain ⟨category, -, hmem⟩ := exists_mem_catalog_of_isKnown h
  exact normalize_of_mem_catalog hmem

end DataType

/-! ### Columns -/

/-- A column as it is reported: its name is valid, and its text still defines it. -/
structure Column.IsSound (column : Column) : Prop where
  validName : Identifier.isValid column.name = true
  /-- The text defines a column of this name and this base type, whose type as it is written is of
  the same category as the base type. -/
  rereads : ∃ definition, ColumnDefinition.read column.raw = .ok definition ∧
    definition.name = column.name ∧ definition.type.baseName = column.dataType ∧
      DataType.category? definition.type.raw = DataType.category? column.dataType
  /-- The base type is in the catalog and found there. -/
  known : ∃ category, (column.dataType, category) ∈ DataType.catalog ∧
    DataType.category? column.dataType = some category
  /-- Normalizing does not change the base type. -/
  normal : DataType.normalize column.dataType = column.dataType

/-- What an accepted element becomes is sound. -/
theorem ColumnDefinition.isSound_of_read {element : Text} {definition : ColumnDefinition}
    (h : read element = .ok definition) :
    Column.IsSound ⟨definition.name, definition.type.baseName, element⟩ := by
  obtain ⟨-, -, -, -, hknown, -, hvalid, -⟩ := ColumnDefinition.exists_of_read h
  obtain ⟨category, hcategory, hmem⟩ := DataType.exists_mem_catalog_of_isKnown hknown
  have hnormal : DataType.normalize definition.type.baseName = definition.type.baseName :=
    DataType.normalize_normalize hknown
  have hsame : DataType.category? definition.type.raw =
      DataType.category? definition.type.baseName := by
    rw [DataType.category?, DataType.category?, hnormal]
    rfl
  exact ⟨hvalid, ⟨definition, h, rfl, rfl, hsame⟩, ⟨category, hmem, hsame.symm.trans hcategory⟩,
    hnormal⟩

/-- **No two columns of a table have one name**, its case left aside: a name that a column has is
taken. -/
theorem pairwise_tableColumns (elements : List Text) :
    (tableColumns elements).Pairwise fun a b => lower a.name ≠ lower b.name := by
  induction elements using List.reverseRecOn with
  | nil => exact .nil
  | append_singleton elements element ih =>
    rw [tableColumns_concat]
    cases hcolumn : (Verdict.of elements element).column? element with
    | none => rwa [Option.toList_none, List.append_nil]
    | some column =>
      obtain ⟨hone, definition, hread, rfl⟩ := Verdict.exists_of_column? hcolumn
      -- a name that is taken would have made the column a repeated one
      have hfree : isTaken elements definition.name = false := by
        rw [Verdict.of_ok elements hone hread] at hcolumn
        cases htaken : isTaken elements definition.name with
        | false => rfl
        | true => simp [htaken, Verdict.column?] at hcolumn
      rw [← any_tableColumns, List.any_eq_false] at hfree
      refine List.pairwise_append.mpr ⟨ih, List.pairwise_singleton _ _, fun earlier hearlier => ?_⟩
      simpa using hfree earlier hearlier

/-! ### Tables -/

/-- A table as it is reported. -/
structure Table.IsSound (table : Table) : Prop where
  validName : Identifier.isValid table.name = true
  columns_ne_nil : table.columns ≠ []
  /-- No two columns have one name, its case left aside. -/
  distinct : table.columns.Pairwise fun a b => lower a.name ≠ lower b.name
  columns : ∀ column ∈ table.columns, column.IsSound

/-- **Looking a column up** by any spelling of its name finds that column, and nothing else is
found. -/
theorem Table.IsSound.column?_eq_some_iff {table : Table} (h : table.IsSound) {name : Text}
    {column : Column} : table.column? name = some column ↔
      column ∈ table.columns ∧ sameLetters column.name name = true := by
  constructor
  · intro hfound
    rw [column?] at hfound
    exact ⟨List.mem_of_find?_eq_some hfound, by simpa using List.find?_some hfound⟩
  · rintro ⟨hmem, hname⟩
    obtain ⟨before, after, hsplit⟩ := List.append_of_mem hmem
    refine List.find?_eq_some_iff_append.mpr
      ⟨hname, before, after, hsplit, fun earlier hearlier => ?_⟩
    -- an earlier column of that name would have the same lower case
    have hdistinct := h.distinct
    rw [hsplit] at hdistinct
    have hne := (List.pairwise_append.mp hdistinct).2.2 earlier hearlier column (by simp)
    rw [Bool.not_eq_true', Bool.eq_false_iff]
    intro hsame
    exact hne ((lower_eq_of_sameLetters hsame).trans (lower_eq_of_sameLetters hname).symm)

/-- A table of a report is sound. -/
theorem isSound_of_mem_tables {sql : Text} {table : Table}
    (h : table ∈ (checkSchema sql).tables) : table.IsSound := by
  obtain ⟨s, -, name, hadmitted, htable⟩ := exists_isAdmitted_of_mem_tables h
  have hcolumns : tableColumns (checkedElements (Statement.body s)) ≠ [] := by
    intro hnone
    rw [checkTable_eq, if_pos hnone] at htable
    exact absurd htable List.not_mem_nil
  obtain rfl := eq_of_mem_tables_checkTable htable
  refine ⟨hadmitted.validName, hcolumns, pairwise_tableColumns _, fun column hcolumn => ?_⟩
  obtain ⟨-, -, definition, hread, heq⟩ := exists_of_mem_tableColumns hcolumn
  rw [heq]
  exact ColumnDefinition.isSound_of_read hread

/-- **Every table of a report is sound.**  Its columns are found by their names, whatever the case
of their letters, and by nothing else; and of several tables of one name the first one is found. -/
theorem tables_isSound (sql : Text) :
    (∀ table ∈ (checkSchema sql).tables, table.IsSound ∧
      ∀ name column, table.column? name = some column ↔
        column ∈ table.columns ∧ sameLetters column.name name = true) ∧
    ∀ name table, (checkSchema sql).table? name = some table ↔
      ∃ before after, (checkSchema sql).tables = before ++ table :: after ∧
        sameLetters table.name name = true ∧
          ∀ earlier ∈ before, sameLetters earlier.name name = false := by
  refine ⟨fun table htable => ?_, fun name table => ?_⟩
  · have hsound := isSound_of_mem_tables htable
    exact ⟨hsound, fun name column => hsound.column?_eq_some_iff⟩
  · rw [Report.table?, List.find?_eq_some_iff_append]
    constructor
    · rintro ⟨hname, before, after, hsplit, hearlier⟩
      exact ⟨before, after, hsplit, hname, by simpa using hearlier⟩
    · rintro ⟨before, after, hsplit, hname, hearlier⟩
      exact ⟨hname, before, after, hsplit, by simpa using hearlier⟩

/-- Two tables of one name, the first of them with a quoted name, a type of two words and an array
of a type with a precision. -/
theorem found_in_tables_of_one_name :
    let sql := "CREATE TABLE t (\"Id\" DOUBLE\tPRECISION, ".toList ++
      "n NUMERIC(5, 2)[]);".toList ++ "CREATE TABLE T (id INT);".toList
    let first : Table := ⟨['t'], [⟨"Id".toList, "double precision".toList,
      "\"Id\" DOUBLE\tPRECISION".toList⟩, ⟨['n'], "numeric".toList, "n NUMERIC(5, 2)[]".toList⟩],
      [], false⟩
    first ∈ (checkSchema sql).tables ∧ first.IsSound ∧
      first.column? "iD".toList = some ⟨"Id".toList, "double precision".toList,
        "\"Id\" DOUBLE\tPRECISION".toList⟩ ∧
      (checkSchema sql).table? ['T'] = some first := by
  intro sql first
  have hmem : first ∈ (checkSchema sql).tables := by decide +kernel
  obtain ⟨hsound, htables⟩ := tables_isSound sql
  obtain ⟨hfirst, hcolumns⟩ := hsound first hmem
  refine ⟨hmem, hfirst, (hcolumns _ _).mpr (by decide +kernel), (htables _ _).mpr ?_⟩
  exact ⟨[], (checkSchema sql).tables.tail, by decide +kernel, by decide +kernel, by simp⟩

end SchemaIntake
