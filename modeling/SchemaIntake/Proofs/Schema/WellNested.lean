import SchemaIntake.Proofs.Ddl.WellNested
import SchemaIntake.Proofs.Schema.PrimaryKeys

/-!
# The nesting of what a valid schema defines

Nothing in a schema is reported because of its nesting: a body is what stands between the first
and the last parenthesis of a statement, and a token with a parenthesis in it is accepted whatever
it holds.  So in a valid schema a parenthesis or a quote may be missing or too many, and what
follows may have been taken into one element.  What can be said is that all elements of a valid
table are kept, and that they are as well nested as the body is.

## Main results

* `map_raw_tableColumns` — where nothing is reported, every element that is no constraint becomes
  a column.
* `texts_of_valid_schema` — **the texts of a valid schema** are the elements of its bodies; all but
  the last of a table end with nothing open, and all are well nested exactly if the body is.
-/

namespace SchemaIntake

open Text

/-! ### Tables without errors -/

/-- Where nothing is reported, every element that is no constraint becomes a column. -/
theorem map_raw_tableColumns {table : Text} {elements : List Text}
    (h : elementFindings table elements = []) : (tableColumns elements).map (·.raw) =
      elements.filter fun element => !TableConstraint.isOne element := by
  induction elements using List.reverseRecOn with
  | nil => rfl
  | append_singleton elements element ih =>
    rw [elementFindings_concat, List.append_eq_nil_iff] at h
    obtain ⟨hearlier, hlast⟩ := h
    rw [tableColumns_concat, List.map_append, ih hearlier, List.filter_append]
    congr 1
    -- without a finding, an element that is no constraint has become a column
    cases hone : TableConstraint.isOne element with
    | true => simp [Verdict.of_constraint elements hone, Verdict.column?, hone]
    | false =>
      cases hread : ColumnDefinition.read element with
      | error fault =>
        simp [Verdict.of_rejected elements hone hread, Verdict.finding?] at hlast
      | ok column =>
        rw [Verdict.of_ok elements hone hread] at hlast ⊢
        cases htaken : isTaken elements column.name with
        | true => simp [htaken, Verdict.finding?] at hlast
        | false => simp [Verdict.column?, hone]

/-- Every table of a valid report comes from an admitted statement about which nothing is
reported. -/
theorem exists_isAdmitted_of_valid {sql : Text} {table : Table}
    (hvalid : (checkSchema sql).isValid = true) (h : table ∈ (checkSchema sql).tables) :
    ∃ s ∈ Statement.all sql, ∃ name, Statement.IsAdmitted s name ∧
      (checkStatement s).tables = [table] ∧
        elementFindings name (checkedElements (Statement.body s)) = [] := by
  obtain ⟨s, hs, name, hname, htable⟩ := exists_isAdmitted_of_mem_tables h
  have herrors : (checkTable name (Statement.body s)).errors = [] := by
    rw [checkSchema_isValid, checkSchema_of_statements (List.ne_nil_of_mem hs), List.isEmpty_iff]
      at hvalid
    rw [← checkStatement_of_isAdmitted hname]
    exact List.flatMap_eq_nil_iff.mp hvalid s hs
  refine ⟨s, hs, name, hname, ?_, ?_⟩
  · rw [checkStatement_of_isAdmitted hname]
    have heq := eq_of_mem_tables_checkTable htable
    rw [checkTable_eq] at htable ⊢
    split at htable
    · exact absurd htable List.not_mem_nil
    · next hcolumns => rw [if_neg hcolumns, heq]
  · rw [checkTable_eq] at herrors
    split at herrors
    · exact absurd herrors (by simp)
    · exact herrors

/-! ### Nesting -/

/-- **The texts of a valid schema.**  The columns and constraints of a table are all the elements
of the body of one statement.  Those that another one follows end with no parenthesis and no quote
open, and all of them are well nested exactly if the body is. -/
theorem texts_of_valid_schema {sql : Text} (h : (checkSchema sql).isValid = true) :
    ∀ table ∈ (checkSchema sql).tables, ∃ s ∈ Statement.all sql,
      (checkStatement s).tables = [table] ∧
      table.texts.Perm (checkedElements (Statement.body s)) ∧
      (∀ t ∈ (checkedElements (Statement.body s)).dropLast, (Nesting.start.after t).IsClosed) ∧
      ((∀ t ∈ table.texts, IsWellNested t) ↔ IsWellNested (Statement.body s)) := by
  intro table htable
  obtain ⟨s, hs, name, hname, htables, hfindings⟩ := exists_isAdmitted_of_valid h htable
  have hperm : table.texts.Perm (checkedElements (Statement.body s)) := by
    have hmem : table ∈ (checkTable name (Statement.body s)).tables := by
      rw [← checkStatement_of_isAdmitted hname, htables]
      exact List.mem_singleton_self table
    obtain rfl := eq_of_mem_tables_checkTable hmem
    rw [Table.texts, map_raw_tableColumns hfindings]
    exact List.perm_append_comm.trans (List.filter_append_perm _ _)
  refine ⟨s, hs, htables, hperm, fun t => isClosed_of_mem_dropLast, ?_⟩
  rw [← forall_isWellNested_iff]
  exact ⟨fun hall t ht => hall t (hperm.mem_iff.mpr ht),
    fun hall t ht => hall t (hperm.mem_iff.mp ht)⟩

/-- A table whose body is well nested, with a comma in a quoted text and one in parentheses. -/
theorem texts_of_nested_table_wellNested :
    let sql := "CREATE TABLE t (id DECIMAL(10, 2), ".toList ++
      "x TEXT DEFAULT ',', ".toList ++ "PRIMARY KEY (id, x));".toList
    (checkSchema sql).isValid = true ∧
      (checkSchema sql).tables.map (·.texts.length) = [3] ∧
      ∀ table ∈ (checkSchema sql).tables, ∀ t ∈ table.texts, IsWellNested t := by
  intro sql
  have hbodies : ∀ s ∈ Statement.all sql, IsWellNested (Statement.body s) := by decide +kernel
  obtain ⟨hvalid, htexts⟩ : (checkSchema sql).isValid = true ∧
      (checkSchema sql).tables.map (·.texts.length) = [3] := by decide +kernel
  refine ⟨hvalid, htexts, fun table htable => ?_⟩
  obtain ⟨s, hs, -, -, -, hiff⟩ := texts_of_valid_schema hvalid table htable
  exact hiff.mpr (hbodies s hs)

/-- Valid schemas of one table with a column whose text is not well nested: a parenthesis that is
missing, so that the next column is part of this one; one too many; one too many in a column that
another one follows; a clause behind the table that is part of the column; and an open quote. -/
theorem ill_nested_columns_accepted :
    [("CREATE TABLE t (id INT CHECK (x > 0, name TEXT);", "id INT CHECK (x > 0, name TEXT"),
      ("CREATE TABLE t (id INT DEFAULT 0));", "id INT DEFAULT 0)"),
      ("CREATE TABLE t (id INT CHECK )(, b TEXT);", "id INT CHECK )("),
      ("CREATE TABLE t (id INT CHECK (id > 0))WITH(x);", "id INT CHECK (id > 0))WITH(x"),
      ("CREATE TABLE t (id TEXT DEFAULT 'abc);", "id TEXT DEFAULT 'abc")].Forall fun entry =>
    (checkSchema entry.1.toList).isValid = true ∧
      (checkSchema entry.1.toList).tables.map (·.columns.head?.map (·.raw)) =
        [some entry.2.toList] ∧
      ¬ IsWellNested entry.2.toList := by
  decide +kernel

end SchemaIntake
