import SchemaIntake.Proofs.Ddl.Columns
import SchemaIntake.Proofs.Ddl.Elements
import SchemaIntake.Proofs.Schema.Verdicts

/-!
# Primary keys that are mentioned and primary keys that are recognized

A table counts as having a primary key if the words stand one space apart in the text of a
column or a constraint that it keeps.  Columns and constraints themselves are read word by word.
The two ways of looking agree but for spellings with other white space between the words, and
for words that stand in parentheses or are part of another constraint.

## Main definitions

* `Table.recognizesKey` — whether a column declares a primary key or a constraint is one.
* `SpellsKey t`, `HidesKey e` — the words stand in a text, or behind a parenthesis of an element.
* `Table.MissesKey`, `Table.InventsKey` — the two ways in which the flag of a table goes wrong.

## Main results

* `spec_of_mem_tables` — the flag of a table of a report.
* `declaresKey_or_hidesKey` — an accepted column in which the words stand declares a primary key
  or hides them.
* `hasPrimaryKey_eq_recognizesKey_iff` — **when the flag agrees with what was recognized**.
-/

namespace SchemaIntake

open Text

/-! ### What is recognized -/

/-- The texts of the columns and constraints that a table keeps. -/
def Table.texts (table : Table) : List Text :=
  table.columns.map (·.raw) ++ table.constraints

/-- Whether a column of the table declares a primary key after its type, or one of the
constraints is accepted as a primary key. -/
def Table.recognizesKey (table : Table) : Bool :=
  (table.columns.any fun column => declaresKey (ColumnDefinition.modifiers column.raw)) ||
    table.constraints.any fun element => TableConstraint.check element = .ok .primaryKey

/-- The words stand in the text, one space apart and in any case. -/
def SpellsKey (t : Text) : Prop := "PRIMARY KEY".toList <:+: upper t

/-- A token in which a parenthesis stands holds the words, or one of them at the end where the
other one may come next. -/
def HidesKey (element : Text) : Prop :=
  ∃ token ∈ tokens element, '(' ∈ token ∧
    (SpellsKey token ∨ "PRIMARY".toList <:+ upper token ∨ "KEY".toList <+: upper token)

/-- A primary key is recognized, but nowhere are the words one space apart. -/
def Table.MissesKey (table : Table) : Prop :=
  table.recognizesKey = true ∧ ∀ t ∈ table.texts, ¬ SpellsKey t

/-- No primary key is recognized, but the words stand in a constraint, or in a column that hides
them behind a parenthesis. -/
def Table.InventsKey (table : Table) : Prop :=
  table.recognizesKey = false ∧ ((∃ t ∈ table.constraints, SpellsKey t) ∨
    ∃ column ∈ table.columns, SpellsKey column.raw ∧ HidesKey column.raw)

/-! ### Columns that mention a primary key -/

/-- The search for a text inside another one finds exactly its occurrences. -/
theorem hasInfix_iff {needle t : Text} : hasInfix needle t = true ↔ needle <:+: t := by
  induction t with
  | nil => rw [hasInfix, List.isEmpty_iff, List.infix_nil]
  | cons c t ih =>
    rw [hasInfix, Bool.or_eq_true, List.isPrefixOf_iff_prefix, ih, List.infix_cons_iff]

theorem mentionsPrimaryKey_iff {t : Text} : mentionsPrimaryKey t = true ↔ SpellsKey t := by
  rw [mentionsPrimaryKey, hasInfix_iff, SpellsKey]

instance (t : Text) : Decidable (SpellsKey t) :=
  decidable_of_iff (mentionsPrimaryKey t = true) mentionsPrimaryKey_iff

instance (element : Text) : Decidable (HidesKey element) := by
  unfold HidesKey
  infer_instance

instance (table : Table) : Decidable table.MissesKey := by
  unfold Table.MissesKey
  infer_instance

instance (table : Table) : Decidable table.InventsKey := by
  unfold Table.InventsKey
  infer_instance

/-- **An accepted column in which the words stand declares a primary key**, or hides the words
behind a parenthesis. -/
theorem declaresKey_or_hidesKey {element : Text} {column : ColumnDefinition}
    (htrim : trim element = element) (h : ColumnDefinition.read element = .ok column)
    (hspells : SpellsKey element) :
    declaresKey (ColumnDefinition.modifiers element) = true ∨ HidesKey element := by
  obtain ⟨u, v, huv⟩ := hspells
  have hwords : upper element = u ++ "PRIMARY".toList ++ ' ' :: ("KEY".toList ++ v) := by
    rw [← huv]
    simp
  have hp : "PRIMARY".toList.any isSeparator = false := by decide
  have hq : "KEY".toList.any isSeparator = false := by decide
  -- the two words stand in two tokens, or both in one that has a parenthesis
  rcases tokens_of_upper_eq htrim hp hq (by decide) (by decide) hwords with
    ⟨before, p, q, after, htokens, hpend, hqstart⟩ | ⟨token, hmem, hparen, hinfix⟩
  · by_cases hpopen : '(' ∈ p
    · exact Or.inr ⟨p, by simp [htokens], hpopen, Or.inr (Or.inl hpend)⟩
    · by_cases hqopen : '(' ∈ q
      · exact Or.inr ⟨q, by simp [htokens], hqopen, Or.inr (Or.inr hqstart)⟩
      · left
        exact ColumnDefinition.declaresKey_of_read h htokens hpend hqstart hpopen hqopen
  · exact Or.inr ⟨token, hmem, hparen, Or.inl hinfix⟩

/-! ### Reports -/

/-- The words are looked for in the columns and then in the constraints. -/
theorem Table.exists_spellsKey_iff (table : Table) : (∃ t ∈ table.texts, SpellsKey t) ↔
    ((table.columns.any fun column => mentionsPrimaryKey column.raw) ||
      table.constraints.any mentionsPrimaryKey) = true := by
  simp only [← mentionsPrimaryKey_iff]
  rw [← List.any_eq_true, Table.texts, List.any_append, List.any_map]
  rfl

/-- **The flag of a table of a report** says whether the words stand in a text that the table
keeps.  The columns that it keeps are accepted ones. -/
theorem spec_of_mem_tables {sql : Text} {table : Table} (h : table ∈ (checkSchema sql).tables) :
    (table.hasPrimaryKey = true ↔ ∃ t ∈ table.texts, SpellsKey t) ∧
      ∀ column ∈ table.columns, trim column.raw = column.raw ∧
        ∃ c, ColumnDefinition.read column.raw = .ok c := by
  obtain ⟨s, -, name, -, htable⟩ := exists_isAdmitted_of_mem_tables h
  obtain rfl := eq_of_mem_tables_checkTable htable
  constructor
  · rw [Table.exists_spellsKey_iff]
    rfl
  · intro column hcolumn
    obtain ⟨hraw, -, c, hread, -⟩ := exists_of_mem_tableColumns hcolumn
    exact ⟨(spec_of_mem_checkedElements hraw).1, c, hread⟩

/-- A statement is warned about exactly if its table has no primary key. -/
theorem warnings_checkStatement (s : Text) : (checkStatement s).warnings =
    ((checkStatement s).tables.filter (!·.hasPrimaryKey)).map
      fun table => noPrimaryKeyFinding table.name := by
  rcases isAdmitted_or_rejected s with ⟨name, hname⟩ | ⟨finding, hfinding⟩
  · rw [checkStatement_of_isAdmitted hname, warnings_checkTable]
  · rw [hfinding]
    rfl

/-- **The warnings of a report** are one for each table that has no primary key. -/
theorem warnings_checkSchema (sql : Text) : (checkSchema sql).warnings =
    ((checkSchema sql).tables.filter (!·.hasPrimaryKey)).map
      fun table => noPrimaryKeyFinding table.name := by
  by_cases hall : Statement.all sql = []
  · obtain ⟨htables, hwarnings⟩ := checkSchema_of_all_eq_nil hall
    rw [htables, hwarnings]
    rfl
  · rw [checkSchema_of_statements hall]
    change (Statement.all sql).flatMap (fun s => (checkStatement s).warnings) = List.map _
      (List.filter _ ((Statement.all sql).flatMap fun s => (checkStatement s).tables))
    rw [List.filter_flatMap, List.map_flatMap]
    simp only [warnings_checkStatement]

/-! ### The flag and what was recognized -/

/-- If no primary key is recognized, the words stand in a constraint or in a column that hides
them, or nowhere. -/
theorem exists_texts_iff_of_not_recognizesKey {sql : Text} {table : Table}
    (h : table ∈ (checkSchema sql).tables) (hrecognized : table.recognizesKey = false) :
    (∃ t ∈ table.texts, SpellsKey t) ↔ table.InventsKey := by
  have hnone : ∀ column ∈ table.columns,
      ¬ declaresKey (ColumnDefinition.modifiers column.raw) = true := by
    rw [Table.recognizesKey, Bool.or_eq_false_iff, List.any_eq_false] at hrecognized
    exact hrecognized.1
  constructor
  · rintro ⟨t, ht, hspells⟩
    refine ⟨hrecognized, ?_⟩
    rcases List.mem_append.mp ht with ht | ht
    · right
      obtain ⟨column, hcolumn, rfl⟩ := List.mem_map.mp ht
      obtain ⟨htrim, c, hread⟩ := (spec_of_mem_tables h).2 column hcolumn
      -- a column that declares a key would have been recognized
      have hhides := (declaresKey_or_hidesKey htrim hread hspells).resolve_left
        (hnone column hcolumn)
      exact ⟨column, hcolumn, hspells, hhides⟩
    · exact Or.inl ⟨t, ht, hspells⟩
  · rintro ⟨-, ⟨t, ht, hspells⟩ | ⟨column, hcolumn, hspells, -⟩⟩
    · exact ⟨t, List.mem_append_right _ ht, hspells⟩
    · exact ⟨column.raw, List.mem_append_left _ (List.mem_map_of_mem hcolumn), hspells⟩

/-- **The flag of a table agrees with what was recognized** exactly if a recognized key is spelled
with one space somewhere in the table, and no other constraint and no parenthesised token spells
one when none is recognized.  The warnings go by the flag, so then they are given exactly for the
tables without a recognized key. -/
theorem hasPrimaryKey_eq_recognizesKey_iff (sql : Text) :
    (∀ table ∈ (checkSchema sql).tables, table.hasPrimaryKey = table.recognizesKey ↔
      ¬ table.MissesKey ∧ ¬ table.InventsKey) ∧
    ((checkSchema sql).warnings = ((checkSchema sql).tables.filter (!·.hasPrimaryKey)).map
      fun table => noPrimaryKeyFinding table.name) ∧
    ((∀ table ∈ (checkSchema sql).tables, ¬ table.MissesKey ∧ ¬ table.InventsKey) →
      (checkSchema sql).warnings = ((checkSchema sql).tables.filter (!·.recognizesKey)).map
        fun table => noPrimaryKeyFinding table.name) := by
  have hiff : ∀ table ∈ (checkSchema sql).tables, table.hasPrimaryKey = table.recognizesKey ↔
      ¬ table.MissesKey ∧ ¬ table.InventsKey := by
    intro table htable
    have hflag := (spec_of_mem_tables htable).1
    rw [Bool.eq_iff_iff, hflag]
    -- a recognized key can only be missed, and where there is none it can only be invented
    cases hrecognized : table.recognizesKey with
    | true => simp [Table.MissesKey, Table.InventsKey, hrecognized]
    | false =>
      have hinvents := exists_texts_iff_of_not_recognizesKey htable hrecognized
      simp [Table.MissesKey, hrecognized, ← hinvents]
  refine ⟨hiff, warnings_checkSchema sql, fun hright => ?_⟩
  rw [warnings_checkSchema]
  congr 1
  refine List.filter_congr fun table htable => ?_
  rw [(hiff table htable).mpr (hright table htable)]

/-- Of two tables, one declares a key in a column and one has none: both are right, and the second
one is warned about. -/
theorem agrees_on_two_tables :
    let sql := "CREATE TABLE a (id INT ".toList ++ "PRIMARY KEY);\n".toList ++
      "CREATE TABLE b (x TEXT);".toList
    (∀ table ∈ (checkSchema sql).tables, table.hasPrimaryKey = table.recognizesKey) ∧
      (checkSchema sql).warnings = [noPrimaryKeyFinding ['b']] := by
  intro sql
  have hright : ∀ table ∈ (checkSchema sql).tables, ¬ table.MissesKey ∧ ¬ table.InventsKey := by
    decide +kernel
  obtain ⟨hiff, -, hwarnings⟩ := hasPrimaryKey_eq_recognizesKey_iff sql
  refine ⟨fun table htable => (hiff table htable).mpr (hright table htable), ?_⟩
  rw [hwarnings hright]
  decide +kernel

/-- A key that is declared with two spaces between the words is recognized, and yet the table is
warned about; the words in a literal of a check are not recognized, and yet the table counts as
having a key. -/
theorem flag_missed_and_invented :
    let missed := checkSchema ("CREATE TABLE t (id INT ".toList ++ "PRIMARY  KEY);".toList)
    let invented := checkSchema ("CREATE TABLE t (x TEXT CHECK ".toList ++
      "(x = 'PRIMARY KEY'));".toList)
    missed.tables.map (fun table => (table.recognizesKey, table.hasPrimaryKey)) =
        [(true, false)] ∧
      missed.warnings = [noPrimaryKeyFinding ['t']] ∧
      invented.tables.map (fun table => (table.recognizesKey, table.hasPrimaryKey)) =
        [(false, true)] ∧
      invented.warnings = [] := by
  decide +kernel

end SchemaIntake
