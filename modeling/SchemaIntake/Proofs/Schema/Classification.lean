import SchemaIntake.Proofs.Ddl.Columns
import SchemaIntake.Proofs.Ddl.Elements
import SchemaIntake.Proofs.Schema.Verdicts

/-!
# Elements that could be columns or table constraints

Whether an element is taken for a table constraint is decided by how its text starts, before it
is cut into tokens.  `CONSTRAINT`, `PRIMARY KEY` and `FOREIGN KEY` are looked for with a space in
them, so they are found only where the first token is the first of these words.  The other words
are found wherever a token starts with them, and so the name of a column may be taken for one.

## Main definitions

* `constraintWords`, `prefixWords` — the words a constraint starts with, and those among them that
  are found at the start of longer words.
* `IsTreatedAsColumn` — what a table shows of an element that is treated as a column.

## Main results

* `isOne_iff_prefix` — which elements that define columns are taken for table constraints.
* `isTreatedAsColumn_iff` — **which of them are treated as columns**.
-/

namespace SchemaIntake

open Text

/-- The words that a table constraint starts with. -/
def constraintWords : List Text :=
  ["CONSTRAINT", "PRIMARY", "FOREIGN", "UNIQUE", "CHECK", "EXCLUDE"].map String.toList

/-- The words that are looked for without regard to what follows them. -/
def prefixWords : List Text := ["UNIQUE", "CHECK", "EXCLUDE"].map String.toList

/-! ### How the text of a column starts -/

section FirstToken

variable {element token : Text} {rest : List Text} {column : ColumnDefinition}
  (htrim : trim element = element) (hread : ColumnDefinition.read element = .ok column)
  (htokens : tokens element = token :: rest)

include hread htokens in
/-- The first token of an accepted column is ASCII and holds no separator. -/
theorem spec_of_mem_first_token {c : Char} (hc : c ∈ token) :
    c.toNat < 0x80 ∧ isSeparator c = false := by
  obtain ⟨first, _, hfirst, -, -, hname, hvalid, -⟩ := ColumnDefinition.exists_of_read hread
  obtain ⟨rfl, -⟩ := List.cons.inj (htokens.symm.trans hfirst)
  rw [hname] at hvalid
  exact Identifier.spec_of_mem_of_isValid_unquote hvalid hc

variable (hword : ∀ w ∈ constraintWords, sameLetters token w = false)

include htrim hread htokens hword

/-- None of the words stands before a space at the start of the element. -/
theorem not_prefix_of_mem_constraintWords {w : Text} (hw : w ∈ constraintWords) :
    ¬ w ++ [' '] <+: upper element := by
  intro hstarts
  have hplain : ∀ w ∈ constraintWords, w.any isSeparator = false := by decide
  have htoken : token.any isSeparator = false := by
    rw [List.any_eq_false]
    intro c hc
    simp [(spec_of_mem_first_token hread htokens hc).2]
  -- the word would be the first token, letter by letter
  have hupper : upper token = w :=
    upper_first_token_eq htrim htokens (hplain w hw) htoken hstarts
  have hsame := sameLetters_upper_of_ascii fun c hc =>
    (spec_of_mem_first_token hread htokens hc).1
  rw [hupper, hword w hw] at hsame
  exact absurd hsame (by simp)

theorem isNamed_eq_false : TableConstraint.isNamed (upper element) = false := by
  rw [TableConstraint.isNamed, Bool.eq_false_iff, Ne, List.isPrefixOf_iff_prefix]
  exact not_prefix_of_mem_constraintWords htrim hread htokens hword
    (w := "CONSTRAINT".toList) (by decide)

/-- The element starts like a kind of constraint if its first token starts with one of the words
that are found at the start of longer ones. -/
theorem isSome_ofStart?_iff : (ConstraintKind.ofStart? (upper element)).isSome = true ↔
    ∃ w ∈ prefixWords, w <+: upper token := by
  have hplain : ∀ w ∈ prefixWords, w.any isSeparator = false := by decide
  -- the words of a kind are one word without a space, or start with a word and a space
  have hspace : ∀ kind ∈ ConstraintKind.all, kind.words ∈ prefixWords ∨
      ∃ w ∈ constraintWords, w ++ [' '] <+: kind.words := by decide
  have hkind : ∀ w ∈ prefixWords, ∃ kind ∈ ConstraintKind.all, kind.words = w := by decide
  rw [ConstraintKind.ofStart?, List.find?_isSome]
  constructor
  · rintro ⟨kind, hmem, hstart⟩
    rw [List.isPrefixOf_iff_prefix] at hstart
    rcases hspace kind hmem with hw | ⟨w, hw, hstarts⟩
    · exact ⟨kind.words, hw,
        (prefix_upper_first_token_iff htrim htokens (hplain _ hw)).mp hstart⟩
    · exact absurd (hstarts.trans hstart)
        (not_prefix_of_mem_constraintWords htrim hread htokens hword hw)
  · rintro ⟨w, hw, hstarts⟩
    obtain ⟨kind, hmem, rfl⟩ := hkind w hw
    refine ⟨kind, hmem, List.isPrefixOf_iff_prefix.mpr ?_⟩
    exact (prefix_upper_first_token_iff htrim htokens (hplain _ hw)).mpr hstarts

/-- **Which accepted columns are taken for table constraints.** -/
theorem isOne_iff_prefix :
    TableConstraint.isOne element = true ↔ ∃ w ∈ prefixWords, w <+: upper token := by
  rw [TableConstraint.isOne, htrim, isNamed_eq_false htrim hread htokens hword, Bool.false_or]
  exact isSome_ofStart?_iff htrim hread htokens hword

/-- Those that are are accepted as such. -/
theorem exists_check_eq_ok (h : TableConstraint.isOne element = true) :
    ∃ kind, TableConstraint.check element = .ok kind := by
  have hnamed := isNamed_eq_false htrim hread htokens hword
  rw [TableConstraint.isOne, htrim, hnamed, Bool.false_or, Option.isSome_iff_exists] at h
  obtain ⟨kind, hkind⟩ := h
  refine ⟨kind, ?_⟩
  rw [TableConstraint.check, htrim, hnamed, if_neg (by simp), TableConstraint.kind, hkind]

end FirstToken

/-! ### What becomes of them -/

/-- The outcome treats an element as a column: it is no constraint of the table, and it is either
one of the columns, or reported as a repetition of one that comes from an earlier element. -/
def IsTreatedAsColumn (outcome : Outcome) (earlier : List Text) (element : Text)
    (column : ColumnDefinition) : Prop :=
  ∃ table ∈ outcome.tables, element ∉ table.constraints ∧
    (⟨column.name, column.type.baseName, element⟩ ∈ table.columns ∨
      TableDraft.duplicateError table.name column.name ∈ outcome.errors ∧
        ∃ other ∈ table.columns, other.raw ∈ earlier ∧ lower other.name = lower column.name)

instance (outcome : Outcome) (earlier : List Text) (element : Text) (column : ColumnDefinition) :
    Decidable (IsTreatedAsColumn outcome earlier element column) := by
  unfold IsTreatedAsColumn
  infer_instance

/-- An element that is not taken for a constraint and defines a column becomes that column or
repeats an earlier one. -/
theorem isTreatedAsColumn_of_not_isOne {name body element : Text} {before after : List Text}
    (helements : checkedElements body = before ++ element :: after) {column : ColumnDefinition}
    (hone : TableConstraint.isOne element = false)
    (hread : ColumnDefinition.read element = .ok column) :
    IsTreatedAsColumn (checkTable name body) before element column := by
  have hkept : element ∉ (checkedElements body).filter TableConstraint.isOne := by
    intro hmem
    exact absurd (List.mem_filter.mp hmem).2 (by simp [hone])
  have hentry : (element, Verdict.of before element) ∈ verdicts (checkedElements body) := by
    rw [helements, verdicts_append_cons]
    simp
  have hverdict := Verdict.of_ok before hone hread
  have hfate : ⟨column.name, column.type.baseName, element⟩ ∈ tableColumns (checkedElements body) ∨
      TableDraft.duplicateError name column.name ∈ elementFindings name (checkedElements body) ∧
        ∃ other ∈ tableColumns (checkedElements body),
          other.raw ∈ before ∧ lower other.name = lower column.name := by
    cases htaken : isTaken before column.name with
    | false =>
      rw [hverdict, htaken] at hentry
      exact Or.inl (List.mem_filterMap.mpr ⟨_, hentry, rfl⟩)
    | true =>
      rw [hverdict, htaken] at hentry
      refine Or.inr ⟨List.mem_filterMap.mpr ⟨_, hentry, rfl⟩, ?_⟩
      rw [← any_tableColumns, List.any_eq_true] at htaken
      obtain ⟨other, hother, hname⟩ := htaken
      rw [helements]
      exact ⟨other, tableColumns_subset_append before _ hother,
        (exists_of_mem_tableColumns hother).1, by simpa using hname⟩
  -- in both cases there is a column, so there is a table
  have hne : tableColumns (checkedElements body) ≠ [] := by
    rcases hfate with hcolumn | ⟨-, other, hother, -⟩
    · exact List.ne_nil_of_mem hcolumn
    · exact List.ne_nil_of_mem hother
  rw [IsTreatedAsColumn, checkTable_eq, if_neg hne]
  exact ⟨_, List.mem_singleton_self _, hkept, hfate⟩

/-- **Which elements that define columns are treated as columns**, among those whose first token
is none of the words that constraints start with: the ones whose first token does not start with
`UNIQUE`, `CHECK` or `EXCLUDE` either.  The others are constraints of their table, and nothing is
reported about them. -/
theorem isTreatedAsColumn_iff {statement name element token : Text} {before after rest : List Text}
    {column : ColumnDefinition} (hadmitted : Statement.IsAdmitted statement name)
    (helements : checkedElements (Statement.body statement) = before ++ element :: after)
    (hread : ColumnDefinition.read element = .ok column)
    (htokens : tokens element = token :: rest)
    (hword : ∀ w ∈ constraintWords, sameLetters token w = false) :
    (IsTreatedAsColumn (checkStatement statement) before element column ↔
      ¬ ∃ w ∈ prefixWords, w <+: upper token) ∧
    ((∃ w ∈ prefixWords, w <+: upper token) →
      (∃ kind, TableConstraint.check element = .ok kind) ∧
        ∀ table ∈ (checkStatement statement).tables, element ∈ table.constraints) := by
  have hmem : element ∈ checkedElements (Statement.body statement) := by
    rw [helements]
    simp
  have htrim := (spec_of_mem_checkedElements hmem).1
  have hiff := isOne_iff_prefix htrim hread htokens hword
  -- what is taken for a constraint goes into the table as it is written, and not as a column
  have hconstraint : TableConstraint.isOne element = true →
      ∀ table ∈ (checkStatement statement).tables, element ∈ table.constraints := by
    intro hone table htable
    rw [checkStatement_of_isAdmitted hadmitted] at htable
    rw [eq_of_mem_tables_checkTable htable]
    exact List.mem_filter.mpr ⟨hmem, hone⟩
  rw [← hiff]
  refine ⟨⟨?_, fun hone => ?_⟩, fun hone => ?_⟩
  · rintro ⟨table, htable, hnot, -⟩ hone
    exact hnot (hconstraint hone table htable)
  · rw [checkStatement_of_isAdmitted hadmitted]
    exact isTreatedAsColumn_of_not_isOne helements (by simpa using hone) hread
  · exact ⟨exists_check_eq_ok htrim hread htokens hword hone, hconstraint hone⟩

/-- A second column of an earlier name is treated as one. -/
theorem isTreatedAsColumn_repeated :
    let statement := "CREATE TABLE t (uid INT, ".toList ++ "UID TEXT);".toList
    Statement.IsAdmitted statement ['t'] ∧
      IsTreatedAsColumn (checkStatement statement) ["uid INT".toList] "UID TEXT".toList
        ⟨"UID".toList, ⟨"TEXT".toList, 1⟩⟩ := by
  intro statement
  have hadmitted : Statement.IsAdmitted statement ['t'] :=
    ⟨by decide +kernel, by decide +kernel, by decide +kernel, by decide +kernel⟩
  have helements : checkedElements (Statement.body statement) =
      ["uid INT".toList] ++ "UID TEXT".toList :: [] := by decide +kernel
  have hread : ColumnDefinition.read "UID TEXT".toList =
      .ok ⟨"UID".toList, ⟨"TEXT".toList, 1⟩⟩ := by decide +kernel
  have htokens : tokens "UID TEXT".toList = ["UID".toList, "TEXT".toList] := by decide +kernel
  have hword : ∀ w ∈ constraintWords, sameLetters "UID".toList w = false := by decide +kernel
  have hstarts : ¬ ∃ w ∈ prefixWords, w <+: upper "UID".toList := by decide +kernel
  have hiff := (isTreatedAsColumn_iff hadmitted helements hread htokens hword).1
  exact ⟨hadmitted, hiff.mpr hstarts⟩

/-- The column `unique_id` is accepted when it is looked at on its own, but its table has it as a
constraint, and nothing is reported. -/
theorem unique_id_taken_for_constraint :
    let statement := "CREATE TABLE t (id INT ".toList ++ "PRIMARY KEY, ".toList ++
      "unique_id INT);".toList
    let earlier := ["id INT PRIMARY KEY".toList]
    let element := "unique_id INT".toList
    let column : ColumnDefinition := ⟨"unique_id".toList, ⟨"INT".toList, 1⟩⟩
    Statement.IsAdmitted statement ['t'] ∧
      checkedElements (Statement.body statement) = earlier ++ [element] ∧
      ColumnDefinition.read element = .ok column ∧
      tokens element = ["unique_id".toList, "INT".toList] ∧
      (∀ w ∈ constraintWords, sameLetters "unique_id".toList w = false) ∧
      ¬ IsTreatedAsColumn (checkStatement statement) earlier element column ∧
      (checkStatement statement).errors = [] := by
  intro statement earlier element column
  have hadmitted : Statement.IsAdmitted statement ['t'] :=
    ⟨by decide +kernel, by decide +kernel, by decide +kernel, by decide +kernel⟩
  exact ⟨hadmitted, by decide +kernel⟩

end SchemaIntake
