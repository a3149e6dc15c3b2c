import Mathlib.Data.List.Basic
import SchemaIntake.Proofs.Ddl.Columns
import SchemaIntake.Proofs.Schema.Verdicts

/-!
# Where table names come from

A statement is read for its name and for its body apart.  The name is that of the first header
anywhere in the statement, the body starts at the first parenthesis.  Both belong to the header that
the statement starts with, if it starts with one.  If it does not, the name may be found further
back, even inside the body.

The names that a header can hold are not quite the valid ones: an identifier may have a dollar sign
in it, a header may not.

## Main definitions

* `Statement.IsNamedByOwnHeader s` — the name and the body of `s` are those of the header that `s`
  starts with, and without one there is no name.
* `Statement.withIdColumn schema table` — the statement for a table of one column.

## Main results

* `Statement.isNamedByOwnHeader_iff` — **when the name is that of the statement's own header**.
* `Statement.name_found_in_body` — a name may come from elsewhere.
* `Statement.checkSchema_withIdColumn` — **which valid names a table can have**.
* `Statement.dollar_name_rejected` — a valid name that is rejected.
-/

namespace SchemaIntake

open Text

namespace Statement

/-! ### Names and bodies -/

/-- The name of a statement and the start of its body are those of the header that it starts with,
and without such a header it has no name. -/
structure IsNamedByOwnHeader (s : Text) : Prop where
  /-- The name is that of the header. -/
  tableName?_eq (n : Text) : tableName? s = some n ↔ ∃ h : Header, h.Opens s ∧ h.table.name = n
  /-- Where a table is reported, its body goes from the parenthesis of the header to the last
  one. -/
  body_eq : (checkStatement s).tables ≠ [] → ∃ h : Header, h.Opens s ∧ ∃ content after,
    h.rest = content ++ ')' :: after ∧ ')' ∉ after ∧ body s = trim content

/-- The name of a statement is that of the first header in it. -/
theorem tableName?_eq_some_iff {s n : Text} :
    tableName? s = some n ↔ ∃ h : Header, h.IsFirstIn s ∧ h.table.name = n := by
  unfold tableName?
  rw [Option.map_eq_some_iff]
  simp only [Header.find?_eq_some_iff]

theorem tableName?_eq_none_iff {s : Text} : tableName? s = none ↔ Header.OccursNowhereIn s := by
  unfold tableName?
  rw [Option.map_eq_none_iff, Header.find?_eq_none_iff]

/-- A statement for which a table is reported is admitted. -/
theorem exists_isAdmitted_of_tables_ne_nil {s : Text} (h : (checkStatement s).tables ≠ []) :
    ∃ name, IsAdmitted s name := by
  rcases isAdmitted_or_rejected s with hadmitted | ⟨finding, hrejected⟩
  · exact hadmitted
  · rw [hrejected] at h
    exact absurd rfl h

/-- A statement that starts with a header is named by it. -/
theorem isNamedByOwnHeader_of_opens {s : Text} {h : Header} (hs : h.Opens s) :
    IsNamedByOwnHeader s := by
  constructor
  · intro n
    rw [tableName?_of_opens hs, Option.some_inj]
    constructor
    · intro hname
      exact ⟨h, hs, hname⟩
    -- a text has one header at its start at most
    · rintro ⟨h', hs', rfl⟩
      rw [← Header.read?_eq_some_iff] at hs hs'
      rw [Option.some.inj (hs.symm.trans hs')]
  · intro htables
    obtain ⟨name, hadmitted⟩ := exists_isAdmitted_of_tables_ne_nil htables
    have hbody := hadmitted.hasBody
    rw [body_of_opens hs] at hbody ⊢
    cases hcontent : beforeLast? ')' h.rest with
    | none =>
      rw [hcontent] at hbody
      exact absurd rfl hbody
    | some content =>
      obtain ⟨after, hrest, hafter⟩ := exists_of_beforeLast? hcontent
      exact ⟨h, hs, content, after, hrest, hafter, rfl⟩

/-- A statement without any header has neither a name nor a table. -/
theorem isNamedByOwnHeader_of_occursNowhere {s : Text} (hs : Header.OccursNowhereIn s) :
    IsNamedByOwnHeader s := by
  have hnone := tableName?_eq_none_iff.mpr hs
  constructor
  · intro n
    rw [hnone]
    constructor
    · intro hname
      exact absurd hname (by simp)
    · rintro ⟨h, hopens, -⟩
      exact absurd hopens (hs s List.suffix_rfl h)
  · intro htables
    obtain ⟨name, hadmitted⟩ := exists_isAdmitted_of_tables_ne_nil htables
    rw [hadmitted.named] at hnone
    exact absurd hnone (by simp)

/-- **When the name is that of the statement's own header**: when there is such a header, or when no
header stands anywhere in the statement.  In any case the name is that of the first header that can
be read in it. -/
theorem isNamedByOwnHeader_iff (s : Text) :
    (∀ n, tableName? s = some n ↔ ∃ h : Header, h.IsFirstIn s ∧ h.table.name = n) ∧
    (IsNamedByOwnHeader s ↔ (∃ h : Header, h.Opens s) ∨ Header.OccursNowhereIn s) := by
  refine ⟨fun n => tableName?_eq_some_iff, ?_⟩
  constructor
  · intro hnamed
    by_cases hown : ∃ h : Header, h.Opens s
    · exact .inl hown
    · right
      cases hname : tableName? s with
      | none => exact tableName?_eq_none_iff.mp hname
      | some n =>
        obtain ⟨h, hopens, -⟩ := (hnamed.tableName?_eq n).mp hname
        exact absurd ⟨h, hopens⟩ hown
  · rintro (⟨h, hopens⟩ | hnowhere)
    · exact isNamedByOwnHeader_of_opens hopens
    · exact isNamedByOwnHeader_of_occursNowhere hnowhere

/-- A statement whose header names no table.  The table is named after another header, which stands
inside a check, but has the body that stands after its own name. -/
theorem name_found_in_body :
    let s := "CREATE TABLE my-table (id INT PRIMARY KEY CHECK (create table t (1)));".toList
    all s = [s] ∧ (∀ h : Header, ¬ h.Opens s) ∧ tableName? s = some ['t'] ∧
      body s = "id INT PRIMARY KEY CHECK (create table t (1))".toList ∧ ¬ IsNamedByOwnHeader s ∧
      (checkSchema s).isValid = true ∧ (checkSchema s).tables.map (·.name) = [['t']] := by
  intro s
  have hname : tableName? s = some ['t'] := by decide +kernel
  have hnone : ∀ h : Header, ¬ h.Opens s := by
    rw [← Header.read?_eq_none_iff]
    decide +kernel
  refine ⟨by decide +kernel, hnone, hname, by decide +kernel, ?_, by decide +kernel,
    by decide +kernel⟩
  intro hnamed
  obtain ⟨h, hopens, -⟩ := (hnamed.tableName?_eq _).mp hname
  exact hnone h hopens

/-! ### Labels -/

/-- A table name as it stands in a statement: with its schema, and with the quotes there are. -/
def label (schema : Option Header.Word) (table : Header.Word) : Text :=
  Header.qualifier schema ++ table.text

/-- A dollar sign stands in the table name or in the schema. -/
def HoldsDollar (schema : Option Header.Word) (table : Header.Word) : Prop :=
  '$' ∈ table.name ∨ ∃ w ∈ schema, '$' ∈ w.name

instance (schema : Option Header.Word) (table : Header.Word) :
    Decidable (HoldsDollar schema table) := by
  unfold HoldsDollar
  infer_instance

/-- The statement for a table with one column, `id`. -/
def withIdColumn (schema : Option Header.Word) (table : Header.Word) : Text :=
  "CREATE TABLE ".toList ++ (label schema table ++ " (id INT PRIMARY KEY);".toList)

/-- The table of that statement. -/
def idTable (name : Text) : Table where
  name := name
  columns := [⟨"id".toList, "int".toList, "id INT PRIMARY KEY".toList⟩]
  constraints := []
  hasPrimaryKey := true

/-- Header names go on with the characters of identifiers other than the dollar sign. -/
theorem isNameChar_of_isContinuation {c : Char} (h : Identifier.isContinuation c = true) :
    Header.isNameChar c = true ∨ c = '$' := by
  unfold Identifier.isContinuation at h
  rcases Bool.or_eq_true_iff.mp h with hname | hdollar
  · left
    simp [Header.isNameChar, hname]
  · exact .inr (beq_iff_eq.mp hdollar)

/-- A valid name without a dollar sign can stand in a header. -/
theorem isProper_of_isValid {w : Header.Word} (hvalid : Identifier.isValid w.name = true)
    (hdollar : '$' ∉ w.name) : w.IsProper := by
  constructor
  · intro hnil
    rw [hnil] at hvalid
    exact absurd hvalid (by decide)
  · intro c hc
    rcases isNameChar_of_isContinuation (Identifier.isContinuation_of_mem hvalid hc) with
      hname | rfl
    · exact hname
    · exact absurd hc hdollar

theorem mem_text_iff {w : Header.Word} {c : Char} :
    c ∈ w.text ↔ c ∈ w.name ∨ ((w.opened = true ∨ w.closed = true) ∧ c = '"') := by
  unfold Header.Word.text
  cases w.opened <;> cases w.closed <;> simp [or_comm]

section Label

variable {schema : Option Header.Word} {table : Header.Word}
  (htable : Identifier.isValid table.name = true)
  (hschema : ∀ w ∈ schema, Identifier.isValid w.name = true)

include htable hschema in
/-- What stands in a label made of valid names. -/
theorem isNameChar_of_mem_label {c : Char} (hc : c ∈ label schema table) :
    Header.isNameChar c = true ∨ c = '$' ∨ c = '"' ∨ c = '.' := by
  have htext {w : Header.Word} (hw : Identifier.isValid w.name = true) (hc : c ∈ w.text) :
      Header.isNameChar c = true ∨ c = '$' ∨ c = '"' ∨ c = '.' := by
    rcases mem_text_iff.mp hc with hc | ⟨-, rfl⟩
    · have hcontinuation := Identifier.isContinuation_of_mem hw hc
      exact (isNameChar_of_isContinuation hcontinuation).imp_right .inl
    · exact .inr (.inr (.inl rfl))
  rcases List.mem_append.mp hc with hc | hc
  · cases schema with
    | none => exact absurd hc List.not_mem_nil
    | some w =>
      rcases List.mem_append.mp hc with hc | hc
      · exact htext (hschema w rfl) hc
      · exact .inr (.inr (.inr (List.mem_singleton.mp hc)))
  · exact htext htable hc

include htable hschema in
theorem isBlank_of_mem_label {c : Char} (hc : c ∈ label schema table) : isBlank c = false := by
  rcases isNameChar_of_mem_label htable hschema hc with hname | rfl | rfl | rfl
  · exact Header.isBlank_of_isNameChar hname
  · decide
  · decide
  · decide

theorem mem_label_of_holdsDollar (h : HoldsDollar schema table) : '$' ∈ label schema table := by
  rcases h with htable | ⟨w, hw, hname⟩
  · exact List.mem_append_right _ (mem_text_iff.mpr (.inl htable))
  · obtain rfl := Option.mem_def.mp hw
    exact List.mem_append_left _ (List.mem_append_left _ (mem_text_iff.mpr (.inl hname)))

/-! ### Valid names -/

include htable hschema in
theorem all_withIdColumn : all (withIdColumn schema table) = [withIdColumn schema table] := by
  have hsemicolon : ';' ∉ label schema table ++ " (id INT PRIMARY KEY)".toList := by
    intro hmem
    rcases List.mem_append.mp hmem with hmem | hmem
    · exact absurd (isNameChar_of_mem_label htable hschema hmem) (by decide)
    · exact absurd hmem (by decide)
  have hends : withIdColumn schema table = "CREATE TABLE ".toList ++
      (label schema table ++ " (id INT PRIMARY KEY)".toList ++ [';']) := by
    rw [List.append_assoc]
    rfl
  have hall := all_create_append hsemicolon []
  rwa [← hends, show all [] = [] by simp [all]] at hall

theorem hasTrailingText_withIdColumn : hasTrailingText (withIdColumn schema table) = false := by
  have hends : withIdColumn schema table =
      "CREATE TABLE ".toList ++ (label schema table ++ " (id INT PRIMARY KEY".toList) ++
        [')', ';'] := by
    rw [List.append_assoc, List.append_assoc]
    rfl
  rw [hends, hasTrailingText_append]

include htable hschema in
/-- Without a dollar sign the statement starts with a header. -/
theorem opens_withIdColumn (hdollar : ¬ HoldsDollar schema table) :
    Header.Opens ⟨schema, table, "id INT PRIMARY KEY);".toList⟩ (withIdColumn schema table) := by
  refine ⟨_, [], _, [' '], Header.phrase_plain, .inl rfl,
    ⟨?_, ?_, Header.isGap_space.blank, ?_⟩, rfl⟩
  · intro w hw
    exact isProper_of_isValid (hschema w hw) fun hmem => hdollar (.inr ⟨w, hw, hmem⟩)
  · exact isProper_of_isValid htable fun hmem => hdollar (.inl hmem)
  · exact List.append_assoc _ _ _

include htable hschema in
/-- With one there is no header anywhere in it.  A header would end at the only parenthesis and
start after the dollar sign, but there is too little white space between them. -/
theorem occursNowhereIn_withIdColumn (hdollar : HoldsDollar schema table) :
    Header.OccursNowhereIn (withIdColumn schema table) := by
  rintro u ⟨skipped, hskipped⟩ h hopens
  obtain ⟨before, rfl, hbefore, hblanks⟩ := hopens.exists_eq_append
  -- the parenthesis of the header is the only one
  have hopen : '(' ∉ "CREATE TABLE ".toList ++ (label schema table ++ [' ']) := by
    simp only [List.mem_append, not_or]
    refine ⟨by decide, fun hmem => ?_, by decide⟩
    exact absurd (isNameChar_of_mem_label htable hschema hmem) (by decide)
  have hsplit : "CREATE TABLE ".toList ++ (label schema table ++ [' ']) ++
      '(' :: "id INT PRIMARY KEY);".toList = skipped ++ before ++ '(' :: h.rest := by
    rw [List.append_assoc skipped, hskipped, List.append_assoc, List.append_assoc]
    rfl
  obtain ⟨hstart, -, -⟩ := (List.append_cons_inj_of_notMem hopen (by decide)).mp hsplit
  -- so the header has its white space after the dollar sign
  obtain ⟨a, b, hlabel⟩ := List.append_of_mem (mem_label_of_holdsDollar hdollar)
  have hlate : before <:+ b ++ [' '] := by
    refine suffix_of_suffix_append_cons (s := "CREATE TABLE ".toList ++ a) (x := '$')
      (fun hmem => absurd (hbefore '$' hmem) (by decide)) ⟨skipped, ?_⟩
    rw [← hstart, hlabel]
    simp
  have hb : b.countP isBlank = 0 := by
    rw [List.countP_eq_zero]
    intro c hc
    have hmem : c ∈ label schema table := by
      rw [hlabel]
      exact List.mem_append_right a (List.mem_cons_of_mem _ hc)
    simp [isBlank_of_mem_label htable hschema hmem]
  have hone : [' '].countP isBlank = 1 := by decide
  have hcount := hlate.sublist.countP_le (p := isBlank)
  rw [List.countP_append, hb, hone] at hcount
  omega

/-- The column is accepted, whatever the table is called. -/
theorem checkTable_id (name : Text) :
    checkTable name "id INT PRIMARY KEY".toList = ⟨[idTable name], [], []⟩ := by
  have hcolumns : tableColumns (checkedElements "id INT PRIMARY KEY".toList) =
      [⟨"id".toList, "int".toList, "id INT PRIMARY KEY".toList⟩] := by decide +kernel
  have hconstraints : (checkedElements "id INT PRIMARY KEY".toList).filter TableConstraint.isOne =
      [] := by decide +kernel
  have hmention : keepsMention (checkedElements "id INT PRIMARY KEY".toList) = true := by
    decide +kernel
  -- the table name goes into messages only, so the labels of the findings decide
  have hfindings : elementFindings name (checkedElements "id INT PRIMARY KEY".toList) = [] := by
    have hlabels : (verdicts (checkedElements "id INT PRIMARY KEY".toList)).filterMap
        (fun entry => entry.2.label?) = [] := by decide +kernel
    rw [← map_elementFindings name, List.map_eq_nil_iff] at hlabels
    exact hlabels
  rw [checkTable_eq, hcolumns, hconstraints, hmention, hfindings, if_neg (List.cons_ne_nil _ _),
    if_pos rfl]
  rfl

include htable hschema in
theorem isAdmitted_withIdColumn (hdollar : ¬ HoldsDollar schema table) :
    IsAdmitted (withIdColumn schema table) table.name ∧
      body (withIdColumn schema table) = "id INT PRIMARY KEY".toList := by
  have hopens := opens_withIdColumn htable hschema hdollar
  have hbody : body (withIdColumn schema table) = "id INT PRIMARY KEY".toList := by
    rw [body_of_opens hopens]
    show (beforeLast? ')' "id INT PRIMARY KEY);".toList).elim [] trim = _
    decide
  refine ⟨⟨hasTrailingText_withIdColumn, tableName?_of_opens hopens, htable, ?_⟩, hbody⟩
  rw [hbody]
  decide

include htable hschema in
theorem checkStatement_withIdColumn : checkStatement (withIdColumn schema table) =
    if HoldsDollar schema table then
      .rejected (.error .invalidTableName "Invalid table name: \"\"".toList)
    else ⟨[idTable table.name], [], []⟩ := by
  split
  · next hdollar =>
    have hnowhere := occursNowhereIn_withIdColumn htable hschema hdollar
    have hnone := tableName?_eq_none_iff.mpr hnowhere
    unfold checkStatement
    rw [hasTrailingText_withIdColumn, hnone]
    rfl
  · next hdollar =>
    obtain ⟨hadmitted, hbody⟩ := isAdmitted_withIdColumn htable hschema hdollar
    rw [checkStatement_of_isAdmitted hadmitted, hbody, checkTable_id]

/-- **Which valid names a table can have**: those that have no dollar sign in them, nor in the
schema, with or without quotes.  Where there is a dollar sign no name is found, and the statement is
rejected for an empty one. -/
theorem checkSchema_withIdColumn (htable : Identifier.isValid table.name = true)
    (hschema : ∀ w ∈ schema, Identifier.isValid w.name = true) :
    let report := checkSchema (withIdColumn schema table)
    (report = if HoldsDollar schema table then
        .ofError (.error .invalidTableName "Invalid table name: \"\"".toList)
      else .ofFindings [idTable table.name] [] []) ∧
    (report.isValid = true ∧ report.tables.map (·.name) = [table.name] ↔
      ¬ HoldsDollar schema table) := by
  intro report
  have hreport : report = if HoldsDollar schema table then
        .ofError (.error .invalidTableName "Invalid table name: \"\"".toList)
      else .ofFindings [idTable table.name] [] [] := by
    have hall := all_withIdColumn htable hschema
    show checkSchema (withIdColumn schema table) = _
    rw [checkSchema_of_statements (by rw [hall]; exact List.cons_ne_nil _ _), hall]
    simp only [List.flatMap_singleton, checkStatement_withIdColumn htable hschema]
    split <;> rfl
  refine ⟨hreport, ?_⟩
  rw [hreport]
  split
  · next hdollar =>
    constructor
    · rintro ⟨hvalid, -⟩
      exact absurd hvalid (by decide)
    · exact fun hnone => absurd hdollar hnone
  · next hdollar => exact ⟨fun _ => hdollar, fun _ => ⟨rfl, rfl⟩⟩

end Label

/-- Names in quotes, with a schema, and the same where the schema has a dollar sign. -/
theorem checkSchema_withIdColumn_orders :
    let orders : Header.Word := ⟨true, "Orders_2".toList, true⟩
    let shop : Header.Word := ⟨false, "shop".toList, false⟩
    let price : Header.Word := ⟨true, "price$usd".toList, true⟩
    withIdColumn (some shop) orders =
      "CREATE TABLE shop.\"Orders_2\" (id INT PRIMARY KEY);".toList ∧
    (checkSchema (withIdColumn (some shop) orders)).isValid = true ∧
    (checkSchema (withIdColumn (some shop) orders)).tables.map (·.name) = ["Orders_2".toList] ∧
    (checkSchema (withIdColumn (some price) orders)).isValid = false := by
  intro orders shop price
  have horders : Identifier.isValid orders.name = true := by decide
  have hshop : ∀ w ∈ some shop, Identifier.isValid w.name = true := by
    intro w hw
    obtain rfl := Option.some.inj hw
    decide
  have hprice : ∀ w ∈ some price, Identifier.isValid w.name = true := by
    intro w hw
    obtain rfl := Option.some.inj hw
    decide
  obtain ⟨-, hvalid⟩ := checkSchema_withIdColumn horders hshop
  obtain ⟨hrejected, -⟩ := checkSchema_withIdColumn horders hprice
  obtain ⟨hisValid, htables⟩ := hvalid.mpr (by decide)
  refine ⟨by decide, hisValid, htables, ?_⟩
  rw [hrejected, if_pos (by decide)]
  rfl

/-- A valid name with a dollar sign: the statement is rejected, and names no table. -/
theorem dollar_name_rejected :
    let s := "CREATE TABLE price$usd (id INT PRIMARY KEY);".toList
    Identifier.isValid "price$usd".toList = true ∧ (checkSchema s).isValid = false ∧
      (checkSchema s).tables = [] ∧
      (checkSchema s).errors = [.error .invalidTableName "Invalid table name: \"\"".toList] := by
  decide +kernel

end Statement

end SchemaIntake
