import SchemaIntake.Proofs.Schema.Outcomes

/-!
# Statements checked on their own

Whether a statement opens somewhere is decided before its semicolon: no keyword and no white
space reaches past one.  So a statement that is cut out of its text is found again as the only
statement there, and the report on a text is made up of the reports on its statements.

## Main definitions

* `Header.StopsAtSemicolon read` — what `read` does is settled before the first semicolon.

## Main results

* `Header.stopsAtSemicolon_opening?` — `CREATE TABLE` is read without regard to what follows the
  semicolon.
* `Statement.all_of_mem_all` — **a statement is the only statement of itself**.
* `checkSchema_eq_of_statements` — **the report on a text** joins the reports on its statements.
-/

namespace SchemaIntake

open Text

/-! ### Reading up to a semicolon -/

namespace Header

/-- What a reader does to a text is settled by what stands before the first semicolon: it fails
whatever follows, or it leaves the semicolon and what follows after the same rest. -/
def StopsAtSemicolon (read : Text → Option Text) : Prop :=
  ∀ w, ';' ∉ w → ∃ left? : Option Text, (∀ left ∈ left?, ';' ∉ left) ∧
    ∀ rest, read (w ++ ';' :: rest) = left?.map (· ++ ';' :: rest)

/-- One reader after the other. -/
theorem StopsAtSemicolon.bind {read next : Text → Option Text} (hread : StopsAtSemicolon read)
    (hnext : StopsAtSemicolon next) : StopsAtSemicolon fun t => (read t).bind next := by
  intro w hw
  obtain ⟨left?, hleft, heq⟩ := hread w hw
  cases left? with
  | none => exact ⟨none, by simp, fun rest => by simp [heq]⟩
  | some left =>
    obtain ⟨left?', hleft', heq'⟩ := hnext left (hleft left rfl)
    refine ⟨left?', hleft', fun rest => ?_⟩
    change (read (w ++ ';' :: rest)).bind next = _
    rw [heq, Option.map_some, Option.bind_some, heq']

/-- A keyword none of whose letters can be a semicolon. -/
theorem stopsAtSemicolon_keyword? {word : Text} (h : word.any (folds · ';') = false) :
    StopsAtSemicolon (keyword? word) := by
  intro w hw
  induction word generalizing w with
  | nil => exact ⟨some w, by simpa using hw, fun rest => by simp [keyword?]⟩
  | cons letter word ih =>
    rw [List.any_cons, Bool.or_eq_false_iff] at h
    cases w with
    | nil => exact ⟨none, by simp, fun rest => by simp [keyword?, h.1]⟩
    | cons c w =>
      cases hc : folds letter c with
      | false => exact ⟨none, by simp, fun rest => by simp [keyword?, hc]⟩
      | true =>
        obtain ⟨left?, hleft, heq⟩ := ih h.2 w fun hmem => hw (List.mem_cons_of_mem c hmem)
        refine ⟨left?, hleft, fun rest => ?_⟩
        rw [List.cons_append, keyword?, if_pos hc, heq]

theorem stopsAtSemicolon_blanks? : StopsAtSemicolon blanks? := by
  have hsemicolon : isBlank ';' = false := by decide
  intro w hw
  cases w with
  | nil => exact ⟨none, by simp, fun rest => by simp [blanks?, hsemicolon]⟩
  | cons c w =>
    cases hc : isBlank c with
    | false => exact ⟨none, by simp, fun rest => by simp [blanks?, hc]⟩
    | true =>
      refine ⟨some (w.dropWhile isBlank), ?_, fun rest => ?_⟩
      · intro left hleft hmem
        obtain rfl := Option.some.inj hleft
        exact hw (List.mem_cons_of_mem c ((List.dropWhile_suffix isBlank).subset hmem))
      -- the white space ends before the semicolon, even if nothing else is left
      · have hdrop : (w ++ ';' :: rest).dropWhile isBlank = w.dropWhile isBlank ++ ';' :: rest := by
          rw [List.dropWhile_append, List.dropWhile_cons_of_neg (by simp [hsemicolon])]
          split
          · next hnil => rw [List.isEmpty_iff.mp hnil, List.nil_append]
          · rfl
        rw [List.cons_append, blanks?, if_pos hc, hdrop, Option.map_some]

/-- **`CREATE TABLE` is read without regard to what follows the semicolon.** -/
theorem stopsAtSemicolon_opening? : StopsAtSemicolon opening? :=
  (stopsAtSemicolon_keyword? (by decide)).bind <| stopsAtSemicolon_blanks?.bind <|
    (stopsAtSemicolon_keyword? (by decide)).bind stopsAtSemicolon_blanks?

end Header

/-! ### Statements cut out of their texts -/

namespace Statement

/-- Whether a statement opens is settled before its semicolon. -/
theorem opens_append {w : Text} (hw : ';' ∉ w) (rest : Text) :
    opens (w ++ ';' :: rest) = opens (w ++ [';']) := by
  obtain ⟨left?, -, hread⟩ := Header.stopsAtSemicolon_opening? w hw
  rw [opens, opens, hread, hread, Option.isSome_map, Option.isSome_map]

/-- **A statement is the only statement of itself.** -/
theorem all_of_mem_all {sql s : Text} (h : s ∈ all sql) : all s = [s] := by
  obtain ⟨-, w, after, -, rfl, hw, hopens⟩ := exists_of_mem_all h
  rw [opens_append hw] at hopens
  rw [all_append hopens hw, all]

end Statement

/-! ### Reports -/

/-- The report on a statement of a text gives the outcome of the statement. -/
theorem checkSchema_of_mem_all {sql s : Text} (h : s ∈ Statement.all sql) : checkSchema s =
    .ofFindings (checkStatement s).tables (checkStatement s).errors
      (checkStatement s).warnings := by
  have hall := Statement.all_of_mem_all h
  rw [checkSchema_of_statements (by simp [hall]), hall]
  simp only [List.flatMap_cons, List.flatMap_nil, List.append_nil]

/-- **The report on a text joins the reports on its statements.**  Each statement is the only one
of itself, the tables, errors and warnings of the text are those of its statements one after the
other, and the text is valid exactly if every statement is.  So what is shown of the statements
one by one is what the whole text is judged by. -/
theorem checkSchema_eq_of_statements {sql : Text} (h : Statement.all sql ≠ []) :
    (∀ s ∈ Statement.all sql, Statement.all s = [s]) ∧
      checkSchema sql = {
        isValid := (Statement.all sql).all fun s => (checkSchema s).isValid
        tables := (Statement.all sql).flatMap fun s => (checkSchema s).tables
        errors := (Statement.all sql).flatMap fun s => (checkSchema s).errors
        warnings := (Statement.all sql).flatMap fun s => (checkSchema s).warnings } := by
  have hreport := fun s (hs : s ∈ Statement.all sql) => checkSchema_of_mem_all hs
  -- no statement has an error just if there is none in all of them
  have hvalid : ((Statement.all sql).all fun s => (checkSchema s).isValid) =
      ((Statement.all sql).flatMap fun s => (checkSchema s).errors).isEmpty := by
    rw [Bool.eq_iff_iff, List.all_eq_true, List.isEmpty_iff, List.flatMap_eq_nil_iff]
    simp only [checkSchema_isValid, List.isEmpty_iff]
  refine ⟨fun s hs => Statement.all_of_mem_all hs, ?_⟩
  rw [checkSchema_of_statements h, hvalid,
    List.flatMap_congr fun s hs => congrArg Report.tables (hreport s hs),
    List.flatMap_congr fun s hs => congrArg Report.errors (hreport s hs),
    List.flatMap_congr fun s hs => congrArg Report.warnings (hreport s hs)]
  rfl

/-- Two statements, the first of them with an error and both with a warning, and text between
them that belongs to neither. -/
theorem report_joined_from_two_statements :
    let sql := "CREATE TABLE a (id FOO, x INT);".toList ++
      " DROP TABLE z; ".toList ++ "CREATE TABLE b (id INT);".toList
    Statement.all sql ≠ [] ∧
      (∀ s ∈ Statement.all sql, Statement.all s = [s]) ∧
      (checkSchema sql).isValid = false ∧
      ((checkSchema sql).tables.map (·.name)) = [['a'], ['b']] ∧
      ((checkSchema sql).errors.map (·.code)) = [.invalidDataType] ∧
      ((checkSchema sql).warnings.map (·.table)) = [some ['a'], some ['b']] := by
  intro sql
  have hne : Statement.all sql ≠ [] := by decide +kernel
  obtain ⟨hself, hreport⟩ := checkSchema_eq_of_statements hne
  rw [hreport]
  exact ⟨hne, hself, by decide +kernel⟩

end SchemaIntake
