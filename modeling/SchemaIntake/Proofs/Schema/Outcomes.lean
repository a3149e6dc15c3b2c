import SchemaIntake.Proofs.Ddl.Statements
import SchemaIntake.Proofs.Text.Trimming
import SchemaIntake.Schema.Check

/-!
# Outcomes of statements and of whole schemas

A report is put together from the outcomes of its statements, and the outcome of a statement is
that of its table once the checks on the statement as a whole are passed.

## Main definitions

* `Statement.IsAdmitted s name` — the checks that come before the elements of a table are looked
  at.

## Main results

* `checkStatement_of_isAdmitted` — an admitted statement has the outcome of its table.
* `checkSchema_of_statements` — the report on a text that holds statements.
* `exists_isAdmitted_of_mem_tables` — every table of a report comes from an admitted statement.
-/

namespace SchemaIntake

open Text

/-! ### Merging outcomes -/

namespace Outcome

theorem append_assoc (a b c : Outcome) : (a.append b).append c = a.append (b.append c) := by
  simp only [append, List.append_assoc]

/-- Merging from the left collects each component on its own. -/
theorem concat_eq (outcomes : List Outcome) :
    concat outcomes = ⟨outcomes.flatMap (·.tables), outcomes.flatMap (·.errors),
      outcomes.flatMap (·.warnings)⟩ := by
  suffices h : ∀ start, outcomes.foldl append start = start.append
      ⟨outcomes.flatMap (·.tables), outcomes.flatMap (·.errors), outcomes.flatMap (·.warnings)⟩ from
    h empty
  induction outcomes with
  | nil => intro start; simp [append]
  | cons outcome outcomes ih =>
    intro start
    rw [List.foldl_cons, ih, append_assoc]
    rfl

end Outcome

/-! ### Statements -/

/-- The checks on a statement as a whole are passed: nothing but a semicolon follows the last
parenthesis, the header names a table validly, and the body is not empty. -/
structure Statement.IsAdmitted (statement name : Text) : Prop where
  /-- Nothing but a semicolon follows the last parenthesis. -/
  noTrailingText : Statement.hasTrailingText statement = false
  /-- The header gives the name. -/
  named : Statement.tableName? statement = some name
  validName : Identifier.isValid name = true
  hasBody : Statement.body statement ≠ []

/-- An admitted statement has the outcome of its table. -/
theorem checkStatement_of_isAdmitted {statement name : Text}
    (h : Statement.IsAdmitted statement name) :
    checkStatement statement = checkTable name (Statement.body statement) := by
  unfold checkStatement
  rw [if_neg (by simp [h.noTrailingText]), h.named, Option.getD_some]
  rw [if_neg (by simp [h.validName]), if_neg (by simpa using h.hasBody)]

/-- The checks on a statement, one after the other.  No empty name is valid, so where the name is
valid there is a header that gives it. -/
theorem Statement.isAdmitted_of_checks {s : Text} (htrailing : hasTrailingText s = false)
    (hvalid : Identifier.isValid ((tableName? s).getD []) = true) (hbody : body s ≠ []) :
    IsAdmitted s ((tableName? s).getD []) := by
  cases hname : tableName? s with
  | none => simp [hname, Identifier.isValid] at hvalid
  | some name =>
    rw [hname, Option.getD_some] at hvalid
    exact ⟨htrailing, hname, hvalid, hbody⟩

/-- A statement that is not admitted is rejected for a single reason. -/
theorem isAdmitted_or_rejected (statement : Text) :
    (∃ name, Statement.IsAdmitted statement name) ∨
      ∃ finding, checkStatement statement = .rejected finding := by
  unfold checkStatement
  split
  · exact Or.inr ⟨_, rfl⟩
  · next htrailing =>
    dsimp only
    split
    · exact Or.inr ⟨_, rfl⟩
    · next hvalid =>
      split
      · exact Or.inr ⟨_, rfl⟩
      · next hbody =>
        exact Or.inl ⟨_, Statement.isAdmitted_of_checks (by simpa using htrailing)
          (by simpa using hvalid) (by simpa using hbody)⟩

/-! ### Schemas -/

/-- The characters of a statement are characters of the text it was found in. -/
theorem Statement.subset_of_mem_all {sql s : Text} (h : s ∈ Statement.all sql) : s ⊆ sql := by
  obtain ⟨before, w, after, rfl, rfl, -, -⟩ := Statement.exists_of_mem_all h
  rw [List.append_cons w ';' after]
  exact List.Subset.trans (List.subset_append_left _ after) (List.subset_append_right before _)

/-- A text that holds a statement is not blank: the statement ends with a semicolon. -/
theorem isAllBlank_of_mem_all {sql s : Text} (h : s ∈ Statement.all sql) :
    isAllBlank sql = false := by
  obtain ⟨w, rfl, -⟩ := Statement.ends_with_semicolon h
  rw [Bool.eq_false_iff, Ne, isAllBlank_iff]
  intro hblank
  have := hblank ';' (Statement.subset_of_mem_all h (by simp))
  exact absurd this (by decide)

/-- **The report on a text that holds statements** collects the outcomes of the statements. -/
theorem checkSchema_of_statements {sql : Text} (h : Statement.all sql ≠ []) :
    checkSchema sql = .ofFindings
      ((Statement.all sql).flatMap fun s => (checkStatement s).tables)
      ((Statement.all sql).flatMap fun s => (checkStatement s).errors)
      ((Statement.all sql).flatMap fun s => (checkStatement s).warnings) := by
  obtain ⟨s, hs⟩ := List.exists_mem_of_ne_nil _ h
  unfold checkSchema
  rw [if_neg (by simp [isAllBlank_of_mem_all hs]), if_neg (by simpa [Statement.occursIn] using h),
    Outcome.concat_eq]
  simp only [List.flatMap_map]

/-- The report on a text without statements has neither tables nor warnings. -/
theorem checkSchema_of_all_eq_nil {sql : Text} (h : Statement.all sql = []) :
    (checkSchema sql).tables = [] ∧ (checkSchema sql).warnings = [] := by
  unfold checkSchema
  split
  · exact ⟨rfl, rfl⟩
  · rw [if_pos (by simp [Statement.occursIn, h])]
    exact ⟨rfl, rfl⟩

/-- **Every table of a report comes from an admitted statement.** -/
theorem exists_isAdmitted_of_mem_tables {sql : Text} {table : Table}
    (h : table ∈ (checkSchema sql).tables) : ∃ s ∈ Statement.all sql, ∃ name,
      Statement.IsAdmitted s name ∧ table ∈ (checkTable name (Statement.body s)).tables := by
  have hne : Statement.all sql ≠ [] := by
    intro hnil
    rw [(checkSchema_of_all_eq_nil hnil).1] at h
    exact absurd h (List.not_mem_nil)
  rw [checkSchema_of_statements hne] at h
  obtain ⟨s, hs, htable⟩ := List.mem_flatMap.mp h
  refine ⟨s, hs, ?_⟩
  rcases isAdmitted_or_rejected s with ⟨name, hname⟩ | ⟨finding, hfinding⟩
  · exact ⟨name, hname, checkStatement_of_isAdmitted hname ▸ htable⟩
  · rw [hfinding] at htable
    exact absurd htable (List.not_mem_nil)

end SchemaIntake
