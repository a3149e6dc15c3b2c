import Mathlib.Data.List.Forall2
import SchemaIntake.Proofs.Schema.Independence
import SchemaIntake.Proofs.Schema.Verdicts

/-!
# Which table definitions are looked at

A text is read from its start: past what opens no statement, and over a statement up to its
semicolon.  So a position is reached between two statements or from inside one.  An opening
`CREATE TABLE` therefore belongs to a statement exactly if a semicolon follows it.  One that no
semicolon follows is not looked at: the statements are those of the text before it.

## Main definitions

* `Statement.LiesInside before t` — the position between `before` and `t` lies inside a statement.

## Main results

* `Statement.exists_scan` — how a position of a text is reached.
* `Statement.liesInside_iff` — **an opening lies inside a statement** exactly if a semicolon
  follows.
* `checkSchema_append_unterminated` — a table definition without a semicolon is ignored.
* `checkSchema_accounts_for_openings` — **every opening is accounted for**.
-/

namespace SchemaIntake

open Text

namespace Statement

/-! ### Reading a text from its start -/

/-- A text without a semicolon holds no statement. -/
theorem all_eq_nil_of_not_mem {t : Text} (h : ';' ∉ t) : all t = [] := by
  refine List.eq_nil_iff_forall_not_mem.mpr fun s hs => h ?_
  obtain ⟨before, w, after, rfl, -, -, -⟩ := exists_of_mem_all hs
  simp

/-- Where no statement opens, none opens either when the text ends early: what is left would have
a semicolon, and then what follows it does not matter. -/
theorem all_cons_of_not_opens_append {c : Char} {a v : Text}
    (h : opens (c :: (a ++ v)) = false) : all (c :: a) = all a := by
  by_cases hmem : ';' ∈ c :: a
  · obtain ⟨w, r, hwr, hw⟩ := List.eq_append_cons_of_mem hmem
    have hlong : c :: (a ++ v) = w ++ ';' :: (r ++ v) := by
      rw [← List.cons_append, hwr, List.append_assoc, List.cons_append]
    refine all_cons_of_not_opens ?_
    rw [hwr, opens_append hw, ← opens_append hw (r ++ v), ← hlong, h]
  · have ha : ';' ∉ a := fun ha => hmem (List.mem_cons_of_mem c ha)
    rw [all_eq_nil_of_not_mem hmem, all_eq_nil_of_not_mem ha]

/-- **How a position of a text is reached**: between two statements, or from inside one that opens
at `x` and has not ended yet.  The statements before it are those of what comes before `x`. -/
theorem exists_scan (before t : Text) : ∃ a x, before = a ++ x ∧ ';' ∉ x ∧
    (x = [] ∨ opens (x ++ t) = true) ∧ all before = all a ∧
      all (before ++ t) = all a ++ all (x ++ t) := by
  -- by the length of `before`, since a whole statement of it may be read at once
  induction hn : before.length using Nat.strong_induction_on generalizing before with
  | _ n ih =>
    cases before with
    | nil => exact ⟨[], [], rfl, List.not_mem_nil, Or.inl rfl, rfl, by simp [all]⟩
    | cons c b =>
      cases hopens : opens (c :: (b ++ t)) with
      | false =>
        -- one character is passed over
        obtain ⟨a, x, rfl, hx, hreach, hbefore, hall⟩ := ih b.length (by simp [← hn]) b rfl
        have ha : all (c :: a) = all a :=
          all_cons_of_not_opens_append (v := x ++ t) (by rw [← List.append_assoc, hopens])
        refine ⟨c :: a, x, rfl, hx, hreach, ?_, ?_⟩
        · rw [all_cons_of_not_opens_append hopens, hbefore, ha]
        · rw [List.cons_append, all_cons_of_not_opens hopens, hall, ha]
      | true =>
        by_cases hmem : ';' ∈ c :: b
        · -- a whole statement is read
          obtain ⟨w, r, hwr, hw⟩ := List.eq_append_cons_of_mem hmem
          have hlength : r.length < n := by
            have := congrArg List.length hwr
            simp only [List.length_cons, List.length_append] at this hn
            omega
          obtain ⟨a, x, rfl, hx, hreach, hbefore, hall⟩ := ih r.length hlength r rfl
          have hword : opens (w ++ [';']) = true := by
            rw [← List.cons_append, hwr, List.append_assoc, List.cons_append] at hopens
            rwa [opens_append hw] at hopens
          have hread (rest : Text) : all (w ++ ';' :: rest) = (w ++ [';']) :: all rest :=
            all_append (by rw [opens_append hw, hword]) hw
          refine ⟨w ++ ';' :: a, x, by rw [hwr, List.append_assoc, List.cons_append], hx, hreach,
            ?_, ?_⟩
          · rw [hwr, hread, hbefore, hread]
          · rw [hwr, List.append_assoc, List.cons_append, hread, hall, hread, List.cons_append]
        · -- the statement goes on behind the position
          exact ⟨[], c :: b, rfl, hmem, Or.inr hopens,
            by rw [all_eq_nil_of_not_mem hmem, all], by simp [all]⟩

/-! ### Openings -/

/-- The position between `before` and `t` lies inside a statement of the text: the statement goes
from `x` over into `y`, the other statements are those of the text on either side. -/
def LiesInside (before t : Text) : Prop :=
  ∃ a x y b, before = a ++ x ∧ t = y ++ b ∧ y ≠ [] ∧
    all (before ++ t) = all a ++ (x ++ y) :: all b

/-- A statement that a position lies inside of still has its semicolon to come. -/
theorem LiesInside.semicolon_mem {before t : Text} (h : LiesInside before t) : ';' ∈ t := by
  obtain ⟨a, x, y, b, -, rfl, hy, hall⟩ := h
  have hmem : x ++ y ∈ all (before ++ (y ++ b)) := by simp [hall]
  obtain ⟨w, hw, -⟩ := ends_with_semicolon hmem
  have hlast : y.getLast hy = ';' := by
    rw [← List.getLast_append_of_ne_nil (l := x) (by simp [hy]) hy]
    simp only [hw, List.getLast_append_of_ne_nil _ (List.cons_ne_nil ';' []),
      List.getLast_singleton]
  rw [← hlast]
  exact List.mem_append_left b (List.getLast_mem hy)

/-- **An opening lies inside a statement** exactly if a semicolon follows it. -/
theorem liesInside_iff {before t : Text} (hopens : opens t = true) :
    LiesInside before t ↔ ';' ∈ t := by
  refine ⟨LiesInside.semicolon_mem, fun hmem => ?_⟩
  obtain ⟨w, rest, rfl, hw⟩ := List.eq_append_cons_of_mem hmem
  obtain ⟨a, x, rfl, hx, hreach, -, hall⟩ := exists_scan before (w ++ ';' :: rest)
  have hxw : ';' ∉ x ++ w := by simp [hx, hw]
  -- the statement opens at `x`, and where `x` is empty it is the opening that opens it
  have hopens' : opens (x ++ w ++ ';' :: rest) = true := by
    rcases hreach with rfl | hreach
    · rwa [List.nil_append]
    · rwa [List.append_assoc]
  refine ⟨a, x, w ++ [';'], rest, rfl, by simp, by simp, ?_⟩
  rw [hall, ← List.append_assoc x, all_append hopens' hxw, List.append_assoc x]

/-- What no semicolon ends adds no statement. -/
theorem all_append_of_not_mem (before : Text) {t : Text} (h : ';' ∉ t) :
    all (before ++ t) = all before := by
  obtain ⟨a, x, rfl, hx, -, hbefore, hall⟩ := exists_scan before t
  have hxt : ';' ∉ x ++ t := by simp [hx, h]
  rw [hall, all_eq_nil_of_not_mem hxt, List.append_nil, hbefore]

/-- An opening begins with a letter. -/
theorem isAllBlank_of_opens {before t : Text} (h : opens t = true) :
    isAllBlank (before ++ t) = false := by
  rw [Bool.eq_false_iff, Ne, isAllBlank_iff]
  intro hblank
  cases t with
  | nil => exact absurd h (by decide)
  | cons c t =>
    have hc : isBlank c = true := hblank c (by simp)
    have hfolds : ¬ Header.folds 'C' c = true := by
      intro hfolds
      have hletter : c = 'C' ∨ c = 'c' := by simpa [Header.folds] using hfolds
      rcases hletter with rfl | rfl <;> exact absurd hc (by decide)
    have hkeyword : Header.keyword? "CREATE".toList (c :: t) = none := if_neg hfolds
    rw [opens, Header.opening?, hkeyword] at h
    exact absurd h (by decide)

end Statement

/-! ### Reports -/

/-- The report on a text whose last table definition is not terminated.  It says nothing of that
definition: it is the report on the text before it, or says that there is no statement at all. -/
theorem checkSchema_append_unterminated {before t : Text} (hopens : Statement.opens t = true)
    (h : ';' ∉ t) : checkSchema (before ++ t) =
      if Statement.all before = [] then
        .ofError (.error .noCreateTablesFound "No CREATE TABLE statements found".toList)
      else checkSchema before := by
  have hall := Statement.all_append_of_not_mem before h
  split
  · next hnil =>
    rw [checkSchema, if_neg (by simp [Statement.isAllBlank_of_opens hopens]),
      if_pos (by simp [Statement.occursIn, hall, hnil])]
  · next hne =>
    rw [checkSchema_of_statements (by rwa [hall]), hall, checkSchema_of_statements hne]

/-- A statement without errors defines one table. -/
theorem exists_table_of_errors_eq_nil {s : Text} (h : (checkStatement s).errors = []) :
    ∃ table, (checkStatement s).tables = [table] := by
  rcases isAdmitted_or_rejected s with ⟨name, hadmitted⟩ | ⟨finding, hrejected⟩
  · rw [checkStatement_of_isAdmitted hadmitted, checkTable_eq] at h ⊢
    split at h
    · exact absurd h (by simp)
    · next hcolumns => exact ⟨_, by rw [if_neg hcolumns]⟩
  · rw [hrejected, Outcome.rejected] at h
    exact absurd h (List.cons_ne_nil finding [])

/-- Where each element contributes one, the contributions stand in the order of the elements. -/
theorem forall₂_flatMap {α β : Type} {f : α → List β} {as : List α}
    (h : ∀ a ∈ as, ∃ b, f a = [b]) : List.Forall₂ (fun a b => f a = [b]) as (as.flatMap f) := by
  induction as with
  | nil => exact .nil
  | cons a as ih =>
    obtain ⟨b, hb⟩ := h a (by simp)
    rw [List.flatMap_cons, hb, List.singleton_append]
    exact .cons hb (ih fun a' ha' => h a' (List.mem_cons_of_mem a ha'))

/-- The tables of a valid schema are those of its statements, one each. -/
theorem forall₂_tables_of_isValid {sql : Text} (h : (checkSchema sql).isValid = true) :
    List.Forall₂ (fun s table => (checkStatement s).tables = [table]) (Statement.all sql)
      (checkSchema sql).tables := by
  rw [checkSchema_isValid, List.isEmpty_iff] at h
  by_cases hnil : Statement.all sql = []
  · rw [hnil, (checkSchema_of_all_eq_nil hnil).1]
    exact .nil
  · rw [checkSchema_of_statements hnil] at h ⊢
    refine forall₂_flatMap fun s hs => exists_table_of_errors_eq_nil ?_
    exact List.flatMap_eq_nil_iff.mp h s hs

/-- **Every opening of a table definition is accounted for.**  In a valid schema each statement
contributes one table.  Wherever `CREATE TABLE` can be read, the position lies inside a statement
if a semicolon follows it anywhere.  If none does, the definition is ignored: the report is that
on the text before it, unless there is no statement at all, which is reported. -/
theorem checkSchema_accounts_for_openings (sql : Text) :
    ((checkSchema sql).isValid = true →
      List.Forall₂ (fun s table => (checkStatement s).tables = [table]) (Statement.all sql)
        (checkSchema sql).tables) ∧
    ∀ before t, sql = before ++ t → Statement.opens t = true →
      (Statement.LiesInside before t ↔ ';' ∈ t) ∧
      (';' ∉ t → checkSchema sql =
        if Statement.all before = [] then
          .ofError (.error .noCreateTablesFound "No CREATE TABLE statements found".toList)
        else checkSchema before) := by
  refine ⟨forall₂_tables_of_isValid, ?_⟩
  rintro before t rfl hopens
  exact ⟨Statement.liesInside_iff hopens, checkSchema_append_unterminated hopens⟩

/-- Three definitions, the last of them without its semicolon: the second lies inside a statement,
the third does not and changes nothing. -/
theorem openings_of_three_tables :
    let a := "CREATE TABLE a (id INT PRIMARY KEY); ".toList
    let b := "create table b (id INT PRIMARY KEY); ".toList
    let c := "CREATE TABLE c (id FOO)".toList
    (checkSchema (a ++ b ++ c)).isValid = true ∧
      (checkSchema (a ++ b ++ c)).tables.length = (Statement.all (a ++ b ++ c)).length ∧
      Statement.LiesInside a (b ++ c) ∧ ¬ Statement.LiesInside (a ++ b) c ∧
      checkSchema (a ++ b ++ c) = checkSchema (a ++ b) := by
  intro a b c
  have hvalid : (checkSchema (a ++ b ++ c)).isValid = true := by decide +kernel
  obtain ⟨htables, hopenings⟩ := checkSchema_accounts_for_openings (a ++ b ++ c)
  obtain ⟨hsecond, -⟩ := hopenings a (b ++ c) (List.append_assoc a b c) (by decide +kernel)
  obtain ⟨hthird, hignored⟩ := hopenings (a ++ b) c rfl (by decide +kernel)
  have hc : ';' ∉ c := by decide +kernel
  refine ⟨hvalid, (htables hvalid).length_eq.symm, hsecond.mpr (by decide +kernel),
    fun h => hc (hthird.mp h), ?_⟩
  rw [hignored hc, if_neg (by decide +kernel)]

/-- A table that is followed by an unterminated one: the schema is valid without a word about the
second table, which lies in no statement. -/
theorem unterminated_table_is_not_reported :
    let before := "CREATE TABLE a (id INT PRIMARY KEY); ".toList
    let t := "CREATE TABLE b (id INT".toList
    Statement.opens t = true ∧ ¬ Statement.LiesInside before t ∧
      (checkSchema (before ++ t)).isValid = true ∧
      (checkSchema (before ++ t)).errors = [] ∧ (checkSchema (before ++ t)).warnings = [] ∧
      ((checkSchema (before ++ t)).tables.map (·.name)) = [['a']] := by
  intro before t
  refine ⟨by decide +kernel, ?_, by decide +kernel⟩
  intro hinside
  exact absurd hinside.semicolon_mem (by decide +kernel)

end SchemaIntake
