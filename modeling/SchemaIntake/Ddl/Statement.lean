import SchemaIntake.Ddl.Header

/-!
# Statements

A statement runs from an opening `CREATE TABLE` to the next semicolon.  Nothing shields a
semicolon: one inside a quoted text or a comment ends the statement just as well.

## Main definitions

* `Statement.all sql` — the statements of a text, in order.
* `Statement.tableName? s` — the table name in the first header that can be read in `s`.
* `Statement.body s` — the text between the first `(` and the last `)`.
* `Statement.hasTrailingText s` — whether more than a semicolon follows the last `)`.

## Main results

* `Statement.ends_with_semicolon` — a statement ends with its only semicolon.
-/

namespace SchemaIntake

open Text

namespace Statement

/-- Whether an opening `CREATE TABLE` can be read at the start of the text. -/
def opens (t : Text) : Bool := (Header.opening? t).isSome

/-- The statements of a text, in order.  Where no semicolon follows an opening, none follows a
later one either, so nothing more is found. -/
def all : Text → List Text
  | [] => []
  | c :: rest =>
    if opens (c :: rest) then
      match _h : throughFirst? ';' (c :: rest) with
      | some (statement, after) => statement :: all after
      | none => []
    else all rest
termination_by t => t.length
decreasing_by
  · exact length_of_throughFirst? _h
  · simp

/-- Whether a text holds a statement. -/
def occursIn (sql : Text) : Bool := !(all sql).isEmpty

/-- The table name in the first header that can be read anywhere in the statement. -/
def tableName? (statement : Text) : Option Text :=
  (Header.find? statement).map (·.table.name)

/-- The text between the first `(` and the last `)`, without white space at its ends.  It is
empty where one of the two is missing or they stand the other way round. -/
def body (statement : Text) : Text :=
  ((afterFirst? '(' statement).bind (beforeLast? ')')).elim [] trim

/-- Whether anything but a single semicolon follows the last `)`.  A statement without one
counts as having trailing text. -/
def hasTrailingText (statement : Text) : Bool :=
  match afterLast? ')' statement with
  | some after => !(trim after).isEmpty && trim after != [';']
  | none => true

/-- A statement ends with its only semicolon. -/
theorem ends_with_semicolon {sql s : Text} (h : s ∈ all sql) : ∃ w, s = w ++ [';'] ∧ ';' ∉ w := by
  fun_induction all sql with
  | case1 => simp at h
  | case2 c rest _ statement after hs ih =>
    rcases List.mem_cons.1 h with rfl | h
    · exact throughFirst?_eq_some hs
    · exact ih h
  | case3 => simp at h
  | case4 c rest _ ih => exact ih h

end Statement

end SchemaIntake
