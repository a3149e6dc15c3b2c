import SchemaIntake.Text.Basic

/-!
# Identifiers

The names that tables, columns and constraints may have.

## Main definitions

* `Identifier.isValid name` — the rule for a name.
* `Identifier.unquote name` — a name without the double quotes around it.
-/

namespace SchemaIntake

open Text

namespace Identifier

def maxLength : Nat := 63

/-- A name starts with an ASCII letter or an underscore. -/
def isStart (c : Char) : Bool := isLetter c || c == '_'

/-- A name goes on with ASCII letters, digits, underscores and dollar signs. -/
def isContinuation (c : Char) : Bool := isLetter c || isDigit c || c == '_' || c == '$'

/-- A valid name is not empty, has at most 63 characters and only such as are allowed.  All of
these are ASCII, so it makes no difference whether its length is counted in bytes. -/
def isValid : Text → Bool
  | [] => false
  | c :: rest => rest.length < maxLength && isStart c && rest.all isContinuation

/-- A name without the double quotes at its start and at its end, however many there are. -/
def unquote (name : Text) : Text :=
  ((name.dropWhile (· == '"')).reverse.dropWhile (· == '"')).reverse

end Identifier

end SchemaIntake
