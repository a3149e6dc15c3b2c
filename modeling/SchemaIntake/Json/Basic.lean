import SchemaIntake.Text.Basic

/-!
# JSON values

## Main definitions

* `Json` — a JSON value.  Numbers are kept as they are written, objects keep the order of
  their members and may repeat a name.
* `Json.Literal` — what a string literal stands for.
* `Json.text`, `Json.natural`, `Json.record` — the values that the library writes.
* `Json.sortKeys` — a value with the members of all its objects sorted by name.
-/

namespace SchemaIntake

open Text

/-- What a string literal stands for: a text, or nothing when an escape in it names one half
of a surrogate pair without the other.  Such a literal is well formed, and may stand where
nobody asks for its text. -/
abbrev Json.Literal := Option Text

inductive Json
  | null
  | bool (value : Bool)
  /-- A number as it is written. -/
  | number (written : Text)
  | string (literal : Json.Literal)
  | array (items : List Json)
  | object (members : List (Json.Literal × Json))

namespace Json

def text (t : Text) : Json := .string (some t)

def natural (n : Nat) : Json := .number (decimal n)

def integer (i : Int) : Json := .number (decimalInt i)

/-- An object whose names are known texts. -/
def record (members : List (Text × Json)) : Json :=
  .object (members.map fun m => (some m.1, m.2))

/-! ### Sorting -/

/-- The order of member names; a literal without text comes first. -/
def nameLe : Literal → Literal → Bool
  | none, _ => true
  | some _, none => false
  | some a, some b => inOrder a b

/-- Puts a member before the first one with a greater name. -/
def insertMember (m : Literal × Json) : List (Literal × Json) → List (Literal × Json)
  | [] => [m]
  | other :: rest =>
    if nameLe m.1 other.1 then m :: other :: rest else other :: insertMember m rest

mutual

/-- A value with the members of all its objects sorted by name. -/
def sortKeys : Json → Json
  | .null => .null
  | .bool b => .bool b
  | .number n => .number n
  | .string s => .string s
  | .array items => .array (sortItems items)
  | .object members => .object (sortMembers members)

/-- Sorts inside each item of an array. -/
def sortItems : List Json → List Json
  | [] => []
  | item :: rest => sortKeys item :: sortItems rest

/-- Sorts inside each member and then the members. -/
def sortMembers : List (Literal × Json) → List (Literal × Json)
  | [] => []
  | (name, value) :: rest => insertMember (name, sortKeys value) (sortMembers rest)

end

end Json

end SchemaIntake
