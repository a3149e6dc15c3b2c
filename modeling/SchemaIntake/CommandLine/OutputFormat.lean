import SchemaIntake.Text.Case

/-!
# Output formats

## Main definitions

* `OutputFormat` — for people or as JSON.
* `OutputFormat.ofName? t` — the format that is written exactly so.
* `OutputFormat.read t` — the same with its case left aside.
-/

namespace SchemaIntake

open Text

/-- How a report is printed. -/
inductive OutputFormat
  | human
  | json
deriving DecidableEq, Repr

/-- A text that names no output format. -/
structure UnknownOutputFormat where
  given : Text
deriving DecidableEq, Repr

def UnknownOutputFormat.message (e : UnknownOutputFormat) : Text :=
  "Unknown output format: ".toList ++ e.given ++ ". Use human or json".toList

namespace OutputFormat

def all : List OutputFormat := [human, json]

/-- The name of an output format as it is written. -/
def name : OutputFormat → Text
  | human => "human".toList
  | json => "json".toList

/-- The output format that is written exactly so. -/
def ofName? (t : Text) : Option OutputFormat := all.find? (·.name = t)

/-- The output format that a person means by a text. -/
def read (t : Text) : Except UnknownOutputFormat OutputFormat :=
  match ofName? (lower t) with
  | some format => .ok format
  | none => .error ⟨t⟩

end OutputFormat

end SchemaIntake
