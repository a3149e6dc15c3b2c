import SchemaIntake.Json.Decoding
import SchemaIntake.Text.Case

/-!
# Optimization types

The access pattern that a design should favour.  It is not looked at here; it travels with
the schema.

## Main definitions

* `Optimization` — the access patterns, `Optimization.balanced` being the default.
* `Optimization.ofName? t` — the one that is written exactly so.
* `Optimization.read t` — the same for people: white space around it and its case are left
  aside.
-/

namespace SchemaIntake

open Text

/-- The access pattern that a design should favour. -/
inductive Optimization
  | readHeavy | writeHeavy | balanced
deriving DecidableEq, Repr

/-- A text that names no optimization type. -/
structure UnknownOptimization where
  given : Text
deriving DecidableEq, Repr

def UnknownOptimization.message (e : UnknownOptimization) : Text :=
  "Unknown optimization type: '".toList ++ e.given ++
    "'. Valid values: read_heavy, write_heavy, balanced.".toList

namespace Optimization

def all : List Optimization := [readHeavy, writeHeavy, balanced]

/-- The name of an optimization type as it is written. -/
def name : Optimization → Text
  | readHeavy => "read_heavy".toList
  | writeHeavy => "write_heavy".toList
  | balanced => "balanced".toList

/-- The optimization type that is written exactly so. -/
def ofName? (t : Text) : Option Optimization := all.find? (·.name = t)

/-- The optimization type that a person means by a text. -/
def read (t : Text) : Except UnknownOptimization Optimization :=
  match ofName? (lower (trim t)) with
  | some optimization => .ok optimization
  | none => .error ⟨t⟩

instance : Wire Optimization where
  encode optimization := .text optimization.name
  decode? := Json.oneOf? all name

end Optimization

end SchemaIntake
