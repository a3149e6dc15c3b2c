import SchemaIntake.Json.Printer
import SchemaIntake.Json.Reader

/-!
# Values of a type as JSON

A type that travels as JSON says how its values are written and which JSON values it reads.

## Main definitions

* `Wire α` — writing and reading the values of `α`.
* `Wire.toText layout a`, `Wire.ofText? t` — the same with the text of the JSON value.
* `Json.fields? names v` — the values of named fields, given by name or by position.
* `Json.text?`, `Json.bool?`, `Json.natural?`, `Json.integer?`, `Json.list?`, `Json.oneOf?` —
  reading simple values.
* `Field` — a field that was found, or not; `Field.required`, `Field.withDefault` and
  `Field.optional` say what a missing one means.
-/

namespace SchemaIntake

open Text

/-- How the values of a type are written as JSON and read back. -/
class Wire (α : Type) where
  /-- The JSON value of a value. -/
  encode : α → Json
  /-- The value that a JSON value stands for. -/
  decode? : Json → Option α

namespace Wire

def toText {α : Type} [Wire α] (layout : Json.Layout) (a : α) : Text := (encode a).render layout

/-- The value that a JSON text stands for. -/
def ofText? {α : Type} [Wire α] (t : Text) : Option α := (Json.parse? t).bind decode?

end Wire

namespace Json

/-! ### Simple values -/

def text? : Json → Option Text
  | .string s => s
  | _ => none

def bool? : Json → Option Bool
  | .bool b => some b
  | _ => none

/-- The natural number that some digits write. -/
def digits? (t : Text) : Option Nat :=
  if !t.isEmpty && t.all isDigit then some (Nat.ofDigitChars 10 t 0) else none

/-- A natural number of at most 64 bits.  It must be written without sign, point and
exponent. -/
def natural? : Json → Option Nat
  | .number t => (digits? t).filter (· < Nat.pow 2 64)
  | _ => none

/-- An integer that a signed word of 64 bits holds.  Zero must be written without a sign. -/
def integer? : Json → Option Int
  | .number ('-' :: t) =>
    ((digits? t).filter fun n => 0 < n && n ≤ Nat.pow 2 63).map fun n => -(n : Int)
  | .number t => ((digits? t).filter (· < Nat.pow 2 63)).map fun n => (n : Int)
  | _ => none

/-- A list whose items are all read the same way. -/
def list? {α : Type} (item : Json → Option α) : Json → Option (List α)
  | .array items => items.mapM item
  | _ => none

/-- One of several values, by its name: as a text, or as an object of one member with that
name and the value null. -/
def oneOf? {α : Type} (all : List α) (name : α → Text) : Json → Option α
  | .string (some t) => all.find? (name · = t)
  | .object [(some t, .null)] => all.find? (name · = t)
  | _ => none

/-! ### Structures -/

/-- A field of a structure: its value, if it is given. -/
abbrev Field := Option Json

/-- A field that must be given. -/
def Field.required {α : Type} (read : Json → Option α) (field : Field) : Option α :=
  field.bind read

/-- A field that has a default. -/
def Field.withDefault {α : Type} (default : α) (read : Json → Option α) : Field → Option α
  | none => some default
  | some value => read value

/-- A field that may be missing or null. -/
def Field.optional {α : Type} (read : Json → Option α) : Field → Option (Option α)
  | none => some none
  | some .null => some none
  | some value => (read value).map some

/-- The values of the fields with given names.  An object gives them by name, in any order;
members with other names are passed over, but no field may be given twice and no name may lack
a text.  An array gives them by position and may be too short, but not too long. -/
def fields? (names : List Text) : Json → Option (List Field)
  | .object members =>
    if members.all (·.1.isSome) then
      names.mapM fun name =>
        match members.filter (·.1 = some name) with
        | [] => some none
        | [member] => some (some member.2)
        | _ => none
    else none
  | .array items =>
    if items.length ≤ names.length then
      some (items.map some ++ List.replicate (names.length - items.length) none)
    else none
  | _ => none

/-- Members that are written only where there is something to write. -/
def ifSome (name : Text) : Option Json → List (Text × Json)
  | some value => [(name, value)]
  | none => []

/-- A list that is written only where it is not empty. -/
def ifNonempty (name : Text) : List Json → List (Text × Json)
  | [] => []
  | items => [(name, .array items)]

end Json

end SchemaIntake
