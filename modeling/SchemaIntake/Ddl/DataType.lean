import SchemaIntake.Text.Case

/-!
# Data types

The base types that a column may have, and how the type of a column is found in the tokens
after its name.

## Main definitions

* `DataType.Category` — the family of a base type.
* `DataType.catalog` — the base types with their categories.
* `DataType.normalize t` — the base name that a written type is looked up by.
* `DataType.isKnown t`, `DataType.category? t` — looking a written type up.
* `DeclaredType.ofTokens? ts` — the type at the start of some tokens.
-/

namespace SchemaIntake

open Text

namespace DataType

/-- The family of a base type. -/
inductive Category
  | numeric | character | binary | dateTime | boolean | json | uuid | network | geometric
  | textSearch | xml | bitString | range
deriving DecidableEq, Repr

/-- The name of a category as it is shown. -/
def Category.label : Category → Text
  | .numeric => "numeric".toList
  | .character => "character".toList
  | .binary => "binary".toList
  | .dateTime => "date/time".toList
  | .boolean => "boolean".toList
  | .json => "json".toList
  | .uuid => "uuid".toList
  | .network => "network".toList
  | .geometric => "geometric".toList
  | .textSearch => "text search".toList
  | .xml => "xml".toList
  | .bitString => "bit string".toList
  | .range => "range".toList

/-- The base types by category. -/
def catalogByCategory : List (Category × List String) :=
  [(.numeric,
    ["smallint", "int2", "integer", "int", "int4", "bigint", "int8", "decimal", "numeric",
     "real", "float4", "double precision", "float8", "float", "smallserial", "serial2",
     "serial", "serial4", "bigserial", "serial8", "money"]),
   (.character,
    ["character varying", "varchar", "character", "char", "text", "citext"]),
   (.binary,
    ["bytea"]),
   (.dateTime,
    ["timestamp", "timestamp without time zone", "timestamp with time zone", "timestamptz",
     "date", "time", "time without time zone", "time with time zone", "timetz", "interval"]),
   (.boolean,
    ["boolean", "bool"]),
   (.json,
    ["json", "jsonb"]),
   (.uuid,
    ["uuid"]),
   (.network,
    ["cidr", "inet", "macaddr", "macaddr8"]),
   (.geometric,
    ["point", "line", "lseg", "box", "path", "polygon", "circle"]),
   (.textSearch,
    ["tsvector", "tsquery"]),
   (.xml,
    ["xml"]),
   (.bitString,
    ["bit", "bit varying", "varbit"]),
   (.range,
    ["int4range", "int8range", "numrange", "tsrange", "tstzrange", "daterange"])]

/-- The base types with their categories. -/
def catalog : List (Text × Category) :=
  catalogByCategory.flatMap fun entry => entry.2.map fun name => (name.toList, entry.1)

/-- The first two words of the type names that have more than one. -/
def twoWordOpenings : List Text :=
  ["double precision", "character varying", "bit varying", "timestamp without",
    "timestamp with", "time without", "time with"].map String.toList

/-- A text without one array suffix `[]` at its end. -/
def dropArraySuffix (t : Text) : Text :=
  if "[]".toList.isSuffixOf t then t.take (t.length - 2) else t

/-- The base name of a written type: in lower case, without one array suffix and without
anything from the first parenthesis on. -/
def normalize (written : Text) : Text :=
  let t := dropArraySuffix (lower written)
  if '(' ∈ t then trim (t.takeWhile (· != '(')) else t

/-- The category of a written type, if its base name is in the catalog. -/
def category? (written : Text) : Option Category := catalog.lookup (normalize written)

/-- Whether a type is written and its base name is in the catalog. -/
def isKnown (written : Text) : Bool := !written.isEmpty && (category? written).isSome

end DataType

/-! ### The type of a column -/

/-- A type as it is declared after a column name. -/
structure DeclaredType where
  /-- The type as written; one of two words is in lower case, with one space between them. -/
  raw : Text
  /-- How many tokens the type takes up. -/
  wordCount : Nat
deriving DecidableEq, Repr

namespace DeclaredType

def baseName (type : DeclaredType) : Text := DataType.normalize type.raw

/-- Whether the base name is in the catalog. -/
def isKnown (type : DeclaredType) : Bool := DataType.isKnown type.raw

/-- The first two tokens as one type, if they start like a type name of several words. -/
def ofTwoWords? (first second : Text) : Option DeclaredType :=
  let joined := lower (first ++ ' ' :: second)
  if DataType.twoWordOpenings.any (·.isPrefixOf joined) then some ⟨joined, 2⟩ else none

/-- The type at the start of the tokens: the first two if they start like a type name of
several words, and the first one otherwise. -/
def ofTokens? : List Text → Option DeclaredType
  | [] => none
  | [first] => some ⟨first, 1⟩
  | first :: second :: _ => (ofTwoWords? first second).or (some ⟨first, 1⟩)

end DeclaredType

end SchemaIntake
