import SchemaIntake.Ddl.DataType
import SchemaIntake.Ddl.Identifier
import SchemaIntake.Ddl.Nesting

/-!
# Column definitions

An element that defines a column: a name, a data type and modifiers.

## Main definitions

* `ColumnDefinition` — the name and the type of a column.
* `ColumnFault` — why an element defines no column.
* `firstMisplaced? tokens start` — the first modifier from a position on that may not stand
  where it stands.
* `ColumnDefinition.read element` — the definition, or the fault.
-/

namespace SchemaIntake

open Text

/-- The name and the type of a column. -/
structure ColumnDefinition where
  /-- The name, without the quotes around it. -/
  name : Text
  /-- The type, whose base name is in the catalog. -/
  type : DeclaredType
deriving DecidableEq, Repr

/-- Why an element defines no column. -/
inductive ColumnFault
  /-- A name without a type. -/
  | incomplete
  /-- The type is not in the catalog. -/
  | unknownType (column type : Text)
  /-- The name is no valid identifier. -/
  | invalidName (column : Text)
  /-- A token after the type may not stand where it stands. -/
  | misplacedToken (column token : Text)
deriving DecidableEq, Repr

/-- The column that a fault is put down to, if a name was given. -/
def ColumnFault.column? : ColumnFault → Option Text
  | .incomplete => none
  | .unknownType column _ => some column
  | .invalidName column => some column
  | .misplacedToken column _ => some column

/-! ### Modifiers -/

/-- The words that may follow the type of a column. -/
def modifierWords : List Text :=
  ["NOT", "NULL", "DEFAULT", "PRIMARY", "UNIQUE", "CHECK", "REFERENCES", "CONSTRAINT",
    "COLLATE", "GENERATED", "ALWAYS", "AS", "STORED", "IDENTITY", "ON", "UPDATE", "DELETE",
    "CASCADE", "RESTRICT", "NO", "ACTION", "SET", "DEFERRABLE", "INITIALLY", "DEFERRED",
    "IMMEDIATE", "NOW()", "TRUE", "FALSE"].map String.toList

/-- The words after which any token may stand as a value. -/
def valueIntroducers : List Text := ["REFERENCES", "DEFAULT", "COLLATE"].map String.toList

/-- The word that must stand directly before a word. -/
def requiredBefore? (word : Text) : Option Text :=
  if word = "KEY".toList then some "PRIMARY".toList else none

/-- The words of which one must stand directly after a word. -/
def requiredAfter? (word : Text) : Option (List Text) :=
  if word = "PRIMARY".toList then some ["KEY".toList]
  else if word = "NOT".toList then some ["NULL".toList, "DEFERRABLE".toList]
  else none

/-- A token that stands for a value or holds a parenthesised part, and may stand anywhere. -/
def isOperand (token : Text) : Bool :=
  '(' ∈ token ||
    match token with
    | c :: _ => c == '\x27' || c == '-' || isDigit c
    | [] => false

/-- Whether a modifier may stand between its neighbours.  The token that ends the type does
not count as a neighbour.  Words are told apart in upper case, required neighbours by the case
of ASCII letters only. -/
def mayStand (before? : Option Text) (token : Text) (after? : Option Text) : Bool :=
  let word := upper token
  if isOperand token then true
  else match requiredBefore? word with
  | some required => before?.any (sameLetters · required)
  | none =>
    if modifierWords.contains word then
      match requiredAfter? word with
      | some allowed => after?.any fun after => allowed.any (sameLetters after ·)
      | none => true
    else before?.any fun before => valueIntroducers.contains (upper before)

/-- The first of some modifiers that may not stand where it stands, when `before?` stands in
front of them. -/
def firstMisplacedAfter? (before? : Option Text) : List Text → Option Text
  | [] => none
  | token :: rest =>
    if mayStand before? token rest.head? then firstMisplacedAfter? (some token) rest
    else some token

/-- The first token from position `start` on that may not stand where it stands. -/
def firstMisplaced? (tokens : List Text) (start : Nat) : Option Text :=
  firstMisplacedAfter? none (tokens.drop start)

/-! ### The definition -/

/-- Reads a column definition from its tokens.  An unknown type is reported rather than an
invalid name, and either rather than a misplaced modifier. -/
def ColumnDefinition.ofTokens (tokens : List Text) : Except ColumnFault ColumnDefinition :=
  match tokens with
  | [] => .error .incomplete
  | first :: rest =>
    let name := Identifier.unquote first
    match DeclaredType.ofTokens? rest with
    | none => .error .incomplete
    | some type =>
      if !type.isKnown then .error (.unknownType name type.raw)
      else if !Identifier.isValid name then .error (.invalidName name)
      else match firstMisplaced? tokens (1 + type.wordCount) with
      | some token => .error (.misplacedToken name token)
      | none => .ok ⟨name, type⟩

def ColumnDefinition.read (element : Text) : Except ColumnFault ColumnDefinition :=
  ofTokens (tokens element)

end SchemaIntake
