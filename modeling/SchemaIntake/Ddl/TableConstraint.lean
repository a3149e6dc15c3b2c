import SchemaIntake.Ddl.Identifier
import SchemaIntake.Text.Case
import SchemaIntake.Text.Quoted

/-!
# Table constraints

An element that constrains the whole table: a kind of constraint at its start, or the word
`CONSTRAINT`, a name, and then the kind.

## Main definitions

* `ConstraintKind`, `ConstraintFault` — the kinds, and why a constraint is rejected.
* `TableConstraint.isOne element` — whether an element is meant as a table constraint.
* `TableConstraint.check element` — its kind, or the fault.
-/

namespace SchemaIntake

open Text

inductive ConstraintKind
  | primaryKey | foreignKey | unique | check | exclude
deriving DecidableEq, Repr

namespace ConstraintKind

/-- The words that a constraint of the kind starts with. -/
def words : ConstraintKind → Text
  | .primaryKey => "PRIMARY KEY".toList
  | .foreignKey => "FOREIGN KEY".toList
  | .unique => "UNIQUE".toList
  | .check => "CHECK".toList
  | .exclude => "EXCLUDE".toList

def all : List ConstraintKind := [.primaryKey, .foreignKey, .unique, .check, .exclude]

/-- The kind whose words an upper-case text starts with.  Nothing is asked of what follows
them. -/
def ofStart? (t : Text) : Option ConstraintKind := all.find? fun kind => kind.words.isPrefixOf t

end ConstraintKind

/-- Why a table constraint is rejected. -/
inductive ConstraintFault
  /-- Nothing follows the name. -/
  | missingBody
  /-- The name is no valid identifier. -/
  | invalidName (name : Text)
  /-- What follows does not start like any kind of constraint. -/
  | unknownKind
deriving DecidableEq, Repr

def ConstraintFault.message : ConstraintFault → Text
  | .missingBody => "named constraint has no definition".toList
  | .invalidName name => "invalid constraint name ".toList ++ quoted name
  | .unknownKind => "expected PRIMARY KEY, FOREIGN KEY, UNIQUE, CHECK or EXCLUDE".toList

namespace TableConstraint

/-- Whether an upper-case text starts with the word that introduces a name. -/
def isNamed (t : Text) : Bool := "CONSTRAINT ".toList.isPrefixOf t

/-- Whether an element is meant as a table constraint and not as a column. -/
def isOne (element : Text) : Bool :=
  let t := upper (trim element)
  isNamed t || (ConstraintKind.ofStart? t).isSome

/-- The kind that an upper-case text starts with, or the fault that it starts with none. -/
def kind (t : Text) : Except ConstraintFault ConstraintKind :=
  match ConstraintKind.ofStart? t with
  | some kind => .ok kind
  | none => .error .unknownKind

/-- The kind of a table constraint, or why it is rejected.  After a name the words are joined
by single spaces before the kind is looked for. -/
def check (element : Text) : Except ConstraintFault ConstraintKind :=
  let t := trim element
  if isNamed (upper t) then
    match words t with
    | _ :: name :: first :: rest =>
      if Identifier.isValid name then kind (upper (join [' '] (first :: rest)))
      else .error (.invalidName name)
    | _ => .error .missingBody
  else kind (upper t)

end TableConstraint

end SchemaIntake
