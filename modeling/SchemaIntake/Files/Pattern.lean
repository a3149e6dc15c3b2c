import SchemaIntake.Files.Disk

/-!
# Patterns

Patterns for the names of files: `?` stands for any character, `*` for any text, brackets for
one of several characters, and `**` as a whole component for any number of directories.

## Main definitions

* `Pattern.isOne t` — whether a path is a pattern.
* `Pattern.Piece`, `Pattern.matchesName pieces name` — a component of a pattern, and which
  names it selects.
* `Pattern.readPieces? t` — a component as it is written.
* `Pattern.read? t` — a whole pattern.
-/

namespace SchemaIntake

open Text

namespace Pattern

/-- Whether a path has characters that make it a pattern. -/
def isOne (t : Text) : Bool := t.any fun c => c == '*' || c == '?' || c == '['

/-! ### Names -/

/-- Some characters: those from a first to a last one. -/
structure Range where
  first : Char
  last : Char
deriving DecidableEq, Repr

/-- A character that belongs to one of some ranges. -/
def inSet (set : List Range) (c : Char) : Bool := set.any fun r => r.first ≤ c && c ≤ r.last

/-- A part of a component. -/
inductive Piece
  | char (c : Char)
  | anyChar
  | anyText
  | oneOf (set : List Range)
  | noneOf (set : List Range)
deriving DecidableEq, Repr

/-- Whether a part of a component that stands for one character stands for this one. -/
def Piece.matchesChar (c : Char) : Piece → Bool
  | char d => c == d
  | anyChar => true
  | anyText => false
  | oneOf set => inSet set c
  | noneOf set => !inSet set c

/-- Whether some condition holds of the text, or of what is left of it after some characters. -/
def holdsLater (p : Text → Bool) : Text → Bool
  | [] => p []
  | c :: rest => p (c :: rest) || holdsLater p rest

/-- Whether a component selects a name. -/
def matchesName : List Piece → Text → Bool
  | [], name => name.isEmpty
  | .anyText :: pieces, name => holdsLater (matchesName pieces) name
  | _ :: _, [] => false
  | piece :: pieces, c :: name => piece.matchesChar c && matchesName pieces name

/-! ### Reading -/

/-- The characters that a bracket lists: single ones, and ranges with a dash. -/
def readSet : Text → List Range
  | [] => []
  | first :: '-' :: last :: rest => ⟨first, last⟩ :: readSet rest
  | first :: rest => ⟨first, first⟩ :: readSet rest

/-- The text before the first closing bracket, and what follows the bracket. -/
def untilBracket? : Text → Option (Text × Text)
  | [] => none
  | c :: rest =>
    if c = ']' then some ([], rest) else (untilBracket? rest).map fun r => (c :: r.1, r.2)

/-- What a bracket that has just been opened stands for, and what follows it.  It lists at least
one character: a closing bracket in the first place is listed. -/
def readBracket? (t : Text) : Option (Piece × Text) :=
  match t with
  | [] => none
  | first :: rest =>
    if first = '!' then
      match rest with
      | [] => none
      | first :: rest =>
        (untilBracket? rest).map fun r => (.noneOf (readSet (first :: r.1)), r.2)
    else (untilBracket? rest).map fun r => (.oneOf (readSet (first :: r.1)), r.2)

/-- The parts of a component that is not `**`.  Two stars in a row make it invalid, and so does a
bracket that is not closed.  The first argument bounds the number of parts. -/
def readPiecesWithin : Nat → Text → Option (List Piece)
  | _, [] => some []
  | 0, _ :: _ => none
  | fuel + 1, c :: rest =>
    if c = '?' then (readPiecesWithin fuel rest).map (.anyChar :: ·)
    else if c = '*' then
      if rest.head? = some '*' then none else (readPiecesWithin fuel rest).map (.anyText :: ·)
    else if c = '[' then
      (readBracket? rest).bind fun r => (readPiecesWithin fuel r.2).map (r.1 :: ·)
    else (readPiecesWithin fuel rest).map (.char c :: ·)

/-- The parts of a component that is not `**`.  Each takes up at least one character. -/
def readPieces? (t : Text) : Option (List Piece) := readPiecesWithin t.length t

end Pattern

/-! ### Whole patterns -/

/-- A component of a pattern. -/
inductive Pattern.Component
  /-- A name as it is written. -/
  | name (t : Text)
  /-- A name with special characters. -/
  | wild (pieces : List Pattern.Piece)
  /-- Any number of directories, one inside the other. -/
  | anywhere
deriving DecidableEq, Repr

/-- A pattern for paths. -/
structure Pattern where
  /-- Whether it starts at the root of the file system. -/
  isAbsolute : Bool
  components : List Pattern.Component
  directoriesOnly : Bool
deriving DecidableEq, Repr

namespace Pattern

/-- A component as it is written. -/
def readComponent? (t : Text) : Option Component :=
  if t = "**".toList then some .anywhere
  else if isOne t then (readPieces? t).map .wild
  else some (.name t)

/-- A pattern as it is written.  A slash at its end restricts it to directories. -/
def read? (t : Text) : Option Pattern := do
  let directoriesOnly := t.getLast? = some '/'
  let pieces := Path.components (Path.afterRoot t)
  let components ← (if directoriesOnly then pieces.dropLast else pieces).mapM readComponent?
  some ⟨Path.isAbsolute t, components, directoriesOnly⟩

end Pattern

end SchemaIntake
