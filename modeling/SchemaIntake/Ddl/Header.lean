import SchemaIntake.Text.Blank

/-!
# Table headers

The opening words of a table definition: `CREATE TABLE`, optionally `IF NOT EXISTS`, an
optional schema name and the table name, up to the opening parenthesis.

Keywords are read in any case, and a letter stands for every character that folds to it, so
the long s (`ſ`) may stand for `S`.  For the same reason the long s and the Kelvin sign count
among the characters of a name.

The grammar needs no backtracking: a blank run is followed by something that is not blank, a
word by something that is no name character, and after `IF NOT EXISTS` the letters `IF` could
not have been a name, because what follows them is neither a dot nor a parenthesis.

## Main definitions

* `Header.opening? t` — what follows `CREATE TABLE` and its white space at the start of `t`.
* `Header.Word` — a name as written, with or without quotes.
* `Header.read? t` — the header at the start of `t`.
* `Header.find? t` — the header at the first position of `t` where one can be read.
-/

namespace SchemaIntake

open Text

/-! ### Keywords and white space -/

namespace Header

/-- Whether a character folds to a capital ASCII letter. -/
def folds (letter c : Char) : Bool :=
  c == letter || c == letter.toLower ||
    (letter == 'S' && c == '\u017f') || (letter == 'K' && c == '\u212a')

/-- What follows a keyword, written in capitals, at the start of the text. -/
def keyword? : Text → Text → Option Text
  | [], t => some t
  | _ :: _, [] => none
  | letter :: word, c :: rest => if folds letter c then keyword? word rest else none

/-- What follows one or more white space characters at the start of the text. -/
def blanks? : Text → Option Text
  | [] => none
  | c :: rest => if isBlank c then some (rest.dropWhile isBlank) else none

/-- What follows `CREATE TABLE` and the white space after it at the start of the text. -/
def opening? (t : Text) : Option Text := do
  let t ← keyword? "CREATE".toList t
  let t ← blanks? t
  let t ← keyword? "TABLE".toList t
  blanks? t

/-- What follows `IF NOT EXISTS` and the white space after it at the start of the text. -/
def ifNotExists? (t : Text) : Option Text := do
  let t ← keyword? "IF".toList t
  let t ← blanks? t
  let t ← keyword? "NOT".toList t
  let t ← blanks? t
  let t ← keyword? "EXISTS".toList t
  blanks? t

/-! ### Names -/

/-- The characters of a name in a header. -/
def isNameChar (c : Char) : Bool :=
  isLetter c || isDigit c || c == '_' || c == '\u017f' || c == '\u212a'

/-- A name as it is written in a header.  Either quote may be missing. -/
structure Word where
  /-- Whether a quote stands before the name. -/
  opened : Bool
  name : Text
  /-- Whether a quote stands after the name. -/
  closed : Bool
deriving DecidableEq, Repr

/-- Takes an optional quote off the start of the text. -/
def quote (t : Text) : Bool × Text :=
  match t with
  | '"' :: rest => (true, rest)
  | _ => (false, t)

/-- Reads a word off the start of the text. -/
def word? (t : Text) : Option (Word × Text) :=
  let q := quote t
  let name := q.2.takeWhile isNameChar
  let q' := quote (q.2.dropWhile isNameChar)
  if name.isEmpty then none else some (⟨q.1, name, q'.1⟩, q'.2)

end Header

/-! ### The header -/

/-- The opening of a table definition. -/
structure Header where
  /-- The schema that qualifies the table name. -/
  schema : Option Header.Word
  table : Header.Word
  rest : Text
deriving DecidableEq, Repr

namespace Header

/-- Ends a header after its table name: optional white space and the parenthesis. -/
def close? (schema : Option Word) (table : Word) (t : Text) : Option Header :=
  match t.dropWhile isBlank with
  | '(' :: rest => some ⟨schema, table, rest⟩
  | _ => none

/-- Reads a header off the start of the text. -/
def read? (t : Text) : Option Header := do
  let t ← opening? t
  let (first, t) ← word? ((ifNotExists? t).getD t)
  match t with
  | '.' :: t =>
    let (second, t) ← word? t
    close? (some first) second t
  | _ => close? none first t

/-- The header at the first position of the text where one can be read. -/
def find? : Text → Option Header
  | [] => none
  | c :: rest => (read? (c :: rest)).or (find? rest)

end Header

end SchemaIntake
