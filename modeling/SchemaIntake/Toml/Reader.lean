import SchemaIntake.Toml.Number

/-!
# Reading TOML

## Main definitions

* `Toml.readValue limit t` — a value inside which others may be nested so deep.
* `Toml.readLine entries current t` — what a line adds to a document.
* `Toml.parse? t` — the entries of a whole document.
-/

namespace SchemaIntake

open Text

namespace Toml

/-! ### Values -/

/-- A value that has no parts. -/
def readScalar (t : Text) : Option (Toml × Text) :=
  match t with
  | '"' :: _ => (readString t).map fun r => (.string r.1, r.2)
  | '\'' :: _ => (readString t).map fun r => (.string r.1, r.2)
  | 't' :: 'r' :: 'u' :: 'e' :: rest => some (.bool true, rest)
  | 'f' :: 'a' :: 'l' :: 's' :: 'e' :: rest => some (.bool false, rest)
  | _ =>
    match readTime t with
    | some r => some r
    | none => readNumber t

/-- The items of an array through its closing bracket; a comma may stand after the last one.
The first argument bounds the number of items. -/
def readItems (item : Text → Option (Toml × Text)) : Nat → Text → Option (List Toml × Text)
  | 0, _ => none
  | fuel + 1, t =>
    match skipLines t with
    | ']' :: rest => some ([], rest)
    | t =>
      (item t).bind fun first =>
        match skipLines first.2 with
        | ']' :: rest => some ([first.1], rest)
        | ',' :: rest => (readItems item fuel rest).map fun r => (first.1 :: r.1, r.2)
        | _ => none

/-- One or more entries of a table in braces through its closing brace, added to those before
them.  The first argument bounds the number of entries. -/
def readEntries (value : Text → Option (Toml × Text)) :
    Nat → Entries → Text → Option (Entries × Text)
  | 0, _, _ => none
  | fuel + 1, entries, t =>
    (readKey t).bind fun key =>
      (after? '=' key.2).bind fun t =>
        (value (skipGap t)).bind fun v =>
          (assign? v.1 key.1 entries).bind fun entries =>
            match skipGap v.2 with
            | '}' :: rest => some (entries, rest)
            | ',' :: rest => readEntries value fuel entries rest
            | _ => none

/-- A value inside which others may be nested so deep. -/
def readValue : Nat → Text → Option (Toml × Text)
  | 0, t => readScalar t
  | limit + 1, t =>
    match t with
    | '[' :: rest =>
      (readItems (readValue limit) (t.length + 1) rest).map fun r => (.array r.1, r.2)
    | '{' :: rest =>
      match skipGap rest with
      | '}' :: rest => some (.table .braces [], rest)
      | _ =>
        (readEntries (readValue limit) (t.length + 1) [] rest).map fun r =>
          (.table .braces r.1, r.2)
    | _ => readScalar t

/-! ### Documents -/

/-- What a line that is not empty adds to a document, whose current table is the one that the
given path leads to: its entries and the path afterwards, and what follows the line. -/
def readLine (entries : Entries) (current : List Text) (t : Text) :
    Option (Entries × List Text × Text) :=
  match t with
  | '[' :: '[' :: t => do
    let (path, t) ← readKey t
    let t ← (after? ']' t).bind (after? ']')
    let rest ← endLine? t
    let entries ← openItem? path entries
    some (entries, path, rest)
  | '[' :: t => do
    let (path, t) ← readKey t
    let t ← after? ']' t
    let rest ← endLine? t
    let entries ← openTable? path entries
    some (entries, path, rest)
  | _ => do
    let (path, t) ← readKey t
    let t ← after? '=' t
    let (v, t) ← readValue (depthLimit - 1) (skipGap t)
    let rest ← endLine? t
    let entries ← inside? (assign? v path) current entries
    some (entries, current, rest)

/-- The entries of a document after the rest of its lines.  The first argument bounds their
number. -/
def readLines : Nat → Entries → List Text → Text → Option Entries
  | 0, _, _, _ => none
  | fuel + 1, entries, current, t =>
    match endLine? t with
    | some [] => some entries
    | some rest => readLines fuel entries current rest
    | none =>
      (readLine entries current (skipGap t)).bind fun r => readLines fuel r.1 r.2.1 r.2.2

/-- The entries of a document, which may start with a byte order mark. -/
def parse? (t : Text) : Option Entries :=
  let t := match t with
    | '\uFEFF' :: rest => rest
    | _ => t
  readLines (t.length + 1) [] [] t

end Toml

end SchemaIntake
