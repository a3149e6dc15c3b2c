import SchemaIntake.Text.Basic

/-!
# White space, strings and keys of TOML

## Main definitions

* `Toml.afterBreak? t`, `Toml.endLine? t` — what follows a line break, or the end of a line.
* `Toml.skipLines t` — the text without the white space, line breaks and comments at its start.
* `Toml.readBasic`, `Toml.readLiteral`, `Toml.readString` — string literals.
* `Toml.readKey t` — a dotted key.

A reader takes a text and gives what stands at its start, and what follows it.
-/

namespace SchemaIntake

open Text

namespace Toml

/-! ### White space and comments -/

/-- White space within a line. -/
def isGap (c : Char) : Bool := c == ' ' || c == '\t'

/-- The text without the white space at its start. -/
def skipGap (t : Text) : Text := t.dropWhile isGap

/-- A character that may stand in a comment or in a string on one line. -/
def isPlain (c : Char) : Bool := c == '\t' || (' ' ≤ c && c != '\x7f')

/-- What follows a line break, which is a line feed with or without a carriage return. -/
def afterBreak? : Text → Option Text
  | '\n' :: rest => some rest
  | '\r' :: '\n' :: rest => some rest
  | _ => none

/-- The text without the comment at its start. -/
def skipComment : Text → Text
  | '#' :: rest => rest.dropWhile isPlain
  | t => t

/-- What follows the end of a line.  Only white space and a comment may stand before it. -/
def endLine? (t : Text) : Option Text :=
  match skipComment (skipGap t) with
  | [] => some []
  | t => afterBreak? t

/-- The text without the white space, line breaks and comments at its start.  The first
argument bounds the number of lines. -/
def skipLinesWithin : Nat → Text → Text
  | 0, t => t
  | fuel + 1, t =>
    match afterBreak? (skipComment (skipGap t)) with
    | some rest => skipLinesWithin fuel rest
    | none => skipGap t

/-- The text without the white space, line breaks and comments at its start. -/
def skipLines (t : Text) : Text := skipLinesWithin (t.length + 1) t

/-! ### Strings -/

/-- What three quotation marks at the start of a text close: up to two marks before them belong
to the string. -/
def closing? (mark : Char) (t : Text) : Option (Text × Text) :=
  let marks := (t.takeWhile (· = mark)).length
  if marks < 3 then none
  else some (List.replicate (min (marks - 3) 2) mark, t.drop (min marks 5))

/-- The character that a short escape names. -/
def shortEscape? (c : Char) : Option Char :=
  if c = '"' then some '"'
  else if c = '\\' then some '\\'
  else if c = 'b' then some '\x08'
  else if c = 'f' then some '\x0c'
  else if c = 'n' then some '\n'
  else if c = 'r' then some '\r'
  else if c = 't' then some '\t'
  else none

/-- The character whose code point some hexadecimal digits write. -/
def charOf? (digits : Text) : Option Char :=
  (digits.mapM hexValue?).bind fun values =>
    let n := values.foldl (fun n v => n * 16 + v) 0
    if n.isValidChar then some (Char.ofNat n) else none

/-- A character before what has been read. -/
def cons (c : Char) (r : Text × Text) : Text × Text := (c :: r.1, r.2)

/-- The string whose opening marks, one or three, have just been passed.  A backslash at the
end of a line of a long string takes all white space and line breaks after it away; that this is
going on is what `trimming` says. -/
def readBasic (long : Bool) (trimming : Bool) : Text → Option (Text × Text)
  | [] => none
  | c :: rest =>
    let isBreak := c == '\n' || (c == '\r' && rest.head? == some '\n')
    if trimming && (isGap c || isBreak) then readBasic long true rest
    else if c = '"' then
      if long then
        match closing? '"' (c :: rest) with
        | some r => some r
        | none => (readBasic long false rest).map (cons c)
      else some ([], rest)
    else if c = '\\' then
      match rest with
      | [] => none
      | e :: after =>
        if e = 'u' then
          match after with
          | d₁ :: d₂ :: d₃ :: d₄ :: after =>
            (charOf? [d₁, d₂, d₃, d₄]).bind fun c => (readBasic long false after).map (cons c)
          | _ => none
        else if e = 'U' then
          match after with
          | d₁ :: d₂ :: d₃ :: d₄ :: d₅ :: d₆ :: d₇ :: d₈ :: after =>
            (charOf? [d₁, d₂, d₃, d₄, d₅, d₆, d₇, d₈]).bind fun c =>
              (readBasic long false after).map (cons c)
          | _ => none
        else if long && (afterBreak? (skipGap (e :: after))).isSome then
          readBasic long true (e :: after)
        else (shortEscape? e).bind fun c => (readBasic long false after).map (cons c)
    else if isPlain c then (readBasic long false rest).map (cons c)
    else if long && isBreak then
      if c = '\r' then readBasic long false rest else (readBasic long false rest).map (cons c)
    else none

/-- The literal string whose opening marks, one or three, have just been passed. -/
def readLiteral (long : Bool) : Text → Option (Text × Text)
  | [] => none
  | c :: rest =>
    if c = '\'' then
      if long then
        match closing? '\'' (c :: rest) with
        | some r => some r
        | none => (readLiteral long rest).map (cons c)
      else some ([], rest)
    else if isPlain c then (readLiteral long rest).map (cons c)
    else if long && c = '\n' then (readLiteral long rest).map (cons c)
    else if long && c = '\r' && rest.head? = some '\n' then readLiteral long rest
    else none

/-- A text without the line break at its start. -/
def skipBreak (t : Text) : Text := (afterBreak? t).getD t

/-- A string literal of any of the four kinds. -/
def readString : Text → Option (Text × Text)
  | '"' :: '"' :: '"' :: rest => readBasic true false (skipBreak rest)
  | '"' :: rest => readBasic false false rest
  | '\'' :: '\'' :: '\'' :: rest => readLiteral true (skipBreak rest)
  | '\'' :: rest => readLiteral false rest
  | _ => none

/-! ### Keys -/

/-- A character of a key that needs no quotation marks. -/
def isBare (c : Char) : Bool := isLetter c || isDigit c || c == '-' || c == '_'

def readPart (t : Text) : Option (Text × Text) :=
  match t with
  | '"' :: rest => readBasic false false rest
  | '\'' :: rest => readLiteral false rest
  | _ =>
    let name := t.takeWhile isBare
    if name.isEmpty then none else some (name, t.dropWhile isBare)

/-- The parts of a dotted key, of which there may be so many, with the white space around
them. -/
def readParts : Nat → Text → Option (List Text × Text)
  | 0, _ => none
  | limit + 1, t =>
    (readPart (skipGap t)).bind fun part =>
      match skipGap part.2 with
      | '.' :: rest => (readParts limit rest).map fun r => (part.1 :: r.1, r.2)
      | rest => some ([part.1], rest)

/-- The number of parts of a key, and of arrays and tables around a value, that is out of
bounds. -/
def depthLimit : Nat := 80

/-- A dotted key with the white space around it. -/
def readKey (t : Text) : Option (List Text × Text) := readParts (depthLimit - 1) t

end Toml

end SchemaIntake
