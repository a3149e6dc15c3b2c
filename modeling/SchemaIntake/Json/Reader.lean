import SchemaIntake.Json.Basic

/-!
# Reading JSON

The grammar is strict: no comments, no trailing commas, nothing after the value but white
space, no control character inside a string.

## Main definitions

* `Json.readString t` — the string literal whose opening quote has just been passed.
* `Json.readNumber t` — the number at the start of a text.
* `Json.parse? t` — the value that a whole text stands for.
-/

namespace SchemaIntake

open Text

namespace Json

/-- The white space of JSON: space, line feed, carriage return and tab. -/
def isGap (c : Char) : Bool := c == ' ' || c == '\n' || c == '\r' || c == '\t'

/-- The text without the white space at its start. -/
def skipGap (t : Text) : Text := t.dropWhile isGap

/-! ### Strings -/

/-- The number that four hexadecimal digits write. -/
def hexFour? (a b c d : Char) : Option Nat := do
  let a ← hexValue? a
  let b ← hexValue? b
  let c ← hexValue? c
  let d ← hexValue? d
  some (((a * 16 + b) * 16 + c) * 16 + d)

/-- A part of a string literal. -/
inductive Piece
  /-- A character, as itself or by a short escape. -/
  | char (c : Char)
  /-- A number given by an escape of four digits. -/
  | unit (n : Nat)
deriving DecidableEq, Repr

/-- The character that a short escape names. -/
def shortEscape? (c : Char) : Option Char :=
  if c = '"' then some '"'
  else if c = '\\' then some '\\'
  else if c = '/' then some '/'
  else if c = 'b' then some '\x08'
  else if c = 'f' then some '\x0c'
  else if c = 'n' then some '\n'
  else if c = 'r' then some '\r'
  else if c = 't' then some '\t'
  else none

/-- The parts of the string literal whose opening quote has just been passed, and what follows
its closing quote. -/
def readPieces : Text → Option (List Piece × Text)
  | [] => none
  | c :: rest =>
    if c = '"' then some ([], rest)
    else if c = '\\' then
      match rest with
      | [] => none
      | e :: after =>
        if e = 'u' then
          match after with
          | h₁ :: h₂ :: h₃ :: h₄ :: after =>
            (hexFour? h₁ h₂ h₃ h₄).bind fun n =>
              (readPieces after).map fun r => (.unit n :: r.1, r.2)
          | _ => none
        else
          (shortEscape? e).bind fun c => (readPieces after).map fun r => (.char c :: r.1, r.2)
    else if c.toNat < 0x20 then none
    else (readPieces rest).map fun r => (.char c :: r.1, r.2)

/-- The first half of a surrogate pair. -/
def isHighHalf (n : Nat) : Bool := 0xd800 ≤ n && n < 0xdc00

/-- The second half of a surrogate pair. -/
def isLowHalf (n : Nat) : Bool := 0xdc00 ≤ n && n < 0xe000

/-- The text of some parts: two halves that follow each other make one character, and a half
on its own leaves no text. -/
def literalOf : List Piece → Literal
  | [] => some []
  | .char c :: rest => (literalOf rest).map (c :: ·)
  | .unit n :: rest =>
    if isHighHalf n then
      match rest with
      | .unit m :: rest =>
        if isLowHalf m then
          (literalOf rest).map
            (Char.ofNat (0x10000 + (n - 0xd800) * 0x400 + (m - 0xdc00)) :: ·)
        else none
      | _ => none
    else if isLowHalf n then none
    else (literalOf rest).map (Char.ofNat n :: ·)

/-- The string literal whose opening quote has just been passed, and what follows it. -/
def readString (t : Text) : Option (Literal × Text) :=
  (readPieces t).map fun r => (literalOf r.1, r.2)

/-! ### Numbers -/

/-- One or more digits at the start of a text, and what follows them. -/
def readDigits (t : Text) : Option (Text × Text) :=
  let digits := t.takeWhile isDigit
  if digits.isEmpty then none else some (digits, t.dropWhile isDigit)

/-- The whole part of a number: zero, or digits that do not start with one. -/
def readWhole (t : Text) : Option (Text × Text) :=
  match t with
  | '0' :: rest => some (['0'], rest)
  | _ => readDigits t

/-- The fraction of a number, if there is one. -/
def readFraction (t : Text) : Option (Text × Text) :=
  match t with
  | '.' :: rest => (readDigits rest).map fun r => ('.' :: r.1, r.2)
  | _ => some ([], t)

/-- The exponent of a number, if there is one. -/
def readExponent (t : Text) : Option (Text × Text) :=
  match t with
  | [] => some ([], [])
  | c :: rest =>
    if c = 'e' || c = 'E' then
      match rest with
      | [] => none
      | s :: after =>
        if s = '+' || s = '-' then (readDigits after).map fun r => (c :: s :: r.1, r.2)
        else (readDigits rest).map fun r => (c :: r.1, r.2)
    else some ([], t)

/-- The number at the start of a text as it is written, and what follows it. -/
def readNumber (t : Text) : Option (Text × Text) := do
  let (sign, t) := match t with
    | '-' :: rest => (['-'], rest)
    | _ => ([], t)
  let (whole, t) ← readWhole t
  let (fraction, t) ← readFraction t
  let (exponent, t) ← readExponent t
  some (sign ++ whole ++ fraction ++ exponent, t)

/-! ### Values -/

/-- What follows a word at the start of a text. -/
def afterWord? (word t : Text) : Option Text := word.isPrefixOf? t

/-- A value that has no parts, and what follows it. -/
def readScalar (t : Text) : Option (Json × Text) :=
  match t with
  | '"' :: rest => (readString rest).map fun r => (.string r.1, r.2)
  | 'n' :: _ => (afterWord? "null".toList t).map fun r => (.null, r)
  | 't' :: _ => (afterWord? "true".toList t).map fun r => (.bool true, r)
  | 'f' :: _ => (afterWord? "false".toList t).map fun r => (.bool false, r)
  | _ => (readNumber t).map fun r => (.number r.1, r.2)

/-- The name of a member with the colon after it, and what follows. -/
def readName (t : Text) : Option (Literal × Text) :=
  match skipGap t with
  | '"' :: rest =>
    (readString rest).bind fun r =>
      match skipGap r.2 with
      | ':' :: rest => some (r.1, rest)
      | _ => none
  | _ => none

mutual

/-- The value at the start of a text, and what follows it.  The first argument bounds how many
parts are read. -/
def readValue : Nat → Text → Option (Json × Text)
  | 0, _ => none
  | fuel + 1, t =>
    match skipGap t with
    | '[' :: rest =>
      match skipGap rest with
      | ']' :: rest => some (.array [], rest)
      | _ => (readItems fuel rest).map fun r => (.array r.1, r.2)
    | '{' :: rest =>
      match skipGap rest with
      | '}' :: rest => some (.object [], rest)
      | _ => (readMembers fuel rest).map fun r => (.object r.1, r.2)
    | t => readScalar t

/-- One or more items through the bracket that ends the array, and what follows it. -/
def readItems : Nat → Text → Option (List Json × Text)
  | 0, _ => none
  | fuel + 1, t =>
    (readValue fuel t).bind fun item =>
      match skipGap item.2 with
      | ']' :: rest => some ([item.1], rest)
      | ',' :: rest => (readItems fuel rest).map fun r => (item.1 :: r.1, r.2)
      | _ => none

/-- One or more members through the brace that ends the object, and what follows it. -/
def readMembers : Nat → Text → Option (List (Literal × Json) × Text)
  | 0, _ => none
  | fuel + 1, t =>
    (readName t).bind fun name =>
      (readValue fuel name.2).bind fun value =>
        match skipGap value.2 with
        | '}' :: rest => some ([(name.1, value.1)], rest)
        | ',' :: rest =>
          (readMembers fuel rest).map fun r => ((name.1, value.1) :: r.1, r.2)
        | _ => none

end

/-- The value that a whole text stands for.  Each part takes up at least one character, and an
item takes two steps, so twice the length is enough. -/
def parse? (t : Text) : Option Json :=
  (readValue (2 * t.length + 1) t).bind fun r =>
    if (skipGap r.2).isEmpty then some r.1 else none

end Json

end SchemaIntake
