import SchemaIntake.Text.Blank

/-!
# Elements and tokens

The body of a table definition is cut at its top-level commas into elements, and an element
at its top-level white space into tokens.  The two keep their own account of nesting: elements
mind quotes, tokens do not.

## Main definitions

* `Nesting` — the depth of parentheses and the state of quotes before a character.
* `Nesting.isDelimiter n c` — whether `c` ends an element.
* `elements body` — the elements of a body.
* `tokens element` — the tokens of an element.
-/

namespace SchemaIntake

open Text

/-- How a character moves the depth of parentheses. -/
def parenStep (c : Char) : Int :=
  if c = '(' then 1 else if c = ')' then -1 else 0

/-! ### Elements -/

/-- What stands before a character of a body, as far as cutting it into elements goes. -/
structure Nesting where
  /-- Opening minus closing parentheses outside quotes; it may fall below zero.  A count in 32 bits
  is the same as long as there are fewer than `2 ^ 31` parentheses. -/
  depth : Int
  /-- Whether a single-quoted text is open. -/
  inQuotes : Bool
  /-- Whether the character before is a backslash. -/
  escaped : Bool
deriving DecidableEq, Repr

namespace Nesting

/-- Nothing stands before the first character. -/
def start : Nesting := ⟨0, false, false⟩

/-- Moves over a character.  A quote opens or closes a quoted text unless a backslash stands
before it; parentheses count outside quotes only. -/
def next (n : Nesting) (c : Char) : Nesting :=
  { depth := if n.inQuotes then n.depth else n.depth + parenStep c
    inQuotes := if c = '\x27' && !n.escaped then !n.inQuotes else n.inQuotes
    escaped := c = '\\' }

/-- A comma outside quotes and parentheses ends an element. -/
def isDelimiter (n : Nesting) (c : Char) : Bool :=
  c == ',' && !n.inQuotes && n.depth == 0

/-- What stands before the end of a text that starts in a given state. -/
def after (n : Nesting) (t : Text) : Nesting := t.foldl next n

end Nesting

/-- The pieces of a body between its delimiters. -/
def elementPieces (body : Text) : List Text :=
  cutWhere Nesting.next Nesting.isDelimiter Nesting.start body

/-- Drops the last piece if it is blank. -/
def dropBlankLast : List Text → List Text
  | [] => []
  | [p] => if isAllBlank p then [] else [p]
  | p :: q :: rest => p :: dropBlankLast (q :: rest)

/-- The elements of a body: its pieces, without a blank one after the last delimiter.  Earlier
pieces stay even when they are blank, and white space at their ends stays too. -/
def elements (body : Text) : List Text := dropBlankLast (elementPieces body)

/-! ### Tokens -/

/-- The characters that may separate tokens: space, tab, line feed and carriage return. -/
def isSeparator (c : Char) : Bool := c == ' ' || c == '\t' || c == '\n' || c == '\r'

/-- A separator ends a token unless parentheses are open. -/
def endsToken (depth : Int) (c : Char) : Bool := isSeparator c && depth ≤ 0

/-- The tokens of an element.  Parentheses count wherever they stand, so a parenthesised part
stays in one token together with what touches it.  As for elements, a count in 32 bits is the same
as long as there are fewer than `2 ^ 31` parentheses. -/
def tokens (element : Text) : List Text :=
  (cutWhere (fun depth c => depth + parenStep c) endsToken (0 : Int) (trim element)).filter
    (!·.isEmpty)

/-- No token is empty. -/
theorem ne_nil_of_mem_tokens {element token : Text} (h : token ∈ tokens element) :
    token ≠ [] := by
  simp only [tokens, List.mem_filter] at h
  simpa using h.2

end SchemaIntake
