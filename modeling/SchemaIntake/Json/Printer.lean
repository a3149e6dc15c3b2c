import SchemaIntake.Json.Basic

/-!
# Writing JSON

## Main definitions

* `Json.Layout` — without any white space, or with a line for each part.
* `Json.render layout v` — the text of a value.
* `Json.stringLiteral s` — the text of a string.

Only the quote, the backslash and the characters below the space are escaped; everything else
stands for itself.
-/

namespace SchemaIntake

open Text

namespace Json

/-- How the parts of a value are set apart. -/
inductive Layout
  /-- No white space at all. -/
  | compact
  /-- Each item and member on a line of its own, indented by two spaces a level. -/
  | indented
deriving DecidableEq, Repr

/-- What stands before a part at a given level, and before the bracket that ends a level. -/
def Layout.gap : Layout → Nat → Text
  | .compact, _ => []
  | .indented, level => '\n' :: List.replicate (2 * level) ' '

/-- What stands between the colon and the value of a member. -/
def Layout.afterColon : Layout → Text
  | .compact => []
  | .indented => [' ']

/-! ### Strings -/

/-- A digit of a hexadecimal number in lower case. -/
def hexDigit (n : Nat) : Char := Nat.digitChar n

/-- A character as it stands in a string. -/
def escapeChar (c : Char) : Text :=
  if c = '"' then ['\\', '"']
  else if c = '\\' then ['\\', '\\']
  else if c = '\x08' then ['\\', 'b']
  else if c = '\t' then ['\\', 't']
  else if c = '\n' then ['\\', 'n']
  else if c = '\x0c' then ['\\', 'f']
  else if c = '\r' then ['\\', 'r']
  else if c.toNat < 0x20 then
    ['\\', 'u', '0', '0', hexDigit (c.toNat / 16), hexDigit (c.toNat % 16)]
  else [c]

/-- A string between its quotes.  One that has no text is written as half a surrogate pair. -/
def stringLiteral : Literal → Text
  | some t => '"' :: t.flatMap escapeChar ++ ['"']
  | none => "\"\\ud800\"".toList

/-! ### Values -/

mutual

/-- The text of a value that stands at a given level. -/
def renderAt (layout : Layout) (level : Nat) : Json → Text
  | .null => "null".toList
  | .bool true => "true".toList
  | .bool false => "false".toList
  | .number written => written
  | .string s => stringLiteral s
  | .array [] => "[]".toList
  | .array (item :: rest) =>
    '[' :: (layout.gap (level + 1) ++ (renderAt layout (level + 1) item ++
      (renderItems layout (level + 1) rest ++ (layout.gap level ++ [']']))))
  | .object [] => ['{', '}']
  | .object ((name, value) :: rest) =>
    '{' :: (layout.gap (level + 1) ++ (stringLiteral name ++ (':' :: (layout.afterColon ++
      (renderAt layout (level + 1) value ++ (renderMembers layout (level + 1) rest ++
        (layout.gap level ++ ['}'])))))))

/-- The text of the items after the first. -/
def renderItems (layout : Layout) (level : Nat) : List Json → Text
  | [] => []
  | item :: rest =>
    ',' :: (layout.gap level ++ (renderAt layout level item ++ renderItems layout level rest))

/-- The text of the members after the first. -/
def renderMembers (layout : Layout) (level : Nat) : List (Literal × Json) → Text
  | [] => []
  | (name, value) :: rest =>
    ',' :: (layout.gap level ++ (stringLiteral name ++ (':' :: (layout.afterColon ++
      (renderAt layout level value ++ renderMembers layout level rest)))))

end

def render (layout : Layout) (value : Json) : Text := renderAt layout 0 value

end Json

end SchemaIntake
