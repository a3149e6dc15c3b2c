import SchemaIntake.Text.Basic

/-!
# Random identifiers

## Main definitions

* `Uuid.ofBytes` — sixteen random bytes as a universally unique identifier of version 4.
-/

namespace SchemaIntake

open Text

namespace Uuid

/-- The two hexadecimal digits of a byte. -/
def hexByte (b : Nat) : Text := [Nat.digitChar (b / 16 % 16), Nat.digitChar (b % 16)]

/-- Random bytes as an identifier: in groups of 4, 2, 2, 2 and 6 bytes.  The third group starts
with the version, and the fourth with the two bits of the variant. -/
def ofBytes (bytes : List Nat) : Text :=
  let byte (i : Nat) : Text :=
    let b := bytes.getD i 0
    hexByte (if i = 6 then 0x40 + b % 0x10 else if i = 8 then 0x80 + b % 0x40 else b)
  let group (start length : Nat) : Text := (List.range' start length).flatMap byte
  join "-".toList [group 0 4, group 4 2, group 6 2, group 8 2, group 10 6]

end Uuid

end SchemaIntake
