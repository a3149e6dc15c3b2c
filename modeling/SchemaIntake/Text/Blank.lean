import SchemaIntake.Text.Basic

/-!
# White space

White space is the Unicode property White_Space.  Trimming and the words of a text are
defined by it.

## Main definitions

* `Text.isBlank c` — the property White_Space.
* `Text.trim t` — `t` without the white space at either end.
* `Text.words t` — the maximal runs of other characters.
-/

namespace SchemaIntake

namespace Text

/-- Whether a code point lies in one of the given closed intervals. -/
def inRanges (ranges : List (Nat × Nat)) (c : Char) : Bool :=
  ranges.any fun r => r.1 ≤ c.toNat && c.toNat ≤ r.2

/-- The code points with the property White_Space. -/
def blankRanges : List (Nat × Nat) :=
  [(0x9, 0xd), (0x20, 0x20), (0x85, 0x85), (0xa0, 0xa0), (0x1680, 0x1680), (0x2000, 0x200a),
   (0x2028, 0x2029), (0x202f, 0x202f), (0x205f, 0x205f), (0x3000, 0x3000)]

/-- White space: the Unicode property White_Space. -/
def isBlank (c : Char) : Bool := inRanges blankRanges c

/-- The text without the white space at its start. -/
def trimStart (t : Text) : Text := t.dropWhile isBlank

/-- The text without the white space at its end. -/
def trimEnd (t : Text) : Text := (t.reverse.dropWhile isBlank).reverse

/-- The text without the white space at either end. -/
def trim (t : Text) : Text := trimEnd (trimStart t)

/-- Whether a text holds nothing but white space. -/
def isAllBlank (t : Text) : Bool := (trim t).isEmpty

/-- The words of a text: its maximal non-empty runs of characters other than white space. -/
def words (t : Text) : List Text := (t.splitOnP isBlank).filter (!·.isEmpty)

end Text

end SchemaIntake
