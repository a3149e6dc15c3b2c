import SchemaIntake.Text.CaseTable
import SchemaIntake.Text.CaseContext

/-!
# Upper and lower case

The full case mappings of Unicode.  A character may become several (`ß` becomes `SS`), and
a capital sigma becomes a final sigma at the end of a word.

## Main definitions

* `Text.upper t`, `Text.lower t` — a text in upper and in lower case.
* `Text.upperChar c`, `Text.lowerChar c` — the same for a character out of context.

## Main results

* `Text.upperChar_of_ascii`, `Text.lowerChar_of_ascii` — ASCII maps to ASCII.
* `Text.upper_append` — upper case works character by character.
* `Text.lower_eq_flatMap` — so does lower case, where there is no capital sigma.
-/

namespace SchemaIntake

namespace Text

/-- The first image that one of the runs gives, or the code point itself. -/
def runImage (runs : List CaseRun) (c : Nat) : Nat :=
  (runs.findSome? (·.image? c)).getD c

/-- A code point under a case mapping: a mapping to several characters wins over a run. -/
def mapCase (several : List (Nat × List Nat)) (runs : List CaseRun) (c : Char) : Text :=
  match several.lookup c.toNat with
  | some images => images.map Char.ofNat
  | none => [Char.ofNat (runImage runs c.toNat)]

/-- The upper case of a character.  ASCII is decided without the tables. -/
def upperChar (c : Char) : Text :=
  if c.toNat < 0x80 then [c.toUpper] else mapCase upperSeveral upperRuns c

/-- The lower case of a character out of context. -/
def lowerChar (c : Char) : Text :=
  if c.toNat < 0x80 then [c.toLower] else mapCase lowerSeveral lowerRuns c

def upper (t : Text) : Text := t.flatMap upperChar

/-- Whether the first character that the search does not pass over has case. -/
def startsCased (t : Text) : Bool :=
  match t.dropWhile isCaseIgnorable with
  | c :: _ => isCased c
  | [] => false

/-- A text in lower case, when `before` stands in front of it in reverse order.  A capital
sigma is final when a letter stands before it and none after it. -/
def lowerAfter (before : Text) : Text → Text
  | [] => []
  | c :: rest =>
    (if c = 'Σ' then [if startsCased before && !startsCased rest then 'ς' else 'σ']
      else lowerChar c) ++ lowerAfter (c :: before) rest

def lower (t : Text) : Text := lowerAfter [] t

/-! ### Laws -/

theorem upperChar_of_ascii {c : Char} (h : c.toNat < 0x80) : upperChar c = [c.toUpper] := by
  simp [upperChar, h]

theorem lowerChar_of_ascii {c : Char} (h : c.toNat < 0x80) : lowerChar c = [c.toLower] := by
  simp [lowerChar, h]

theorem upper_append (a b : Text) : upper (a ++ b) = upper a ++ upper b := by
  simp [upper]

theorem lowerAfter_eq_flatMap {t : Text} (h : 'Σ' ∉ t) (before : Text) :
    lowerAfter before t = t.flatMap lowerChar := by
  induction t generalizing before with
  | nil => rfl
  | cons c rest ih =>
    have hc : c ≠ 'Σ' := fun e => h (by simp [e])
    rw [lowerAfter, if_neg hc, List.flatMap_cons, ih (fun m => h (by simp [m]))]

/-- Without a capital sigma, lower case works character by character too. -/
theorem lower_eq_flatMap {t : Text} (h : 'Σ' ∉ t) : lower t = t.flatMap lowerChar :=
  lowerAfter_eq_flatMap h []

end Text

end SchemaIntake
