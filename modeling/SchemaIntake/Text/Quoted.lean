import SchemaIntake.Text.Graphic

/-!
# Quoted texts

How a message shows a name that it does not trust: between double quotes, with the quote,
the backslash and everything that is not graphic escaped.

## Main definitions

* `Text.escaped c` — a character as it stands between the quotes.
* `Text.quoted t` — a text between quotes.

## Main results

* `Text.quoted_of_plain` — a text of graphic characters without quote and backslash is shown
  as it is.
-/

namespace SchemaIntake

namespace Text

/-- The code point of a character in lower-case hexadecimal digits, without padding. -/
def hexCode (c : Char) : Text := Nat.toDigits 16 c.toNat

/-- A character as it stands between the quotes. -/
def escaped (c : Char) : Text :=
  if c = '\x00' then ['\\', '0']
  else if c = '\t' then ['\\', 't']
  else if c = '\n' then ['\\', 'n']
  else if c = '\r' then ['\\', 'r']
  else if c = '\\' then ['\\', '\\']
  else if c = '"' then ['\\', '"']
  else if isGraphic c then [c]
  else ['\\', 'u', '{'] ++ hexCode c ++ ['}']

/-- A text between double quotes. -/
def quoted (t : Text) : Text := '"' :: t.flatMap escaped ++ ['"']

/-- A text of graphic characters without quote and backslash is shown as it is. -/
theorem quoted_of_plain {t : Text}
    (h : ∀ c ∈ t, isGraphic c = true ∧ c ≠ '"' ∧ c ≠ '\\') : quoted t = '"' :: t ++ ['"'] := by
  have hplain : ∀ c ∈ t, escaped c = [c] := by
    intro c hc
    obtain ⟨hg, hq, hb⟩ := h c hc
    have hctl : c ≠ '\x00' ∧ c ≠ '\t' ∧ c ≠ '\n' ∧ c ≠ '\r' := by
      refine ⟨?_, ?_, ?_, ?_⟩ <;> (rintro rfl; revert hg; decide)
    simp [escaped, hctl, hb, hq, hg]
  have hflat : t.flatMap escaped = t := by
    clear h
    induction t with
    | nil => rfl
    | cons c rest ih =>
      rw [List.flatMap_cons, hplain c (by simp), ih fun d hd => hplain d (by simp [hd])]
      rfl
  simp [quoted, hflat]

end Text

end SchemaIntake
