/-!
# Text

Everything the library reads and writes is a text: the list of its characters.  Lists are
what the scanners recurse on, so no second representation is kept.

## Main definitions

* `Text` — a list of characters.
* `Text.cutWhere next isCut s t` — `t` cut at the characters that `isCut` selects, where the
  selection may look at a state that `next` carries along.
* `Text.decimal n` — the decimal digits of `n`.
* `Text.sameLetters a b` — equality up to the case of ASCII letters.

## Main results

* `Text.cutWhere_ne_nil` — a cut text has at least one piece.
-/

namespace SchemaIntake

/-- A text is the list of its characters. -/
abbrev Text := List Char

namespace Text

/-! ### Cutting -/

/-- Cuts a text at every character that `isCut` selects.  The choice may depend on a state,
which starts at `s` and is moved on by `next` over every character, the cut ones included. -/
def cutWhere {σ : Type} (next : σ → Char → σ) (isCut : σ → Char → Bool) (s : σ) :
    Text → List Text
  | [] => [[]]
  | c :: rest =>
    if isCut s c then [] :: cutWhere next isCut (next s c) rest
    else (cutWhere next isCut (next s c) rest).modifyHead (c :: ·)

/-- A cut text has at least one piece. -/
theorem cutWhere_ne_nil {σ : Type} (next : σ → Char → σ) (isCut : σ → Char → Bool) (s : σ)
    (t : Text) : cutWhere next isCut s t ≠ [] := by
  cases t with
  | nil => simp [cutWhere]
  | cons c rest =>
    rw [cutWhere]
    split
    · simp
    · simp [cutWhere_ne_nil next isCut (next s c) rest]

/-! ### Numbers, letters and joining -/

/-- The decimal digits of a number, without padding. -/
def decimal (n : Nat) : Text := Nat.toDigits 10 n

/-- The decimal digits of a number, filled up with zeros on the left to a given width. -/
def decimalPadded (width n : Nat) : Text :=
  let digits := decimal n
  List.replicate (width - digits.length) '0' ++ digits

/-- The decimal text of an integer: a minus sign stands before a negative one. -/
def decimalInt : Int → Text
  | .ofNat n => decimal n
  | .negSucc n => '-' :: decimal (n + 1)

def isDigit (c : Char) : Bool := '0' ≤ c && c ≤ '9'

/-- The value of a hexadecimal digit of either case. -/
def hexValue? (c : Char) : Option Nat :=
  if '0' ≤ c && c ≤ '9' then some (c.toNat - '0'.toNat)
  else if 'a' ≤ c && c ≤ 'f' then some (c.toNat - 'a'.toNat + 10)
  else if 'A' ≤ c && c ≤ 'F' then some (c.toNat - 'A'.toNat + 10)
  else none

def isLetter (c : Char) : Bool := ('a' ≤ c && c ≤ 'z') || ('A' ≤ c && c ≤ 'Z')

/-- Equality up to the case of ASCII letters; all other characters must agree exactly. -/
def sameLetters (a b : Text) : Bool := a.map Char.toLower == b.map Char.toLower

/-- The pieces one after the other, with a separator between any two of them. -/
def join (separator : Text) (pieces : List Text) : Text := separator.intercalate pieces

/-- Whether two texts are in the order of their first different code point. -/
def inOrder : Text → Text → Bool
  | [], _ => true
  | _ :: _, [] => false
  | a :: as, b :: bs => if a = b then inOrder as bs else a.toNat ≤ b.toNat

/-- Whether one text occurs inside another. -/
def hasInfix (needle : Text) : Text → Bool
  | [] => needle.isEmpty
  | c :: rest => needle.isPrefixOf (c :: rest) || hasInfix needle rest

/-! ### Looking for one character -/

/-- What stands after the first occurrence of a character. -/
def afterFirst? (d : Char) : Text → Option Text
  | [] => none
  | c :: rest => if c = d then some rest else afterFirst? d rest

/-- What stands after the last occurrence of a character. -/
def afterLast? (d : Char) : Text → Option Text
  | [] => none
  | c :: rest =>
    match afterLast? d rest with
    | some t => some t
    | none => if c = d then some rest else none

/-- What stands before the last occurrence of a character. -/
def beforeLast? (d : Char) : Text → Option Text
  | [] => none
  | c :: rest =>
    match beforeLast? d rest with
    | some t => some (c :: t)
    | none => if c = d then some [] else none

/-- The text up to and including the first occurrence of a character, and what follows it. -/
def throughFirst? (d : Char) : Text → Option (Text × Text)
  | [] => none
  | c :: rest =>
    if c = d then some ([c], rest) else (throughFirst? d rest).map fun p => (c :: p.1, p.2)

/-- The two parts make up the text again. -/
theorem append_of_throughFirst? {d : Char} {t a b : Text} (h : throughFirst? d t = some (a, b)) :
    a ++ b = t := by
  induction t generalizing a with
  | nil => simp [throughFirst?] at h
  | cons c rest ih =>
    rw [throughFirst?] at h
    split at h
    · next hc =>
      obtain ⟨rfl, rfl⟩ := Prod.mk.inj (Option.some.inj h)
      simp [hc]
    · obtain ⟨p, hp, he⟩ := Option.map_eq_some_iff.1 h
      obtain ⟨rfl, rfl⟩ := Prod.mk.inj he
      simp [ih hp]

/-- The first part ends with the character, and holds it nowhere else. -/
theorem throughFirst?_eq_some {d : Char} {t a b : Text} (h : throughFirst? d t = some (a, b)) :
    ∃ w, a = w ++ [d] ∧ d ∉ w := by
  induction t generalizing a with
  | nil => simp [throughFirst?] at h
  | cons c rest ih =>
    rw [throughFirst?] at h
    split at h
    · next hc =>
      obtain ⟨rfl, -⟩ := Prod.mk.inj (Option.some.inj h)
      exact ⟨[], by simp [hc], by simp⟩
    · next hc =>
      obtain ⟨p, hp, he⟩ := Option.map_eq_some_iff.1 h
      obtain ⟨rfl, rfl⟩ := Prod.mk.inj he
      obtain ⟨w, hw, hd⟩ := ih hp
      exact ⟨c :: w, by simp [hw], by simp [hd, Ne.symm hc]⟩

/-- The second part is shorter than the text. -/
theorem length_of_throughFirst? {d : Char} {t a b : Text} (h : throughFirst? d t = some (a, b)) :
    b.length < t.length := by
  obtain ⟨w, hw, -⟩ := throughFirst?_eq_some h
  have := congrArg List.length (append_of_throughFirst? h)
  simp [hw] at this
  omega

/-! ### Lines -/

/-- Each line ended by a line feed. -/
def unlines (lines : List Text) : Text := lines.flatMap (· ++ ['\n'])

end Text

end SchemaIntake
