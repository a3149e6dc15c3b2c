import Mathlib.Algebra.Group.Nat.Defs
import Mathlib.Algebra.Ring.Int.Defs
import Mathlib.Data.List.TakeWhile
import SchemaIntake.Json.Decoding

/-!
# Numbers and strings in JSON texts

A number is read up to the first character that cannot be part of it, and a string up to its
closing quote; what follows does not matter.  So what is written is found again in any text.

## Main definitions

* `Json.IsNumber t` — a text is a number.
* `Json.EndsNumber rest` — no number goes on with this text.

## Main results

* `Json.readNumber_append` — a number is read in front of any text that ends it.
* `Json.isNumber_decimal`, `Json.isNumber_decimalInt` — integers are written as numbers.
* `Json.natural?_natural`, `Json.integer?_integer` — **integers in range are read back**.
* `Json.exists_stringLiteral_eq` — **strings are read back**.
-/

namespace SchemaIntake

open Text

namespace Json

/-! ### Numbers in front of other text -/

/-- A text is a number: all of it is read as one. -/
def IsNumber (t : Text) : Prop := readNumber t = some (t, [])

instance (t : Text) : Decidable (IsNumber t) := by
  unfold IsNumber
  infer_instance

/-- No number goes on with this text. -/
def EndsNumber (rest : Text) : Prop :=
  ∀ c, rest.head? = some c → isDigit c = false ∧ c ≠ '.' ∧ c ≠ 'e' ∧ c ≠ 'E'

theorem endsNumber_cons {c : Char} (h : isDigit c = false ∧ c ≠ '.' ∧ c ≠ 'e' ∧ c ≠ 'E')
    (rest : Text) : EndsNumber (c :: rest) := by
  intro d hd
  obtain rfl : c = d := by simpa using hd
  exact h

section Append

variable {t a b rest : Text}

theorem takeWhile_isDigit_append (hrest : EndsNumber rest) (t : Text) :
    (t ++ rest).takeWhile isDigit = t.takeWhile isDigit ∧
      (t ++ rest).dropWhile isDigit = t.dropWhile isDigit ++ rest := by
  induction t with
  | nil =>
    cases rest with
    | nil => exact ⟨rfl, rfl⟩
    | cons c rest =>
      have hc : ¬ isDigit c = true := by simp [(hrest c rfl).1]
      exact ⟨List.takeWhile_cons_of_neg hc, List.dropWhile_cons_of_neg hc⟩
  | cons c t ih =>
    by_cases hc : isDigit c = true
    · simpa [List.takeWhile_cons_of_pos hc, List.dropWhile_cons_of_pos hc] using ih
    · simp [List.takeWhile_cons_of_neg hc, List.dropWhile_cons_of_neg hc]

theorem readDigits_append (hrest : EndsNumber rest) (h : readDigits t = some (a, b)) :
    readDigits (t ++ rest) = some (a, b ++ rest) := by
  obtain ⟨htake, hdrop⟩ := takeWhile_isDigit_append hrest t
  unfold readDigits at h ⊢
  dsimp only at h ⊢
  rw [htake, hdrop]
  split at h
  · exact absurd h (by simp)
  · next hne =>
    obtain ⟨rfl, rfl⟩ := Prod.mk.inj (Option.some.inj h)
    rw [if_neg hne]

theorem readWhole_append (hrest : EndsNumber rest) (h : readWhole t = some (a, b)) :
    readWhole (t ++ rest) = some (a, b ++ rest) := by
  cases t with
  | nil => simp [readWhole, readDigits] at h
  | cons c t =>
    by_cases hc : c = '0'
    · subst hc
      obtain ⟨rfl, rfl⟩ := Prod.mk.inj (Option.some.inj h)
      rfl
    · rw [readWhole] at h
      · rw [List.cons_append, readWhole]
        · exact readDigits_append hrest h
        · simpa using hc
      · simpa using hc

theorem readFraction_of_ne (h : t.head? ≠ some '.') : readFraction t = some ([], t) := by
  cases t with
  | nil => rfl
  | cons c t =>
    rw [readFraction]
    simpa using h

theorem readFraction_append (hrest : EndsNumber rest) (h : readFraction t = some (a, b)) :
    readFraction (t ++ rest) = some (a, b ++ rest) := by
  by_cases ht : t.head? = some '.'
  · obtain ⟨u, rfl⟩ := List.head?_eq_some_iff.mp ht
    obtain ⟨⟨digits, after⟩, hr, he⟩ := Option.map_eq_some_iff.mp h
    obtain ⟨rfl, rfl⟩ := Prod.mk.inj he
    rw [List.cons_append, readFraction, readDigits_append hrest hr]
    rfl
  · rw [readFraction_of_ne ht] at h
    obtain ⟨rfl, rfl⟩ := Prod.mk.inj (Option.some.inj h)
    refine readFraction_of_ne ?_
    cases t with
    | nil => exact fun hdot => (hrest _ hdot).2.1 rfl
    | cons c t => exact ht

theorem readExponent_append (hrest : EndsNumber rest) (h : readExponent t = some (a, b)) :
    readExponent (t ++ rest) = some (a, b ++ rest) := by
  cases t with
  | nil =>
    obtain ⟨rfl, rfl⟩ := Prod.mk.inj (Option.some.inj h)
    cases rest with
    | nil => rfl
    | cons c rest =>
      -- what follows does not start an exponent
      have hc := (hrest c rfl).2.2
      simp [readExponent, hc.1, hc.2]
  | cons c t =>
    rw [readExponent.eq_def] at h ⊢
    dsimp only [List.cons_append] at h ⊢
    split at h
    · next hc =>
      rw [if_pos hc]
      cases t with
      | nil => exact absurd h (by simp)
      | cons s after =>
        dsimp only [List.cons_append] at h ⊢
        split at h
        · next hs =>
          obtain ⟨⟨digits, after'⟩, hr, he⟩ := Option.map_eq_some_iff.mp h
          obtain ⟨rfl, rfl⟩ := Prod.mk.inj he
          rw [if_pos hs, readDigits_append hrest hr]
          rfl
        · next hs =>
          obtain ⟨⟨digits, after'⟩, hr, he⟩ := Option.map_eq_some_iff.mp h
          obtain ⟨rfl, rfl⟩ := Prod.mk.inj he
          rw [if_neg hs, ← List.cons_append, readDigits_append hrest hr]
          rfl
    · next hc =>
      obtain ⟨rfl, rfl⟩ := Prod.mk.inj (Option.some.inj h)
      rw [if_neg hc]
      rfl

/-- A number starts with its whole part, which starts with a digit. -/
theorem exists_cons_of_readWhole (h : readWhole t = some (a, b)) :
    ∃ c rest, t = c :: rest ∧ isDigit c = true := by
  cases t with
  | nil => simp [readWhole, readDigits] at h
  | cons c t =>
    refine ⟨c, t, rfl, ?_⟩
    by_contra hc
    have hzero : c ≠ '0' := by
      rintro rfl
      exact hc (by decide)
    rw [readWhole, readDigits, List.takeWhile_cons_of_neg hc] at h
    · simp at h
    · simpa using hzero

/-- **The parts of a number**: its sign, and what its three readers find one after the other. -/
theorem readNumber_eq_some_iff {number : Text} : readNumber t = some (number, b) ↔
    ∃ sign whole fraction exponent u v w,
      t = sign ++ u ∧ (sign = ['-'] ∨ sign = [] ∧ u.head? ≠ some '-') ∧
      readWhole u = some (whole, v) ∧ readFraction v = some (fraction, w) ∧
      readExponent w = some (exponent, b) ∧ number = sign ++ whole ++ fraction ++ exponent := by
  constructor
  · intro h
    obtain ⟨sign, u, ht, hsign, hu⟩ : ∃ sign u, t = sign ++ u ∧
        (sign = ['-'] ∨ sign = [] ∧ u.head? ≠ some '-') ∧
        ((readWhole u).bind fun whole => (readFraction whole.2).bind fun fraction =>
          (readExponent fraction.2).bind fun exponent =>
            some (sign ++ whole.1 ++ fraction.1 ++ exponent.1, exponent.2)) =
          some (number, b) := by
      -- the sign is taken off first; the rest is read alike with and without one
      by_cases ht : t.head? = some '-'
      · obtain ⟨u, rfl⟩ := List.head?_eq_some_iff.mp ht
        exact ⟨['-'], u, rfl, Or.inl rfl, h⟩
      · refine ⟨[], t, rfl, Or.inr ⟨rfl, ht⟩, ?_⟩
        rw [readNumber.eq_def] at h
        cases t with
        | nil => exact h
        | cons c t =>
          have hc : c ≠ '-' := by simpa using ht
          simpa [hc] using h
    obtain ⟨⟨whole, v⟩, hwhole, hu⟩ := Option.bind_eq_some_iff.mp hu
    obtain ⟨⟨fraction, w⟩, hfraction, hu⟩ := Option.bind_eq_some_iff.mp hu
    obtain ⟨⟨exponent, b'⟩, hexponent, hu⟩ := Option.bind_eq_some_iff.mp hu
    obtain ⟨rfl, rfl⟩ := Prod.mk.inj (Option.some.inj hu)
    exact ⟨sign, whole, fraction, exponent, u, v, w, ht, hsign, hwhole, hfraction, hexponent, rfl⟩
  · rintro ⟨sign, whole, fraction, exponent, u, v, w, rfl, hsign, hwhole, hfraction, hexponent, rfl⟩
    rcases hsign with rfl | ⟨rfl, hu⟩
    · simp [readNumber, hwhole, hfraction, hexponent]
    · obtain ⟨c, u, rfl, -⟩ := exists_cons_of_readWhole hwhole
      have hc : c ≠ '-' := by simpa using hu
      simp [readNumber.eq_def, hc, hwhole, hfraction, hexponent]

/-- **A number is read in front of any text that ends it.** -/
theorem readNumber_append {number : Text} (hrest : EndsNumber rest)
    (h : readNumber t = some (number, b)) : readNumber (t ++ rest) = some (number, b ++ rest) := by
  obtain ⟨sign, whole, fraction, exponent, u, v, w, rfl, hsign, hwhole, hfraction, hexponent,
    rfl⟩ := readNumber_eq_some_iff.mp h
  refine readNumber_eq_some_iff.mpr ⟨sign, whole, fraction, exponent, u ++ rest, v ++ rest,
    w ++ rest, List.append_assoc _ _ _, ?_, readWhole_append hrest hwhole,
    readFraction_append hrest hfraction, readExponent_append hrest hexponent, rfl⟩
  obtain ⟨c, u, rfl, -⟩ := exists_cons_of_readWhole hwhole
  exact hsign

theorem exists_cons_of_isNumber (h : IsNumber t) :
    ∃ c rest, t = c :: rest ∧ (c = '-' ∨ isDigit c = true) := by
  obtain ⟨sign, whole, fraction, exponent, u, v, w, rfl, hsign, hwhole, -⟩ :=
    readNumber_eq_some_iff.mp h
  obtain ⟨c, u, rfl, hc⟩ := exists_cons_of_readWhole hwhole
  rcases hsign with rfl | ⟨rfl, -⟩
  · exact ⟨'-', c :: u, rfl, Or.inl rfl⟩
  · exact ⟨c, u, rfl, Or.inr hc⟩

end Append

/-! ### Integers -/

theorem isDigit_eq (c : Char) : Text.isDigit c = c.isDigit := by
  simp [Text.isDigit, Char.isDigit, Char.le_def]

theorem isDigit_of_mem_decimal {n : Nat} {c : Char} (h : c ∈ decimal n) : isDigit c = true := by
  rw [isDigit_eq]
  exact Nat.isDigit_of_mem_toDigits (by decide) (by decide) h

/-- The digits of a number that is not zero do not start with one. -/
theorem head?_decimal_ne {n : Nat} (h : 0 < n) : (decimal n).head? ≠ some '0' := by
  have hdigit : ∀ d < 10, 0 < d → d.digitChar ≠ '0' := by decide
  induction n using Nat.strongRecOn with
  | ind n ih =>
    rcases Nat.lt_or_ge n 10 with hn | hn
    · rw [decimal, Nat.toDigits_of_lt_base hn]
      simpa using hdigit n hn h
    · have hquotient := ih (n / 10) (by omega) (by omega)
      rw [decimal, Nat.toDigits_of_base_le (by omega) hn, ← decimal, List.head?_append]
      cases hhead : (decimal (n / 10)).head? with
      | none => exact absurd (List.head?_eq_none_iff.mp hhead) Nat.toDigits_ne_nil
      | some c => simpa [hhead] using hquotient

theorem readDigits_of_forall {t : Text} (hne : t ≠ []) (h : ∀ c ∈ t, isDigit c = true) :
    readDigits t = some (t, []) := by
  have htake : t.takeWhile isDigit = t := List.takeWhile_eq_self_iff.mpr h
  have hdrop : t.dropWhile isDigit = [] := List.dropWhile_eq_nil_iff.mpr h
  simp [readDigits, htake, hdrop, hne]

theorem readWhole_decimal (n : Nat) : readWhole (decimal n) = some (decimal n, []) := by
  have hdigits : readDigits (decimal n) = some (decimal n, []) :=
    readDigits_of_forall Nat.toDigits_ne_nil fun c => isDigit_of_mem_decimal
  rcases Nat.eq_zero_or_pos n with rfl | hn
  · rw [decimal, Nat.toDigits_zero]
    rfl
  · rw [readWhole]
    · exact hdigits
    · rintro rest hzero
      exact head?_decimal_ne hn (by rw [hzero]; rfl)

theorem isNumber_decimal (n : Nat) : IsNumber (decimal n) := by
  refine readNumber_eq_some_iff.mpr ⟨[], decimal n, [], [], decimal n, [], [], rfl,
    Or.inr ⟨rfl, fun hminus => ?_⟩, readWhole_decimal n, rfl, rfl, by simp⟩
  have := isDigit_of_mem_decimal (List.mem_of_mem_head? hminus)
  exact absurd this (by decide)

theorem isNumber_decimalInt (i : Int) : IsNumber (decimalInt i) := by
  cases i with
  | ofNat n => exact isNumber_decimal n
  | negSucc n =>
    exact readNumber_eq_some_iff.mpr ⟨['-'], decimal (n + 1), [], [], decimal (n + 1), [], [], rfl,
      Or.inl rfl, readWhole_decimal (n + 1), rfl, rfl, by simp [decimalInt]⟩

theorem digits?_decimal (n : Nat) : digits? (decimal n) = some n := by
  have hne : decimal n ≠ [] := Nat.toDigits_ne_nil
  have hall : (decimal n).all isDigit = true :=
    List.all_eq_true.mpr fun c => isDigit_of_mem_decimal
  have hvalue : Nat.ofDigitChars 10 (decimal n) 0 = n := Nat.ofDigitChars_ten_toDigits
  simp [digits?, hne, hall, hvalue]

/-- **A natural number of at most 64 bits is read back.** -/
theorem natural?_natural {n : Nat} (h : n < 2 ^ 64) : natural? (natural n) = some n := by
  change (digits? (decimal n)).filter (· < Nat.pow 2 64) = some n
  rw [digits?_decimal]
  exact Option.filter_some_pos (decide_eq_true h)

theorem integer?_of_head?_ne {t : Text} (h : t.head? ≠ some '-') :
    integer? (.number t) = ((digits? t).filter (· < Nat.pow 2 63)).map fun n => (n : Int) := by
  rw [integer?]
  rintro rest rfl
  exact h rfl

/-- **An integer that a signed word of 64 bits holds is read back.** -/
theorem integer?_integer {i : Int} (hlow : -2 ^ 63 ≤ i) (hhigh : i < 2 ^ 63) :
    integer? (integer i) = some i := by
  cases i with
  | ofNat n =>
    have hminus : (decimal n).head? ≠ some '-' := fun hminus =>
      absurd (isDigit_of_mem_decimal (List.mem_of_mem_head? hminus)) (by decide)
    have hn : n < 2 ^ 63 := by
      change (n : Int) < 2 ^ 63 at hhigh
      omega
    have hfilter : (some n).filter (fun n => decide (n < Nat.pow 2 63)) = some n :=
      Option.filter_some_pos (decide_eq_true hn)
    rw [integer, decimalInt, integer?_of_head?_ne hminus, digits?_decimal, hfilter]
    rfl
  | negSucc n =>
    have hn : n + 1 ≤ 2 ^ 63 := by
      rw [Int.negSucc_eq] at hlow
      omega
    have hfilter : (some (n + 1)).filter (fun n => decide (0 < n) && decide (n ≤ Nat.pow 2 63)) =
        some (n + 1) := by
      refine Option.filter_some_pos ?_
      rw [decide_eq_true (Nat.succ_pos n), Bool.true_and]
      exact decide_eq_true hn
    change Option.map _ (do return ((← ((digits? (decimal (n + 1))).filter
      fun n => decide (0 < n) && decide (n ≤ Nat.pow 2 63)) : Nat) : Int)) = _
    rw [digits?_decimal, hfilter]
    rfl

/-! ### Strings -/

section Pieces

variable (rest : Text)

theorem readPieces_quote : readPieces ('"' :: rest) = some ([], rest) := by
  rw [readPieces.eq_def]
  simp

theorem readPieces_plain {c : Char} (hquote : c ≠ '"') (hslash : c ≠ '\\')
    (hspace : 0x20 ≤ c.toNat) : readPieces (c :: rest) =
      (readPieces rest).map fun r => (.char c :: r.1, r.2) := by
  rw [readPieces.eq_def]
  dsimp only
  rw [if_neg hquote, if_neg hslash, if_neg (by omega)]

theorem readPieces_short {e c : Char} (he : e ≠ 'u') (hc : shortEscape? e = some c) :
    readPieces ('\\' :: e :: rest) =
      (readPieces rest).map fun r => (.char c :: r.1, r.2) := by
  rw [readPieces.eq_def]
  dsimp only
  rw [if_neg (by decide), if_pos rfl, if_neg he, hc]
  rfl

theorem readPieces_unit {a b c d : Char} {n : Nat} (hn : hexFour? a b c d = some n) :
    readPieces ('\\' :: 'u' :: a :: b :: c :: d :: rest) =
      (readPieces rest).map fun r => (.unit n :: r.1, r.2) := by
  rw [readPieces.eq_def]
  dsimp only
  rw [if_neg (by decide), if_pos rfl, if_pos rfl, hn]
  rfl

end Pieces

/-- The characters that are written by a short escape, each with its letter. -/
def shortEscapes : List (Char × Char) :=
  [('"', '"'), ('\\', '\\'), ('\x08', 'b'), ('\t', 't'), ('\n', 'n'), ('\x0c', 'f'), ('\r', 'r')]

/-- What a character is read as where it stands in a written string: by its number if it is below
the space and has no short escape. -/
def pieceOf (c : Char) : Piece :=
  if c.toNat < 0x20 ∧ ∀ p ∈ shortEscapes, c ≠ p.1 then .unit c.toNat else .char c

theorem hexFour?_hexDigit :
    ∀ n < 0x20, hexFour? '0' '0' (hexDigit (n / 16)) (hexDigit (n % 16)) = some n := by
  decide

/-- A character is read back from the way it is written. -/
theorem readPieces_escapeChar (c : Char) (rest : Text) :
    readPieces (escapeChar c ++ rest) =
      (readPieces rest).map fun r => (pieceOf c :: r.1, r.2) := by
  -- a character has a short escape, or is a control character, or is written as it is
  by_cases hshort : ∃ p ∈ shortEscapes, c = p.1
  · have hescape : ∀ p ∈ shortEscapes, p.2 ≠ 'u' ∧ shortEscape? p.2 = some p.1 ∧
        escapeChar p.1 = ['\\', p.2] ∧ pieceOf p.1 = .char p.1 := by
      decide
    obtain ⟨p, hp, rfl⟩ := hshort
    obtain ⟨hletter, hshort, hwritten, hpiece⟩ := hescape p hp
    rw [hwritten, hpiece]
    exact readPieces_short rest hletter hshort
  · have hne : ∀ p ∈ shortEscapes, c ≠ p.1 := fun p hp hc => hshort ⟨p, hp, hc⟩
    have hwritten : escapeChar c = if c.toNat < 0x20 then
        ['\\', 'u', '0', '0', hexDigit (c.toNat / 16), hexDigit (c.toNat % 16)] else [c] := by
      simp only [shortEscapes, List.forall_mem_cons] at hne
      simp [escapeChar, hne]
    rw [hwritten, pieceOf]
    by_cases hspace : c.toNat < 0x20
    · rw [if_pos hspace, if_pos ⟨hspace, hne⟩]
      exact readPieces_unit rest (hexFour?_hexDigit c.toNat hspace)
    · rw [if_neg hspace, if_neg fun h => hspace h.1]
      have hquote : c ≠ '"' := hne ('"', '"') (by decide)
      have hslash : c ≠ '\\' := hne ('\\', '\\') (by decide)
      exact readPieces_plain rest hquote hslash (by omega)

theorem readPieces_flatMap (t rest : Text) :
    readPieces (t.flatMap escapeChar ++ '"' :: rest) = some (t.map pieceOf, rest) := by
  induction t with
  | nil => exact readPieces_quote rest
  | cons c t ih =>
    rw [List.flatMap_cons, List.append_assoc, readPieces_escapeChar, ih]
    rfl

theorem literalOf_map_pieceOf (t : Text) : literalOf (t.map pieceOf) = some t := by
  induction t with
  | nil => rfl
  | cons c t ih =>
    rw [List.map_cons, pieceOf]
    split
    · next hc =>
      -- a number below the space is no half of a surrogate pair
      have hhigh : isHighHalf c.toNat = false := by simp [isHighHalf]; omega
      have hlow : isLowHalf c.toNat = false := by simp [isLowHalf]; omega
      rw [literalOf.eq_def]
      simp [hhigh, hlow, ih, Char.ofNat_toNat]
    · rw [literalOf, ih]
      rfl

/-- **Strings are read back**: a literal opens with its quote, and what follows is read through
the closing quote, whatever stands behind. -/
theorem exists_stringLiteral_eq (s : Literal) : ∃ body, stringLiteral s = '"' :: body ∧
    ∀ rest, readString (body ++ rest) = some (s, rest) := by
  cases s with
  | none =>
    refine ⟨['\\', 'u', 'd', '8', '0', '0', '"'], rfl, fun rest => ?_⟩
    have hunit : hexFour? 'd' '8' '0' '0' = some 0xd800 := by decide
    change (readPieces ('\\' :: 'u' :: 'd' :: '8' :: '0' :: '0' :: '"' :: rest)).map _ = _
    rw [readPieces_unit _ hunit, readPieces_quote]
    rfl
  | some t =>
    refine ⟨t.flatMap escapeChar ++ ['"'], rfl, fun rest => ?_⟩
    rw [readString, List.append_assoc, List.singleton_append, readPieces_flatMap,
      Option.map_some, literalOf_map_pieceOf]

end Json

end SchemaIntake
