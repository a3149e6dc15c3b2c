import SchemaIntake.Ddl.ColumnDefinition

/-!
# The positional rules of modifiers

Whether a modifier may stand between its neighbours depends on which word it is.  Each kind of word
has one rule, and a token that may not stand where it stands breaks the rule of its kind.  The scan
over the modifiers of a column stops at the first token that does.

## Main definitions

* `IsMisplaced before? token after?` — how a modifier breaks the rule of its position.
* `IsMisplacedAt before? ts i` — whether the modifier at position `i` does.

## Main results

* `mayStand_key`, `mayStand_primary`, `mayStand_not`, `mayStand_word`, `mayStand_value` — the rule
  of each kind of word.
* `mayStand_eq_false_iff` — **a modifier is turned down exactly if it breaks its rule.**
* `firstMisplacedAfter?_eq_some_iff`, `firstMisplacedAfter?_eq_none_iff` — **the scan finds the
  first modifier that breaks its rule.**
-/

namespace SchemaIntake

open Text

variable {token : Text}

/-! ### One rule for each kind of word -/

theorem mayStand_operand (h : isOperand token = true) (before? after? : Option Text) :
    mayStand before? token after? = true := by
  rw [mayStand, if_pos h]

/-- The rules of all tokens other than operands, one after the other. -/
theorem mayStand_of_not_isOperand (h : isOperand token = false) (before? after? : Option Text) :
    mayStand before? token after? =
      if upper token = "KEY".toList then before?.any (sameLetters · "PRIMARY".toList)
      else if upper token ∈ modifierWords then
        (requiredAfter? (upper token)).elim true fun allowed =>
          after?.any fun after => allowed.any (sameLetters after ·)
      else before?.any fun before => valueIntroducers.contains (upper before) := by
  by_cases hkey : upper token = "KEY".toList
  · have hrequired : requiredBefore? (upper token) = some "PRIMARY".toList := if_pos hkey
    simp only [mayStand, h, hrequired, Bool.false_eq_true, if_false, if_pos hkey]
  · have hrequired : requiredBefore? (upper token) = none := if_neg hkey
    simp only [mayStand, h, hrequired, Bool.false_eq_true, if_false, if_neg hkey,
      List.contains_iff_mem]
    cases requiredAfter? (upper token) with
    | none => simp only [Option.elim_none]
    | some allowed => simp only [Option.elim_some]

/-- `KEY` may stand directly after `PRIMARY` only. -/
theorem mayStand_key (h : isOperand token = false) (hword : upper token = "KEY".toList)
    (before? after? : Option Text) :
    mayStand before? token after? = before?.any (sameLetters · "PRIMARY".toList) := by
  rw [mayStand_of_not_isOperand h, if_pos hword]

/-- `PRIMARY` may stand directly before `KEY` only. -/
theorem mayStand_primary (h : isOperand token = false) (hword : upper token = "PRIMARY".toList)
    (before? after? : Option Text) :
    mayStand before? token after? = after?.any (sameLetters · "KEY".toList) := by
  have hkey : "PRIMARY".toList ≠ "KEY".toList := by decide
  have hmem : "PRIMARY".toList ∈ modifierWords := by decide
  have hafter : requiredAfter? "PRIMARY".toList = some ["KEY".toList] := by decide
  rw [mayStand_of_not_isOperand h, hword, if_neg hkey, if_pos hmem, hafter]
  simp only [Option.elim_some, List.any_cons, List.any_nil, Bool.or_false]

/-- `NOT` may stand directly before `NULL` or `DEFERRABLE` only. -/
theorem mayStand_not (h : isOperand token = false) (hword : upper token = "NOT".toList)
    (before? after? : Option Text) :
    mayStand before? token after? = after?.any fun after =>
      sameLetters after "NULL".toList || sameLetters after "DEFERRABLE".toList := by
  have hkey : "NOT".toList ≠ "KEY".toList := by decide
  have hmem : "NOT".toList ∈ modifierWords := by decide
  have hafter : requiredAfter? "NOT".toList = some ["NULL".toList, "DEFERRABLE".toList] := by decide
  rw [mayStand_of_not_isOperand h, hword, if_neg hkey, if_pos hmem, hafter]
  simp only [Option.elim_some, List.any_cons, List.any_nil, Bool.or_false]

/-- The words that stand for themselves: all but `PRIMARY` and `NOT`. -/
theorem mayStand_word (hmem : upper token ∈ modifierWords)
    (hprimary : upper token ≠ "PRIMARY".toList) (hnot : upper token ≠ "NOT".toList)
    (before? after? : Option Text) : mayStand before? token after? = true := by
  cases h : isOperand token with
  | true => exact mayStand_operand h before? after?
  | false =>
    have hkey : upper token ≠ "KEY".toList := by
      intro hkey
      rw [hkey] at hmem
      exact absurd hmem (by decide)
    rw [mayStand_of_not_isOperand h, if_neg hkey, if_pos hmem, requiredAfter?, if_neg hprimary,
      if_neg hnot, Option.elim_none]

/-- Any other token may stand as a value, directly after a word that introduces one. -/
theorem mayStand_value (h : isOperand token = false) (hkey : upper token ≠ "KEY".toList)
    (hmem : upper token ∉ modifierWords) (before? after? : Option Text) :
    mayStand before? token after? =
      before?.any fun before => valueIntroducers.contains (upper before) := by
  rw [mayStand_of_not_isOperand h, if_neg hkey, if_neg hmem]

/-! ### Broken rules -/

/-- How a modifier breaks the rule of its position.  Operands have no such rule. -/
inductive IsMisplaced (before? : Option Text) (token : Text) (after? : Option Text) : Prop
  /-- `KEY` does not stand directly after `PRIMARY`. -/
  | key (hword : isOperand token = false) (hkey : upper token = "KEY".toList)
      (hbefore : ∀ before ∈ before?, sameLetters before "PRIMARY".toList = false)
  /-- `PRIMARY` does not stand directly before `KEY`. -/
  | primary (hword : isOperand token = false) (hprimary : upper token = "PRIMARY".toList)
      (hafter : ∀ after ∈ after?, sameLetters after "KEY".toList = false)
  /-- `NOT` stands directly before neither `NULL` nor `DEFERRABLE`. -/
  | not (hword : isOperand token = false) (hnot : upper token = "NOT".toList)
      (hafter : ∀ after ∈ after?, sameLetters after "NULL".toList = false ∧
        sameLetters after "DEFERRABLE".toList = false)
  /-- A token that is none of the words does not stand directly after one that introduces values. -/
  | stranger (hword : isOperand token = false) (hkey : upper token ≠ "KEY".toList)
      (hother : upper token ∉ modifierWords)
      (hbefore : ∀ before ∈ before?, upper before ∉ valueIntroducers)

/-- **A modifier is turned down exactly if it breaks its rule.** -/
theorem mayStand_eq_false_iff {before? after? : Option Text} :
    mayStand before? token after? = false ↔ IsMisplaced before? token after? := by
  have hany {p : Text → Bool} (o : Option Text) : o.any p = false ↔ ∀ t ∈ o, p t = false := by
    cases o <;> simp
  constructor
  · intro h
    cases hword : isOperand token with
    | true =>
      rw [mayStand_operand hword] at h
      exact absurd h (by simp)
    | false =>
      -- each special word has its own rule, all other words share one
      by_cases hkey : upper token = "KEY".toList
      · rw [mayStand_key hword hkey, hany] at h
        exact .key hword hkey h
      · by_cases hprimary : upper token = "PRIMARY".toList
        · rw [mayStand_primary hword hprimary, hany] at h
          exact .primary hword hprimary h
        · by_cases hnot : upper token = "NOT".toList
          · rw [mayStand_not hword hnot, hany] at h
            exact .not hword hnot (by simpa using h)
          · by_cases hmem : upper token ∈ modifierWords
            · rw [mayStand_word hmem hprimary hnot] at h
              exact absurd h (by simp)
            · rw [mayStand_value hword hkey hmem, hany] at h
              exact .stranger hword hkey hmem (by simpa using h)
  · intro h
    cases h with
    | key hword hkey hbefore => rwa [mayStand_key hword hkey, hany]
    | primary hword hprimary hafter => rwa [mayStand_primary hword hprimary, hany]
    | not hword hnot hafter =>
      rw [mayStand_not hword hnot, hany]
      simpa using hafter
    | stranger hword hkey hother hbefore =>
      rw [mayStand_value hword hkey hother, hany]
      simpa using hbefore

/-! ### The scan -/

/-- Whether the modifier at a position breaks the rule of its position, when `before?` stands in
front of the first one. -/
def IsMisplacedAt (before? : Option Text) (ts : List Text) (i : Nat) : Prop :=
  ∃ token, ts[i]? = some token ∧
    IsMisplaced (if i = 0 then before? else ts[i - 1]?) token ts[i + 1]?

theorem isMisplacedAt_zero {before? : Option Text} {rest : List Text} :
    IsMisplacedAt before? (token :: rest) 0 ↔ mayStand before? token rest.head? = false := by
  rw [mayStand_eq_false_iff, IsMisplacedAt]
  simp [List.head?_eq_getElem?]

theorem isMisplacedAt_succ {before? : Option Text} {rest : List Text} {i : Nat} :
    IsMisplacedAt before? (token :: rest) (i + 1) ↔ IsMisplacedAt (some token) rest i := by
  rw [IsMisplacedAt, IsMisplacedAt]
  cases i <;> simp

/-- **The scan finds the first modifier that breaks its rule.** -/
theorem firstMisplacedAfter?_eq_some_iff {before? : Option Text} {ts : List Text} :
    firstMisplacedAfter? before? ts = some token ↔ ∃ i, ts[i]? = some token ∧
      IsMisplacedAt before? ts i ∧ ∀ j < i, ¬ IsMisplacedAt before? ts j := by
  induction ts generalizing before? with
  | nil => simp [firstMisplacedAfter?]
  | cons first rest ih =>
    rw [firstMisplacedAfter?]
    split
    · next hstands =>
      -- the first token stands, so all positions move up by one
      have hfirst : ¬ IsMisplacedAt before? (first :: rest) 0 := by
        rw [isMisplacedAt_zero, hstands]
        simp
      rw [ih]
      constructor
      · rintro ⟨i, htoken, hbreaks, hearlier⟩
        refine ⟨i + 1, htoken, isMisplacedAt_succ.mpr hbreaks, fun j hj => ?_⟩
        cases j with
        | zero => exact hfirst
        | succ j =>
          rw [isMisplacedAt_succ]
          exact hearlier j (by omega)
      · rintro ⟨i, htoken, hbreaks, hearlier⟩
        cases i with
        | zero => exact absurd hbreaks hfirst
        | succ i =>
          refine ⟨i, htoken, isMisplacedAt_succ.mp hbreaks, fun j hj hbefore => ?_⟩
          exact hearlier (j + 1) (by omega) (isMisplacedAt_succ.mpr hbefore)
    · next hbreaks =>
      rw [Bool.not_eq_true, ← isMisplacedAt_zero] at hbreaks
      constructor
      · rintro ⟨⟩
        exact ⟨0, rfl, hbreaks, fun j hj => absurd hj (Nat.not_lt_zero j)⟩
      · rintro ⟨i, htoken, -, hearlier⟩
        cases i with
        | zero => exact htoken
        | succ i => exact absurd hbreaks (hearlier 0 (Nat.zero_lt_succ i))

/-- The scan finds nothing exactly if no modifier breaks its rule. -/
theorem firstMisplacedAfter?_eq_none_iff {before? : Option Text} {ts : List Text} :
    firstMisplacedAfter? before? ts = none ↔ ∀ i, ¬ IsMisplacedAt before? ts i := by
  induction ts generalizing before? with
  | nil => simp [firstMisplacedAfter?, IsMisplacedAt]
  | cons first rest ih =>
    rw [firstMisplacedAfter?]
    split
    · next hstands =>
      rw [ih]
      constructor
      · intro hrest i
        cases i with
        | zero =>
          rw [isMisplacedAt_zero, hstands]
          simp
        | succ i =>
          rw [isMisplacedAt_succ]
          exact hrest i
      · intro hall i hbreaks
        exact hall (i + 1) (isMisplacedAt_succ.mpr hbreaks)
    · next hbreaks =>
      rw [Bool.not_eq_true, ← isMisplacedAt_zero] at hbreaks
      exact iff_of_false (by simp) fun hall => hall 0 hbreaks

end SchemaIntake
