import SchemaIntake.Proofs.Ddl.Modifiers

/-!
# Modifiers one after the other

A modifier looks at one neighbour on either side, and a neighbour can only help: `KEY`, `PRIMARY`,
`NOT` and the values ask for one, and nothing forbids one.  So modifiers that may stand by
themselves may also stand one behind the other, whatever meets at the seam.  And what follows saves
a modifier that may not stand only if it starts with a word that the modifier waits for.

## Main definitions

* `mayStandAt tokens start i` — whether the token at a position may stand there.
* `misplacedPosition? tokens start` — the first position whose token may not.
* `isAwaited token next` — whether a token waits for the next one.

## Main results

* `firstMisplaced?_eq_bind` — the scan reports the token at that position.
* `isMisplaced_iff_isAwaited` — **what the next token can change**.
* `isMisplacedAt_append_iff`, `IsMisplacedAt.of_append_right` — both sides of a seam.
* `modifiers_compose` — **modifiers that may stand compose, and a report outlives what follows**.
-/

namespace SchemaIntake

open Text

variable {token : Text} {before? after? : Option Text}

/-! ### Positions -/

/-- Whether the token at a position may stand between its neighbours, when the modifiers start at
position `start`.  What stands in front of that position is no neighbour. -/
def mayStandAt (tokens : List Text) (start i : Nat) : Bool :=
  tokens[i]?.all fun token =>
    mayStand (if i = start then none else tokens[i - 1]?) token tokens[i + 1]?

/-- The first position from `start` on whose token may not stand there. -/
def misplacedPosition? (tokens : List Text) (start : Nat) : Option Nat :=
  (List.range' start (tokens.length - start)).find? fun i => !mayStandAt tokens start i

section Positions

variable {tokens : List Text} {start k : Nat}

theorem mayStandAt_add_eq_false_iff :
    mayStandAt tokens start (start + k) = false ↔ IsMisplacedAt none (tokens.drop start) k := by
  have htoken : tokens[start + k]? = (tokens.drop start)[k]? := List.getElem?_drop.symm
  have hbefore : (if start + k = start then none else tokens[start + k - 1]?) =
      if k = 0 then none else (tokens.drop start)[k - 1]? := by
    cases k <;> simp
  have hafter : tokens[start + k + 1]? = (tokens.drop start)[k + 1]? := by
    rw [List.getElem?_drop, Nat.add_assoc]
  rw [mayStandAt, IsMisplacedAt, hbefore, hafter, htoken]
  cases (tokens.drop start)[k]? with
  | none => simp
  | some token =>
    rw [Option.all_some, mayStand_eq_false_iff]
    simp only [Option.some.injEq, exists_eq_left']

theorem mayStandAt_add_iff :
    mayStandAt tokens start (start + k) = true ↔ ¬ IsMisplacedAt none (tokens.drop start) k := by
  rw [← mayStandAt_add_eq_false_iff, Bool.not_eq_false]

/-- The first position is that of the first modifier that breaks its rule. -/
theorem misplacedPosition?_eq_some_iff : misplacedPosition? tokens start = some (start + k) ↔
    IsMisplacedAt none (tokens.drop start) k ∧
      ∀ j < k, ¬ IsMisplacedAt none (tokens.drop start) j := by
  rw [misplacedPosition?, List.find?_range'_eq_some, Bool.not_eq_true',
    mayStandAt_add_eq_false_iff]
  simp only [Bool.not_not]
  constructor
  · rintro ⟨hbreaks, -, hearlier⟩
    refine ⟨hbreaks, fun j hj => ?_⟩
    exact mayStandAt_add_iff.mp (hearlier (start + j) (by omega) (by omega))
  · rintro ⟨hbreaks, hearlier⟩
    refine ⟨hbreaks, ?_, fun i hstart hi => ?_⟩
    -- a position that is reported has a token
    · obtain ⟨token, htoken, -⟩ := hbreaks
      obtain ⟨hk, -⟩ := List.getElem?_eq_some_iff.mp htoken
      rw [List.length_drop] at hk
      rw [List.mem_range'_1]
      omega
    · obtain ⟨j, rfl⟩ := Nat.exists_eq_add_of_le hstart
      exact mayStandAt_add_iff.mpr (hearlier j (by omega))

/-- There is no such position if no modifier breaks its rule. -/
theorem misplacedPosition?_eq_none (h : ∀ k, ¬ IsMisplacedAt none (tokens.drop start) k) :
    misplacedPosition? tokens start = none := by
  rw [misplacedPosition?, List.find?_range'_eq_none]
  simp only [Bool.not_not]
  intro i hstart _
  obtain ⟨k, rfl⟩ := Nat.exists_eq_add_of_le hstart
  exact mayStandAt_add_iff.mpr (h k)

theorem le_of_misplacedPosition? {i : Nat} (h : misplacedPosition? tokens start = some i) :
    start ≤ i := by
  have hmem := List.mem_of_find?_eq_some h
  rw [List.mem_range'_1] at hmem
  exact hmem.1

/-- **The scan reports the token at the first position** whose token may not stand there. -/
theorem firstMisplaced?_eq_bind (tokens : List Text) (start : Nat) :
    firstMisplaced? tokens start = (misplacedPosition? tokens start).bind (tokens[·]?) := by
  cases hscan : firstMisplaced? tokens start with
  | none =>
    have hplaced := firstMisplacedAfter?_eq_none_iff.mp hscan
    rw [misplacedPosition?_eq_none hplaced, Option.bind_none]
  | some token =>
    obtain ⟨k, htoken, hbreaks, hearlier⟩ := firstMisplacedAfter?_eq_some_iff.mp hscan
    rw [misplacedPosition?_eq_some_iff.mpr ⟨hbreaks, hearlier⟩, Option.bind_some,
      ← List.getElem?_drop, htoken]

end Positions

/-! ### Neighbours -/

/-- Whether a token waits for the next one: what must stand directly behind it is that one. -/
def isAwaited (token next : Text) : Bool :=
  (requiredAfter? (upper token)).any fun allowed => allowed.any (sameLetters next ·)

section Awaited

variable {next : Text}

theorem isAwaited_primary (h : upper token = "PRIMARY".toList) :
    isAwaited token next = sameLetters next "KEY".toList := by
  have hafter : requiredAfter? "PRIMARY".toList = some ["KEY".toList] := by decide
  rw [isAwaited, h, hafter]
  simp only [Option.any_some, List.any_cons, List.any_nil, Bool.or_false]

theorem isAwaited_not (h : upper token = "NOT".toList) : isAwaited token next =
    (sameLetters next "NULL".toList || sameLetters next "DEFERRABLE".toList) := by
  have hafter : requiredAfter? "NOT".toList = some ["NULL".toList, "DEFERRABLE".toList] := by decide
  rw [isAwaited, h, hafter]
  simp only [Option.any_some, List.any_cons, List.any_nil, Bool.or_false]

/-- Only `PRIMARY` and `NOT` wait for a word. -/
theorem isAwaited_eq_false (hprimary : upper token ≠ "PRIMARY".toList)
    (hnot : upper token ≠ "NOT".toList) : isAwaited token next = false := by
  rw [isAwaited, requiredAfter?, if_neg hprimary, if_neg hnot, Option.any_none]

theorem mem_of_isAwaited (h : isAwaited token next = true) :
    upper token ∈ ["NOT", "PRIMARY"].map String.toList := by
  by_cases hprimary : upper token = "PRIMARY".toList
  · simp [hprimary]
  · by_cases hnot : upper token = "NOT".toList
    · simp [hnot]
    · rw [isAwaited_eq_false hprimary hnot] at h
      exact absurd h (by decide)

end Awaited

/-- A token that breaks its rule breaks it with fewer neighbours too. -/
theorem IsMisplaced.mono {fewer? less? : Option Text} (h : IsMisplaced before? token after?)
    (hbefore : ∀ t ∈ fewer?, t ∈ before?) (hafter : ∀ t ∈ less?, t ∈ after?) :
    IsMisplaced fewer? token less? := by
  cases h with
  | key hword hkey hrule => exact .key hword hkey fun t ht => hrule t (hbefore t ht)
  | primary hword hprimary hrule => exact .primary hword hprimary fun t ht => hrule t (hafter t ht)
  | not hword hnot hrule => exact .not hword hnot fun t ht => hrule t (hafter t ht)
  | stranger hword hkey hother hrule =>
    exact .stranger hword hkey hother fun t ht => hrule t (hbefore t ht)

/-- **What the next token can change.**  A token that breaks its rule without a next token breaks it
with one, unless it waits for that one. -/
theorem isMisplaced_iff_isAwaited : IsMisplaced before? token after? ↔
    IsMisplaced before? token none ∧ ∀ next ∈ after?, isAwaited token next = false := by
  constructor
  · intro h
    refine ⟨h.mono (fun t ht => ht) (by simp), fun next hnext => ?_⟩
    -- only `NOT` and `PRIMARY` look at what follows
    cases h with
    | key hword hkey hrule =>
      apply isAwaited_eq_false <;> rw [hkey] <;> decide
    | primary hword hprimary hrule =>
      rw [isAwaited_primary hprimary]
      exact hrule next hnext
    | not hword hnot hrule =>
      rw [isAwaited_not hnot, (hrule next hnext).1, (hrule next hnext).2]
      rfl
    | stranger hword hkey hother hrule =>
      apply isAwaited_eq_false
      · intro hprimary
        rw [hprimary] at hother
        exact hother (by decide)
      · intro hnot
        rw [hnot] at hother
        exact hother (by decide)
  · rintro ⟨h, hnext⟩
    cases h with
    | key hword hkey hrule => exact .key hword hkey hrule
    | primary hword hprimary _ =>
      refine .primary hword hprimary fun next hmem => ?_
      rw [← isAwaited_primary hprimary]
      exact hnext next hmem
    | not hword hnot _ =>
      refine .not hword hnot fun next hmem => ?_
      rw [← Bool.or_eq_false_iff, ← isAwaited_not hnot]
      exact hnext next hmem
    | stranger hword hkey hother hrule => exact .stranger hword hkey hother hrule

/-! ### Seams -/

section Seams

variable {ts more : List Text} {i : Nat}

theorem isMisplacedAt_iff_of_getElem? (h : ts[i]? = some token) : IsMisplacedAt before? ts i ↔
    IsMisplaced (if i = 0 then before? else ts[i - 1]?) token ts[i + 1]? := by
  rw [IsMisplacedAt, h]
  simp only [Option.some.injEq, exists_eq_left']

/-- **In front of a seam** what follows matters to the last token only, and only if it waits for the
first one of it. -/
theorem isMisplacedAt_append_iff (h : ts[i]? = some token) :
    IsMisplacedAt before? (ts ++ more) i ↔ IsMisplacedAt before? ts i ∧
      ¬ (i + 1 = ts.length ∧ ∃ next ∈ more.head?, isAwaited token next = true) := by
  obtain ⟨hi, -⟩ := List.getElem?_eq_some_iff.mp h
  have htoken : (ts ++ more)[i]? = some token := by rw [List.getElem?_append_left hi, h]
  have hbefore : (ts ++ more)[i - 1]? = ts[i - 1]? := List.getElem?_append_left (by omega)
  rw [isMisplacedAt_iff_of_getElem? htoken, isMisplacedAt_iff_of_getElem? h, hbefore]
  -- the token behind it is the first one of what follows, or the one that was there before
  by_cases hlast : i + 1 = ts.length
  · have hnone : ts[i + 1]? = none := List.getElem?_eq_none (by omega)
    have hafter : (ts ++ more)[i + 1]? = more.head? := by
      rw [hlast, List.getElem?_append_right (Nat.le_refl _), Nat.sub_self, List.head?_eq_getElem?]
    rw [hafter, hnone, isMisplaced_iff_isAwaited]
    simp [hlast]
  · have hafter : (ts ++ more)[i + 1]? = ts[i + 1]? := List.getElem?_append_left (by omega)
    rw [hafter]
    simp [hlast]

/-- **Behind a seam** a token that breaks its rule breaks it without what stands in front, too. -/
theorem IsMisplacedAt.of_append_right {k : Nat}
    (h : IsMisplacedAt before? (ts ++ more) (ts.length + k)) : IsMisplacedAt none more k := by
  obtain ⟨token, htoken, hbreaks⟩ := h
  have hright (j : Nat) : (ts ++ more)[ts.length + j]? = more[j]? := by
    rw [List.getElem?_append_right (Nat.le_add_right _ _), Nat.add_sub_cancel_left]
  rw [hright] at htoken
  rw [Nat.add_assoc, hright] at hbreaks
  -- the first token of `more` loses the neighbour in front of it, the others keep theirs
  refine ⟨token, htoken, hbreaks.mono ?_ fun t ht => ht⟩
  cases k with
  | zero =>
    intro t ht
    exact absurd ht (by simp)
  | succ k =>
    intro t ht
    rwa [if_neg (by omega), ← Nat.add_assoc, Nat.add_sub_cancel, hright]

/-- Modifiers that may stand by themselves may stand one behind the other. -/
theorem firstMisplacedAfter?_append_eq_none (hts : firstMisplacedAfter? before? ts = none)
    (hmore : firstMisplacedAfter? none more = none) :
    firstMisplacedAfter? before? (ts ++ more) = none := by
  rw [firstMisplacedAfter?_eq_none_iff] at hts hmore ⊢
  intro i hbreaks
  rcases Nat.lt_or_ge i ts.length with hi | hi
  · have htoken : ts[i]? = some ts[i] := List.getElem?_eq_getElem hi
    exact hts i ((isMisplacedAt_append_iff htoken).mp hbreaks).1
  · obtain ⟨k, rfl⟩ := Nat.exists_eq_add_of_le hi
    exact hmore k hbreaks.of_append_right

end Seams

/-! ### Reports -/

/-- **A report outlives what follows** exactly if the token is not the last one or does not wait for
the first one behind it. -/
theorem misplacedPosition?_append_iff {front ts : List Text} {i : Nat}
    (hreport : misplacedPosition? (front ++ ts) front.length = some i)
    (htoken : (front ++ ts)[i]? = some token) (more : List Text) :
    misplacedPosition? (front ++ ts ++ more) front.length = some i ↔
      ¬ (i + 1 = (front ++ ts).length ∧ ∃ next ∈ more.head?, isAwaited token next = true) := by
  obtain ⟨k, rfl⟩ := Nat.exists_eq_add_of_le (le_of_misplacedPosition? hreport)
  rw [misplacedPosition?_eq_some_iff, List.drop_left] at hreport
  obtain ⟨hbreaks, hearlier⟩ := hreport
  rw [← List.getElem?_drop, List.drop_left] at htoken
  obtain ⟨hk, -⟩ := List.getElem?_eq_some_iff.mp htoken
  -- the tokens in front of the reported one see nothing of what follows
  have hfirst : ∀ j < k, ¬ IsMisplacedAt none (ts ++ more) j := by
    intro j hj hbefore
    have hget : ts[j]? = some ts[j] := List.getElem?_eq_getElem (Nat.lt_trans hj hk)
    exact hearlier j hj ((isMisplacedAt_append_iff hget).mp hbefore).1
  have hlast : front.length + k + 1 = (front ++ ts).length ↔ k + 1 = ts.length := by
    rw [List.length_append]
    omega
  rw [List.append_assoc, misplacedPosition?_eq_some_iff, List.drop_left, and_iff_left hfirst,
    isMisplacedAt_append_iff htoken, and_iff_right hbreaks, hlast]

/-- **Modifiers that may stand compose, and a report outlives what follows.**  Behind any tokens,
two lists of modifiers that may each stand there may also stand one behind the other.  Where the
scan reports a token, it reports the one at the first position whose token may not stand; with more
tokens behind them it still reports that token at that position, unless the token is the last one,
is `NOT` or `PRIMARY`, and waits for the first one of them. -/
theorem modifiers_compose (front : List Text) :
    (∀ ts more, firstMisplaced? (front ++ ts) front.length = none →
      firstMisplaced? (front ++ more) front.length = none →
        firstMisplaced? (front ++ ts ++ more) front.length = none) ∧
    ∀ ts token, firstMisplaced? (front ++ ts) front.length = some token →
      ∃ i, misplacedPosition? (front ++ ts) front.length = some i ∧
        (front ++ ts)[i]? = some token ∧
        ∀ more, (misplacedPosition? (front ++ ts ++ more) front.length = some i ∧
            firstMisplaced? (front ++ ts ++ more) front.length = some token) ↔
          ¬ (i + 1 = (front ++ ts).length ∧
            upper token ∈ ["NOT", "PRIMARY"].map String.toList ∧
              ∃ next ∈ more.head?, isAwaited token next = true) := by
  constructor
  · intro ts more hts hmore
    rw [firstMisplaced?, List.drop_left] at hts hmore
    rw [firstMisplaced?, List.append_assoc, List.drop_left]
    exact firstMisplacedAfter?_append_eq_none hts hmore
  · intro ts token hscan
    rw [firstMisplaced?_eq_bind, Option.bind_eq_some_iff] at hscan
    obtain ⟨i, hreport, htoken⟩ := hscan
    refine ⟨i, hreport, htoken, fun more => ?_⟩
    have hiff := misplacedPosition?_append_iff hreport htoken more
    constructor
    · rintro ⟨hstays, -⟩ ⟨hlast, -, hnext⟩
      exact hiff.mp hstays ⟨hlast, hnext⟩
    · intro hunless
      have hstays : misplacedPosition? (front ++ ts ++ more) front.length = some i := by
        refine hiff.mpr ?_
        rintro ⟨hlast, next, hmem, hawaited⟩
        exact hunless ⟨hlast, mem_of_isAwaited hawaited, next, hmem, hawaited⟩
      obtain ⟨hi, -⟩ := List.getElem?_eq_some_iff.mp htoken
      refine ⟨hstays, ?_⟩
      rw [firstMisplaced?_eq_bind, hstays, Option.bind_some, List.getElem?_append_left hi, htoken]

/-- A key and a default behind a name and a type, and a `not` at the end that only `null` saves. -/
theorem modifiers_compose_id :
    let front := ["id", "INT"].map String.toList
    let key := ["Primary", "KEY"].map String.toList
    let value := ["DEFAULT", "key_of_x"].map String.toList
    let dangling := ["UNIQUE", "not"].map String.toList
    let null := ["Null"].map String.toList
    (firstMisplaced? (front ++ key) front.length = none ∧
      firstMisplaced? (front ++ value) front.length = none ∧
      firstMisplaced? (front ++ key ++ value) front.length = none) ∧
    firstMisplaced? (front ++ dangling) front.length = some "not".toList ∧
    misplacedPosition? (front ++ dangling) front.length = some 3 ∧
    firstMisplaced? (front ++ dangling ++ value) front.length = some "not".toList ∧
    ¬ (misplacedPosition? (front ++ dangling ++ null) front.length = some 3 ∧
      firstMisplaced? (front ++ dangling ++ null) front.length = some "not".toList) := by
  intro front key value dangling null
  have hkey : firstMisplaced? (front ++ key) front.length = none := by decide
  have hvalue : firstMisplaced? (front ++ value) front.length = none := by decide
  have hdangling : firstMisplaced? (front ++ dangling) front.length = some "not".toList := by decide
  have hposition : misplacedPosition? (front ++ dangling) front.length = some 3 := by decide
  obtain ⟨hcompose, houtlives⟩ := modifiers_compose front
  obtain ⟨i, hi, -, hmore⟩ := houtlives dangling "not".toList hdangling
  obtain rfl : 3 = i := Option.some.inj (hposition.symm.trans hi)
  refine ⟨⟨hkey, hvalue, hcompose key value hkey hvalue⟩, hdangling, hposition, ?_, ?_⟩
  · have hnext : ∀ next ∈ value.head?, isAwaited "not".toList next = false := by decide
    refine ((hmore value).mpr ?_).2
    rintro ⟨-, -, next, hmem, hawaited⟩
    rw [hnext next hmem] at hawaited
    exact absurd hawaited (by decide)
  · intro hsame
    exact (hmore null).mp hsame ⟨by decide, by decide, "Null".toList, rfl, by decide⟩

end SchemaIntake
