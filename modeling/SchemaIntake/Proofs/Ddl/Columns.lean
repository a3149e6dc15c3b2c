import SchemaIntake.Proofs.Ddl.ColumnFaults
import SchemaIntake.Proofs.Ddl.Tokens

/-!
# What an accepted column looks like

An element that is accepted as a column consists of a name, the words of a known type and
modifiers that may stand where they stand.  Little room is left in it: the name is ASCII, and a
token that starts with `KEY` is a modifier after `PRIMARY`, unless a parenthesis is in it.

## Main definitions

* `ColumnDefinition.modifiers e` — the tokens of an element after its type.
* `declaresKey ts` — whether `PRIMARY` and `KEY` follow each other in some tokens.

## Main results

* `ColumnDefinition.exists_of_read` — the parts of an accepted column.
* `declaresKey_of_read` — **the two words are a declaration**, if no parenthesis is in them.
-/

namespace SchemaIntake

open Text

/-! ### Names -/

namespace Identifier

theorem isContinuation_of_isStart {c : Char} (h : isStart c = true) : isContinuation c = true := by
  rw [isStart, Bool.or_eq_true] at h
  rcases h with h | h
  · simp [isContinuation, h]
  · simp [isContinuation, h]

/-- A name goes on with ASCII characters other than separators. -/
theorem isContinuation_spec {c : Char} (h : isContinuation c = true) :
    c.toNat < 0x80 ∧ isSeparator c = false := by
  have hascii : c.toNat < 0x80 := by
    simp only [isContinuation, Bool.or_eq_true, beq_iff_eq] at h
    rcases h with ((h | h) | rfl) | rfl
    · exact toNat_of_isLetter h
    · exact toNat_of_isDigit h
    · decide
    · decide
  refine ⟨hascii, ?_⟩
  revert h
  exact forall_ascii (P := fun c => isContinuation c = true → isSeparator c = false)
    (by decide) hascii

theorem isContinuation_of_mem {name : Text} (h : isValid name = true) {c : Char} (hc : c ∈ name) :
    isContinuation c = true := by
  cases name with
  | nil => exact absurd hc List.not_mem_nil
  | cons d rest =>
    simp only [isValid, Bool.and_eq_true, List.all_eq_true] at h
    rcases List.mem_cons.mp hc with rfl | hc
    · exact isContinuation_of_isStart h.1.2
    · exact h.2 c hc

/-- Nothing but quotes is taken off a name. -/
theorem mem_unquote {name : Text} {c : Char} (hc : c ∈ name) (hquote : c ≠ '"') :
    c ∈ unquote name := by
  have hdrop : ∀ {t : Text}, c ∈ t → c ∈ t.dropWhile (· == '"') := by
    intro t ht
    rw [← List.takeWhile_append_dropWhile (p := (· == '"')) (l := t)] at ht
    rcases List.mem_append.mp ht with ht | ht
    · exact absurd (List.mem_takeWhile_imp ht) (by simpa using hquote)
    · exact ht
  rw [unquote, List.mem_reverse]
  exact hdrop (List.mem_reverse.mpr (hdrop hc))

/-- A token is no name, quoted or not, if it has a character that no name has. -/
theorem isValid_unquote_eq_false {token : Text} {c : Char} (h : c ∈ token) (hquote : c ≠ '"')
    (hc : isContinuation c = false) : isValid (unquote token) = false := by
  rw [Bool.eq_false_iff]
  intro hvalid
  rw [isContinuation_of_mem hvalid (mem_unquote h hquote)] at hc
  exact absurd hc (by simp)

/-- A token that stands for a valid name is ASCII and holds no separator. -/
theorem spec_of_mem_of_isValid_unquote {token : Text} (h : isValid (unquote token) = true)
    {c : Char} (hc : c ∈ token) : c.toNat < 0x80 ∧ isSeparator c = false := by
  by_cases hquote : c = '"'
  · subst hquote
    decide
  · exact isContinuation_spec (isContinuation_of_mem h (mem_unquote hc hquote))

end Identifier

/-! ### Types -/

namespace DeclaredType

/-- The words of a type, and the tokens that come after them. -/
theorem exists_of_ofTokens? {ts : List Text} {type : DeclaredType} (h : ofTokens? ts = some type) :
    (∃ w rest, ts = w :: rest ∧ type = ⟨w, 1⟩) ∨
      ∃ w w' rest, ts = w :: w' :: rest ∧ type = ⟨lower (w ++ ' ' :: w'), 2⟩ ∧
        DataType.twoWordOpenings.any (·.isPrefixOf type.raw) = true := by
  match ts with
  | [] => simp [ofTokens?] at h
  | [w] =>
    obtain rfl := Option.some.inj h
    exact Or.inl ⟨w, [], rfl, rfl⟩
  | w :: w' :: rest =>
    rw [ofTokens?, ofTwoWords?] at h
    split at h
    · next hopening =>
      rw [Option.some_or] at h
      obtain rfl := Option.some.inj h
      exact Or.inr ⟨w, w', rest, rfl, rfl, hopening⟩
    · rw [Option.none_or] at h
      obtain rfl := Option.some.inj h
      exact Or.inl ⟨w, w' :: rest, rfl, rfl⟩

end DeclaredType

namespace DataType

/-- A text opens no type name of several words if none of them starts like it. -/
theorem any_isPrefixOf_lower_cons {c : Char} (hc : c.toNat < 0x80)
    (hopenings : ∀ o ∈ twoWordOpenings, o ≠ [] ∧ o.head? ≠ some c.toLower) (t : Text) :
    twoWordOpenings.any (·.isPrefixOf (lower (c :: t))) = false := by
  rw [List.any_eq_false]
  intro o ho hopening
  obtain ⟨hne, hother⟩ := hopenings o ho
  obtain ⟨s, hs⟩ := List.isPrefixOf_iff_prefix.mp hopening
  have hhead := head?_lower_cons hc t
  rw [← hs, List.head?_append_of_ne_nil _ hne] at hhead
  exact hother hhead

theorem mem_dropArraySuffix {t : Text} {c : Char} (h : c ∈ t) (hopen : c ≠ '[') (hclose : c ≠ ']') :
    c ∈ dropArraySuffix t := by
  rw [dropArraySuffix]
  split
  · next hsuffix =>
    obtain ⟨r, rfl⟩ := List.isSuffixOf_iff_suffix.mp hsuffix
    have hlength : (r ++ "[]".toList).length - 2 = r.length := by simp
    rw [hlength, List.take_left]
    simpa [hopen, hclose] using h
  · exact h

/-- Without a parenthesis nothing but an array suffix is dropped. -/
theorem normalize_eq_of_not_mem {written : Text} (hparen : '(' ∉ written) :
    normalize written = dropArraySuffix (lower written) := by
  have hopen : '(' ∉ dropArraySuffix (lower written) := by
    intro hin
    refine hparen (mem_of_mem_lower (by decide) (by decide) ?_)
    rw [dropArraySuffix] at hin
    split at hin
    · exact List.mem_of_mem_take hin
    · exact hin
  rw [normalize]
  exact if_neg hopen

/-- What is in no name of the catalog is in no base name of a known type. -/
theorem not_mem_normalize_of_isKnown {written : Text} (h : isKnown written = true) {c : Char}
    (hcatalog : ∀ entry ∈ catalog, c ∉ entry.1) : c ∉ normalize written := by
  rw [isKnown, Bool.and_eq_true, category?, Option.isSome_iff_exists] at h
  obtain ⟨-, category, hlookup⟩ := h
  obtain ⟨before, after, hsplit, -⟩ := List.lookup_eq_some_iff.mp hlookup
  exact hcatalog (normalize written, category) (by rw [hsplit]; simp)

/-- No base name has the letter `k`, so a known type without parentheses has neither `k` nor `K`. -/
theorem not_mem_of_isKnown {written : Text} (h : isKnown written = true) (hparen : '(' ∉ written)
    {c : Char} (hc : c = 'k' ∨ c = 'K') : c ∉ written := by
  intro hmem
  have hlower : 'k' ∈ lower written := by
    rcases hc with rfl | rfl
    · exact toLower_mem_lower (c := 'k') (by decide) hmem
    · exact toLower_mem_lower (c := 'K') (by decide) hmem
  refine not_mem_normalize_of_isKnown h (c := 'k') (by decide +kernel) ?_
  rw [normalize_eq_of_not_mem hparen]
  exact mem_dropArraySuffix hlower (by decide) (by decide)

end DataType

/-! ### The parts of a column -/

namespace ColumnDefinition

/-- The tokens of an element after its name and its type. -/
def modifiers (element : Text) : List Text :=
  match DeclaredType.ofTokens? (tokens element).tail with
  | some type => (tokens element).drop (1 + type.wordCount)
  | none => []

/-- **The parts of an accepted column**: a valid name, a known type, and modifiers that may stand
where they stand. -/
theorem exists_of_read {element : Text} {column : ColumnDefinition}
    (h : read element = .ok column) : ∃ first rest, tokens element = first :: rest ∧
      DeclaredType.ofTokens? rest = some column.type ∧ column.type.isKnown = true ∧
      column.name = Identifier.unquote first ∧ Identifier.isValid column.name = true ∧
      firstMisplacedAfter? none (modifiers element) = none := by
  have hread := read_eq_iff.mp h
  generalize htokens : tokens element = ts at hread
  cases hread with
  | @accepted first rest type htype hknown hvalid hplaced =>
    refine ⟨first, rest, rfl, htype, hknown, rfl, hvalid, ?_⟩
    rw [modifiers, htokens, List.tail_cons, htype]
    dsimp only
    rw [drop_one_add]
    exact firstMisplacedAfter?_eq_none_iff.mpr hplaced

/-- The tokens of an accepted column, with the one or two words of its type. -/
theorem tokens_eq_of_read {element : Text} {column : ColumnDefinition}
    (h : read element = .ok column) :
    (∃ first w, tokens element = first :: w :: modifiers element ∧ column.type.raw = w) ∨
      ∃ first w w', tokens element = first :: w :: w' :: modifiers element ∧
        column.type.raw = lower (w ++ ' ' :: w') ∧
        DataType.twoWordOpenings.any (·.isPrefixOf column.type.raw) = true := by
  obtain ⟨first, rest, htokens, htype, -⟩ := exists_of_read h
  have hmodifiers : modifiers element = (first :: rest).drop (1 + column.type.wordCount) := by
    rw [modifiers, htokens, List.tail_cons, htype]
  rcases DeclaredType.exists_of_ofTokens? htype with
    ⟨w, mods, rfl, hone⟩ | ⟨w, w', mods, rfl, htwo, hopening⟩
  · rw [hone] at hmodifiers
    exact Or.inl ⟨first, w, by rw [htokens, hmodifiers]; rfl, by rw [hone]⟩
  · refine Or.inr ⟨first, w, w', ?_, by rw [htwo], hopening⟩
    rw [htwo] at hmodifiers
    rw [htokens, hmodifiers]
    rfl

end ColumnDefinition

/-! ### Declared keys -/

/-- Whether `PRIMARY` and `KEY` follow each other in some tokens, the case of ASCII letters left
aside. -/
def declaresKey : List Text → Bool
  | p :: q :: rest =>
    (sameLetters p "PRIMARY".toList && sameLetters q "KEY".toList) || declaresKey (q :: rest)
  | _ => false

theorem declaresKey_append {p q : Text} (hp : sameLetters p "PRIMARY".toList = true)
    (hq : sameLetters q "KEY".toList = true) (before after : List Text) :
    declaresKey (before ++ p :: q :: after) = true := by
  induction before with
  | nil => rw [List.nil_append, declaresKey, hp, hq, Bool.and_self, Bool.true_or]
  | cons x before ih =>
    cases before with
    | nil => rw [List.singleton_append, declaresKey, ← List.nil_append (p :: _), ih, Bool.or_true]
    | cons y before => rw [List.cons_append, List.cons_append, declaresKey, ← List.cons_append, ih,
        Bool.or_true]

/-- A token that starts with `KEY` starts with the letter itself. -/
theorem exists_cons_of_key_prefix {q : Text} (h : "KEY".toList <+: upper q) :
    ∃ c rest, q = c :: rest ∧ c.toNat < 0x80 ∧ c.toLower = 'k' ∧ (c = 'k' ∨ c = 'K') := by
  obtain ⟨r, hr⟩ := h
  obtain ⟨c, rest, rfl, hc, hupper⟩ := exists_cons_of_upper_eq_cons (x := 'K') (by decide)
    (by decide) (t := q) hr.symm
  refine ⟨c, rest, rfl, hc, ?_⟩
  revert hupper
  exact forall_ascii (P := fun c => c.toUpper = 'K' → c.toLower = 'k' ∧ (c = 'k' ∨ c = 'K'))
    (by decide) hc

/-- **A modifier that starts with `KEY` is the word itself, after `PRIMARY`**, if what stands
before it ends like that. -/
theorem exists_primary_of_mayStand {before? after? : Option Text} {q : Text}
    (h : mayStand before? q after? = true) (hparen : '(' ∉ q) (hq : "KEY".toList <+: upper q)
    (hbefore : ∀ p ∈ before?, "PRIMARY".toList <:+ upper p) :
    ∃ p, before? = some p ∧ sameLetters p "PRIMARY".toList = true ∧
      sameLetters q "KEY".toList = true := by
  have hoperand : isOperand q = false := by
    obtain ⟨c, rest, rfl, -, -, rfl | rfl⟩ := exists_cons_of_key_prefix hq
    · simpa [isOperand, isDigit] using hparen
    · simpa [isOperand, isDigit] using hparen
  by_cases hword : upper q = "KEY".toList
  · rw [mayStand_key hoperand hword, Option.any_eq_true] at h
    obtain ⟨p, hp, hprimary⟩ := h
    exact ⟨p, hp, hprimary, sameLetters_of_upper_eq (by decide) hword⟩
  · have hmodifier : upper q ∉ modifierWords := by
      have hall : ∀ w ∈ modifierWords, ¬ "KEY".toList <+: w := by decide
      exact fun hmem => hall _ hmem hq
    rw [mayStand_value hoperand hword hmodifier] at h
    -- the token would have to be a value, but `PRIMARY` introduces none
    obtain ⟨p, hp, hvalue⟩ := (Option.any_eq_true _ _).mp h
    have hall : ∀ w ∈ valueIntroducers, ¬ "PRIMARY".toList <:+ w := by decide
    exact absurd (hbefore p hp) (hall _ (List.contains_iff_mem.mp hvalue))

/-- The scan over the modifiers accepts each of them after the one before it. -/
theorem mayStand_of_firstMisplacedAfter? {before? : Option Text} {before after : List Text}
    {q : Text} (h : firstMisplacedAfter? before? (before ++ q :: after) = none) :
    mayStand (before.getLast?.or before?) q after.head? = true := by
  induction before generalizing before? with
  | nil =>
    rw [List.nil_append, firstMisplacedAfter?] at h
    split at h
    · assumption
    · exact absurd h (by simp)
  | cons p before ih =>
    rw [List.cons_append, firstMisplacedAfter?] at h
    split at h
    · have hq := ih h
      rw [List.getLast?_cons]
      cases hlast : before.getLast? with
      | none => simpa [hlast] using hq
      | some x => simpa [hlast] using hq
    · exact absurd h (by simp)

namespace ColumnDefinition

/-- No word of the type of an accepted column starts with `KEY`, unless a parenthesis comes before
the word or is in it. -/
theorem not_type_word_of_read {element : Text} {column : ColumnDefinition}
    (h : read element = .ok column) {q : Text} (hparen : '(' ∉ q) (hq : "KEY".toList <+: upper q) :
    column.type.raw ≠ q ∧
      (∀ w, column.type.raw = lower (q ++ ' ' :: w) →
        DataType.twoWordOpenings.any (·.isPrefixOf column.type.raw) = false) ∧
      ∀ p, '(' ∉ p → column.type.raw ≠ lower (p ++ ' ' :: q) := by
  obtain ⟨first, rest, -, -, hknown, -⟩ := exists_of_read h
  obtain ⟨c, r, rfl, hascii, hlower, hc⟩ := exists_cons_of_key_prefix hq
  rw [DeclaredType.isKnown] at hknown
  refine ⟨?_, ?_, ?_⟩
  · intro hraw
    rw [hraw] at hknown
    exact DataType.not_mem_of_isKnown hknown hparen hc List.mem_cons_self
  · intro w hraw
    rw [hraw, List.cons_append]
    refine DataType.any_isPrefixOf_lower_cons hascii ?_ _
    rw [hlower]
    decide
  · intro p hp hraw
    rw [hraw] at hknown
    have hopen : '(' ∉ lower (p ++ ' ' :: c :: r) := by
      intro hin
      have := mem_of_mem_lower (by decide) (by decide) hin
      simp [hp, hparen] at this
    refine DataType.not_mem_of_isKnown hknown hopen (Or.inl rfl) ?_
    rw [← hlower]
    exact toLower_mem_lower hascii (by simp)

/-- **`PRIMARY` and `KEY` are a declaration** when they end one token of an accepted column and
start the next one, if no parenthesis is in the two tokens. -/
theorem declaresKey_of_read {element : Text} {column : ColumnDefinition}
    (h : read element = .ok column) {before after : List Text} {p q : Text}
    (htokens : tokens element = before ++ p :: q :: after) (hp : "PRIMARY".toList <:+ upper p)
    (hq : "KEY".toList <+: upper q) (hpopen : '(' ∉ p) (hqopen : '(' ∉ q) :
    declaresKey (modifiers element) = true := by
  obtain ⟨-, -, -, -, -, -, -, hplaced⟩ := exists_of_read h
  obtain ⟨hone, hfirst, hsecond⟩ := not_type_word_of_read h hqopen hq
  -- as a modifier, the second token can only be the word itself after the first one
  have hmodifier : ∀ xs : List Text, modifiers element = xs ++ q :: after →
      (∀ x ∈ xs.getLast?, x = p) → declaresKey (modifiers element) = true := by
    intro xs hxs hlast
    rw [hxs] at hplaced
    have hq' := mayStand_of_firstMisplacedAfter? hplaced
    rw [Option.or_none] at hq'
    obtain ⟨x, hx, hprimary, hkey⟩ := exists_primary_of_mayStand hq' hqopen hq
      fun x hx => (hlast x hx) ▸ hp
    obtain ⟨ys, rfl⟩ := List.getLast?_eq_some_iff.mp hx
    rw [hxs, List.append_assoc]
    exact declaresKey_append hprimary hkey ys after
  have hlater : ∀ xs : List Text, modifiers element = xs ++ p :: q :: after →
      declaresKey (modifiers element) = true := by
    intro xs hxs
    refine hmodifier (xs ++ [p]) (by rw [hxs, List.append_assoc]; rfl) ?_
    intro x hx
    rw [List.getLast?_concat] at hx
    exact (Option.some.inj hx).symm
  rcases tokens_eq_of_read h with ⟨first, w, hall, hraw⟩ | ⟨first, w, w', hall, hraw, hopening⟩
  · rw [hall] at htokens
    match before, htokens with
    | [], htokens =>
      simp only [List.nil_append, List.cons.injEq] at htokens
      exact absurd (hraw.trans htokens.2.1) hone
    | [_], htokens =>
      simp only [List.cons_append, List.nil_append, List.cons.injEq] at htokens
      exact hmodifier [] htokens.2.2 (by simp)
    | _ :: _ :: before, htokens =>
      simp only [List.cons_append, List.cons.injEq] at htokens
      exact hlater before htokens.2.2
  · rw [hall] at htokens
    match before, htokens with
    | [], htokens =>
      simp only [List.nil_append, List.cons.injEq] at htokens
      obtain ⟨-, rfl, -⟩ := htokens
      exact absurd hopening (by rw [hfirst w' hraw]; simp)
    | [_], htokens =>
      simp only [List.cons_append, List.nil_append, List.cons.injEq] at htokens
      obtain ⟨-, rfl, rfl, -⟩ := htokens
      exact absurd hraw (hsecond w hpopen)
    | [_, _], htokens =>
      simp only [List.cons_append, List.nil_append, List.cons.injEq] at htokens
      exact hmodifier [] htokens.2.2.2 (by simp)
    | _ :: _ :: _ :: before, htokens =>
      simp only [List.cons_append, List.cons.injEq] at htokens
      exact hlater before htokens.2.2.2

end ColumnDefinition

end SchemaIntake
