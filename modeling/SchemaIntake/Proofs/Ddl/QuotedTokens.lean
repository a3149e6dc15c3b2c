import SchemaIntake.Proofs.Ddl.Cropping

/-!
# Tokens with a quote

No name, no type and no word among the modifiers has a single quote in it.  So a token with a quote
ends all that was read before: whether it may stand depends on what stands before it only, and the
modifiers after it are read as if they were the first ones.  What a column is found to be is
therefore settled before the quote, and what follows can but spoil it.

## Main results

* `mayStand_of_quote_mem` — when a token with a quote may stand.
* `firstMisplacedAfter?_append_of_quote` — **the modifiers after a quote are read on their own**.
* `ColumnDefinition.toOption_ofTokens_literal` — **a column with a literal for its default** is the
  column without the literal, or none.
* `ColumnDefinition.toOption_gist_open` — the same where the quote stands in a parenthesised part.
-/

namespace SchemaIntake

open Text

variable {token : Text}

/-! ### Modifiers -/

/-- **A token with a quote may stand** if it is an operand or stands behind a word that introduces
values. -/
theorem mayStand_of_quote_mem (h : '\x27' ∈ token) (before? after? : Option Text) :
    mayStand before? token after? =
      (isOperand token || before?.any fun before => valueIntroducers.contains (upper before)) := by
  have hupper : '\x27' ∈ upper token := mem_upper_of_mem (by decide) h
  have hwords : ∀ w ∈ "KEY".toList :: modifierWords, '\x27' ∉ w := by decide
  cases hoperand : isOperand token with
  | true => rw [mayStand_operand hoperand, Bool.true_or]
  | false =>
    rw [Bool.false_or]
    refine mayStand_value hoperand (fun hkey => ?_) (fun hmem => ?_) before? after?
    · exact hwords _ List.mem_cons_self (hkey ▸ hupper)
    · exact hwords _ (List.mem_cons_of_mem _ hmem) hupper

/-- A word that asks for none after it does not look at what stands there. -/
theorem mayStand_of_requiredAfter?_eq_none (h : requiredAfter? (upper token) = none)
    (before? after? : Option Text) :
    mayStand before? token after? = mayStand before? token none := by
  simp only [mayStand, h]

theorem requiredAfter?_of_quote_mem (h : '\x27' ∈ token) : requiredAfter? (upper token) = none := by
  have hupper : '\x27' ∈ upper token := mem_upper_of_mem (by decide) h
  have hne : ∀ w : Text, '\x27' ∉ w → upper token ≠ w := by
    rintro w hw rfl
    exact hw hupper
  rw [requiredAfter?, if_neg (hne _ (by decide)), if_neg (hne _ (by decide))]

/-- A token with a quote is none of the words that another one asks for before it. -/
theorem mayStand_some_of_quote_mem {before : Text} (h : '\x27' ∈ before) (token : Text)
    (after? : Option Text) : mayStand (some before) token after? = mayStand none token after? := by
  have hquote : Caseless fun c => decide (c = '\x27') := caseless_eq (by decide) (by decide)
  have hvalue : valueIntroducers.contains (upper before) = false :=
    contains_upper_eq_false (by decide) h (by decide)
  have hprimary : sameLetters before "PRIMARY".toList = false :=
    sameLetters_eq_false hquote h (by decide)
  cases hoperand : isOperand token with
  | true => rw [mayStand_operand hoperand, mayStand_operand hoperand]
  | false =>
    by_cases hkey : upper token = "KEY".toList
    · rw [mayStand_key hoperand hkey, mayStand_key hoperand hkey, Option.any_some, hprimary,
        Option.any_none]
    · rw [mayStand_of_not_isOperand hoperand, mayStand_of_not_isOperand hoperand, if_neg hkey,
        if_neg hkey, Option.any_some, hvalue, Option.any_none]

/-- No word finds what it asks for after it in a token with a quote. -/
theorem mayStand_congr_of_quote_mem {after after' : Text} (h : '\x27' ∈ after)
    (h' : '\x27' ∈ after') (before? : Option Text) (token : Text) :
    mayStand before? token (some after) = mayStand before? token (some after') := by
  have hquote : Caseless fun c => decide (c = '\x27') := caseless_eq (by decide) (by decide)
  cases hallowed : requiredAfter? (upper token) with
  | none => simp only [mayStand, hallowed]
  | some allowed =>
    have hnone {t : Text} (ht : '\x27' ∈ t) : allowed.any (sameLetters t ·) = false := by
      rw [List.any_eq_false]
      intro w hw
      simp [sameLetters_eq_false hquote ht (not_mem_of_requiredAfter? hallowed hw rfl)]
    simp only [mayStand, hallowed, Option.any_some, hnone h, hnone h']

theorem firstMisplacedAfter?_some_of_quote_mem {before : Text} (h : '\x27' ∈ before)
    (ts : List Text) : firstMisplacedAfter? (some before) ts = firstMisplacedAfter? none ts := by
  cases ts with
  | nil => rfl
  | cons token rest => rw [firstMisplacedAfter?, mayStand_some_of_quote_mem h, firstMisplacedAfter?]

/-- **The scan falls apart** behind a word that asks for none after it. -/
theorem firstMisplacedAfter?_append (h : requiredAfter? (upper token) = none)
    (before? : Option Text) (earlier rest : List Text) :
    firstMisplacedAfter? before? (earlier ++ token :: rest) =
      (firstMisplacedAfter? before? (earlier ++ [token])).or
        (firstMisplacedAfter? (some token) rest) := by
  induction earlier generalizing before? with
  | nil =>
    have hlast : mayStand before? token ([] : List Text).head? = mayStand before? token none := rfl
    rw [List.nil_append, List.nil_append, firstMisplacedAfter?,
      mayStand_of_requiredAfter?_eq_none h, firstMisplacedAfter?, hlast]
    split <;> rfl
  | cons x earlier ih =>
    have hhead : (earlier ++ token :: rest).head? = (earlier ++ [token]).head? := by
      cases earlier <;> rfl
    rw [List.cons_append, List.cons_append, firstMisplacedAfter?, firstMisplacedAfter?, hhead, ih]
    split <;> rfl

/-- **The modifiers after a quote are read on their own.** -/
theorem firstMisplacedAfter?_append_of_quote (h : '\x27' ∈ token) (before? : Option Text)
    (earlier rest : List Text) :
    firstMisplacedAfter? before? (earlier ++ token :: rest) =
      (firstMisplacedAfter? before? (earlier ++ [token])).or (firstMisplacedAfter? none rest) := by
  rw [firstMisplacedAfter?_append (requiredAfter?_of_quote_mem h),
    firstMisplacedAfter?_some_of_quote_mem h]

theorem isOperand_append {a : Text} (h : isOperand a = true) (b : Text) :
    isOperand (a ++ b) = true := by
  cases a with
  | nil => exact absurd h (by decide)
  | cons c a =>
    simp only [isOperand, List.cons_append, Bool.or_eq_true, decide_eq_true_eq, List.mem_cons,
      List.mem_append] at h ⊢
    tauto

/-- A token with a quote that ends the modifiers may go on in any way. -/
theorem firstMisplacedAfter?_concat_append (h : '\x27' ∈ token) (more : Text)
    {before? : Option Text} {earlier : List Text}
    (hplaced : firstMisplacedAfter? before? (earlier ++ [token]) = none) :
    firstMisplacedAfter? before? (earlier ++ [token ++ more]) = none := by
  have hmore : '\x27' ∈ token ++ more := List.mem_append_left more h
  induction earlier generalizing before? with
  | nil =>
    rw [List.nil_append, firstMisplacedAfter?, mayStand_of_quote_mem h] at hplaced
    rw [List.nil_append, firstMisplacedAfter?, mayStand_of_quote_mem hmore]
    split at hplaced
    · next hstands =>
      rw [if_pos]
      · rfl
      · rw [Bool.or_eq_true] at hstands ⊢
        exact hstands.imp_left fun hoperand => isOperand_append hoperand more
    · exact absurd hplaced (by simp)
  | cons x earlier ih =>
    -- the token before the one that grows only asks whether it has a quote
    have hnext : mayStand before? x (earlier ++ [token ++ more]).head? =
        mayStand before? x (earlier ++ [token]).head? := by
      cases earlier with
      | nil => exact mayStand_congr_of_quote_mem hmore h before? x
      | cons y earlier => rfl
    rw [List.cons_append, firstMisplacedAfter?] at hplaced ⊢
    rw [hnext]
    split at hplaced
    · next hstands =>
      rw [if_pos hstands]
      exact ih hplaced
    · exact absurd hplaced (by simp)

/-! ### Types -/

namespace DataType

/-- No known type starts with a quote. -/
theorem isKnown_of_quote (rest : Text) : isKnown ('\x27' :: rest) = false := by
  have hcatalog : ∀ entry ∈ catalog, '\x27' ∉ entry.1 := by decide +kernel
  rw [Bool.eq_false_iff]
  intro hknown
  refine not_mem_normalize_of_isKnown hknown hcatalog ?_
  -- cutting at a parenthesis keeps the quote, for it stands before it
  by_cases hopen : '(' ∈ '\x27' :: rest
  · obtain ⟨a, b, hsplit, ha⟩ := List.eq_append_cons_of_mem hopen
    cases a with
    | nil => exact absurd hsplit (by simp)
    | cons c a =>
      obtain ⟨rfl, -⟩ := List.cons.inj hsplit
      obtain ⟨l, hl⟩ := List.head?_eq_some_iff.mp (head?_lower_cons (c := '\x27') (by decide) a)
      rw [hsplit, normalize_append_open ha, hl]
      have htrim := trimEnd_append_cons (c := '\x27') (by decide) [] l
      have hstart : trim (('\x27').toLower :: l) = trimEnd ([] ++ '\x27' :: l) := rfl
      rw [hstart, htrim]
      exact List.mem_cons_self
  · have hlower : '\x27' ∈ lower ('\x27' :: rest) :=
      toLower_mem_lower (c := '\x27') (by decide) List.mem_cons_self
    rw [normalize_eq_of_not_mem hopen]
    exact mem_dropArraySuffix hlower (by decide) (by decide)

end DataType

namespace DeclaredType

/-- No type of two words starts with a quote. -/
theorem ofTwoWords?_of_quote (rest second : Text) : ofTwoWords? ('\x27' :: rest) second = none := by
  have hnone := DataType.any_isPrefixOf_lower_cons (c := '\x27') (by decide) (by decide)
    (rest ++ ' ' :: second)
  rw [ofTwoWords?, List.cons_append, hnone]
  rfl

/-- No type has two words if a parenthesis is opened before the first space. -/
theorem ofTwoWords?_of_open {a : Text} (hspace : ' ' ∉ a) (b second : Text) :
    ofTwoWords? (a ++ '(' :: b) second = none := by
  have hnone : DataType.twoWordOpenings.any
      (·.isPrefixOf (lower (a ++ '(' :: b ++ ' ' :: second))) = false := by
    have hopenings : ∀ o ∈ DataType.twoWordOpenings, '(' ∉ o ∧ ' ' ∈ o := by decide
    rw [List.any_eq_false]
    intro o ho hopening
    obtain ⟨hparen, hmem⟩ := hopenings o ho
    rw [List.append_assoc, List.cons_append, lower_append_open,
      List.isPrefixOf_iff_prefix] at hopening
    have hbefore := prefix_of_prefix_append_cons hparen hopening
    exact hspace (mem_of_mem_lower (by decide) (by decide) (hbefore.subset hmem))
  rw [ofTwoWords?, hnone]
  rfl

/-- The type is found in the first two tokens. -/
theorem exists_ofTokens?_append (ts : List Text) (h : 2 ≤ ts.length) :
    ∃ type, type.wordCount ≤ 2 ∧ ∀ rest, ofTokens? (ts ++ rest) = some type := by
  match ts, h with
  | first :: second :: more, _ =>
    cases htwo : ofTwoWords? first second with
    | none => exact ⟨⟨first, 1⟩, by simp, fun rest => by simp [ofTokens?, htwo]⟩
    | some type =>
      have hcount : type.wordCount = 2 := by
        rw [ofTwoWords?] at htwo
        split at htwo
        · rw [← Option.some.inj htwo]
        · exact absurd htwo (by simp)
      exact ⟨type, by omega, fun rest => by simp [ofTokens?, htwo]⟩

end DeclaredType

/-! ### Columns -/

namespace ColumnDefinition

/-- A column is accepted if its type is known, its name valid and no modifier misplaced. -/
theorem toOption_ofTokens {first : Text} {rest : List Text} {type : DeclaredType}
    (h : DeclaredType.ofTokens? rest = some type) : (ofTokens (first :: rest)).toOption =
      if type.isKnown = true ∧ Identifier.isValid (Identifier.unquote first) = true ∧
          firstMisplacedAfter? none (rest.drop type.wordCount) = none
      then some ⟨Identifier.unquote first, type⟩ else none := by
  rw [ofTokens, h]
  simp only [firstMisplaced?_eq]
  cases type.isKnown with
  | false => rfl
  | true =>
    cases Identifier.isValid (Identifier.unquote first) with
    | false => rfl
    | true =>
      cases firstMisplacedAfter? none (rest.drop type.wordCount) with
      | none => rfl
      | some token => rfl

theorem toOption_ofTokens_of_invalid {first : Text}
    (h : Identifier.isValid (Identifier.unquote first) = false) (rest : List Text) :
    (ofTokens (first :: rest)).toOption = none := by
  cases htype : DeclaredType.ofTokens? rest with
  | none =>
    rw [ofTokens, htype]
    rfl
  | some type => rw [toOption_ofTokens htype, if_neg (by simp [h])]

/-- What follows a token among the modifiers can but spoil the column. -/
theorem toOption_ofTokens_append (hafter : requiredAfter? (upper token) = none)
    {rest : List Text}
    (hrest : firstMisplacedAfter? (some token) rest = firstMisplacedAfter? none rest)
    {earlier : List Text} (hlength : 2 ≤ earlier.length) :
    (ofTokens (earlier ++ token :: rest)).toOption =
      if firstMisplacedAfter? none rest = none then (ofTokens (earlier ++ [token])).toOption
      else none := by
  match earlier, hlength with
  | first :: second :: more, _ =>
    obtain ⟨type, hcount, htype⟩ :=
      DeclaredType.exists_ofTokens?_append (second :: more ++ [token]) (by simp)
    have hlong : DeclaredType.ofTokens? (second :: more ++ token :: rest) = some type := by
      simpa using htype rest
    have hshort : DeclaredType.ofTokens? (second :: more ++ [token]) = some type := by
      simpa using htype []
    have hscan : firstMisplacedAfter? none ((second :: more ++ token :: rest).drop type.wordCount) =
        (firstMisplacedAfter? none ((second :: more ++ [token]).drop type.wordCount)).or
          (firstMisplacedAfter? none rest) := by
      by_cases hall : type.wordCount ≤ (second :: more).length
      · rw [List.drop_append_of_le_length hall, List.drop_append_of_le_length hall,
          firstMisplacedAfter?_append hafter, hrest]
      · -- the token is the second word of the type
        have hmore : more = [] := by
          rw [List.length_cons] at hall
          exact List.eq_nil_of_length_eq_zero (by omega)
        have htwo : type.wordCount = 2 := by
          rw [List.length_cons] at hall
          omega
        subst hmore
        rw [htwo]
        rfl
    have hcons (ts : List Text) :
        first :: second :: more ++ ts = first :: (second :: more ++ ts) := rfl
    rw [hcons, hcons, toOption_ofTokens hlong, toOption_ofTokens hshort, hscan]
    cases firstMisplacedAfter? none rest with
    | none => rw [if_pos rfl, Option.or_none]
    | some x => simp

/-- **What follows a token with a quote can but spoil the column.** -/
theorem toOption_ofTokens_append_of_quote (hquote : '\x27' ∈ token)
    (htype : ∀ second, DeclaredType.ofTwoWords? token second = none) (earlier rest : List Text) :
    (ofTokens (earlier ++ token :: rest)).toOption =
      if firstMisplacedAfter? none rest = none then (ofTokens (earlier ++ [token])).toOption
      else none := by
  match earlier with
  | [] =>
    -- no name has a quote
    have hinvalid : Identifier.isValid (Identifier.unquote token) = false :=
      Identifier.isValid_unquote_eq_false hquote (by decide) (by decide)
    rw [List.nil_append, toOption_ofTokens_of_invalid hinvalid, List.nil_append,
      toOption_ofTokens_of_invalid hinvalid, ite_self]
  | [first] =>
    have hone (rest : List Text) : DeclaredType.ofTokens? (token :: rest) = some ⟨token, 1⟩ := by
      cases rest with
      | nil => rfl
      | cons second rest => rw [DeclaredType.ofTokens?, htype, Option.none_or]
    rw [List.singleton_append, List.singleton_append, toOption_ofTokens (hone rest),
      toOption_ofTokens (hone [])]
    cases hrest : firstMisplacedAfter? none rest with
    | none => simp [hrest, firstMisplacedAfter?]
    | some x => simp [hrest]
  | first :: second :: more =>
    exact toOption_ofTokens_append (requiredAfter?_of_quote_mem hquote)
      (firstMisplacedAfter?_some_of_quote_mem hquote rest) (by simp)

/-- A literal after `DEFAULT` makes no difference to the column. -/
theorem toOption_ofTokens_default (earlier : List Text) (content : Text) :
    (ofTokens (earlier ++ ["DEFAULT".toList, '\x27' :: content])).toOption =
      (ofTokens (earlier ++ ["DEFAULT".toList])).toOption := by
  match earlier with
  -- a quote is no type, and neither is the keyword
  | [] =>
    have hunknown : DeclaredType.isKnown ⟨'\x27' :: content, 1⟩ = false :=
      DataType.isKnown_of_quote content
    have htype : DeclaredType.ofTokens? ['\x27' :: content] = some ⟨'\x27' :: content, 1⟩ := rfl
    rw [List.nil_append, toOption_ofTokens htype, if_neg (by simp [hunknown])]
    rfl
  | [first] =>
    have hunknown : DeclaredType.isKnown ⟨"DEFAULT".toList, 1⟩ = false := by decide +kernel
    have hone : DeclaredType.ofTwoWords? "DEFAULT".toList ('\x27' :: content) = none := rfl
    have htype : DeclaredType.ofTokens? ["DEFAULT".toList, '\x27' :: content] =
        some ⟨"DEFAULT".toList, 1⟩ := by
      rw [DeclaredType.ofTokens?, hone, Option.none_or]
    have hword : DeclaredType.ofTokens? ["DEFAULT".toList] = some ⟨"DEFAULT".toList, 1⟩ := rfl
    rw [List.singleton_append, List.singleton_append, toOption_ofTokens htype,
      if_neg (by rw [hunknown]; simp), toOption_ofTokens hword, if_neg (by rw [hunknown]; simp)]
  | first :: second :: more =>
    have hliteral (before? : Option Text) :
        firstMisplacedAfter? before? ['\x27' :: content] = none := by
      simp [firstMisplacedAfter?, mayStand, isOperand]
    rw [toOption_ofTokens_append (by decide) (by rw [hliteral, hliteral]) (by simp),
      if_pos (hliteral none)]

/-- **A column with a literal for its default** is the column without the literal, if all that
follows may stand, and none otherwise. -/
theorem toOption_ofTokens_literal (earlier : List Text) (content : Text) (rest : List Text) :
    (ofTokens (earlier ++ "DEFAULT".toList :: ('\x27' :: content) :: rest)).toOption =
      if firstMisplacedAfter? none rest = none then
        (ofTokens (earlier ++ ["DEFAULT".toList])).toOption
      else none := by
  have hsplit (ts : List Text) : earlier ++ "DEFAULT".toList :: ('\x27' :: content) :: ts =
      (earlier ++ ["DEFAULT".toList]) ++ ('\x27' :: content) :: ts := by simp
  rw [hsplit, toOption_ofTokens_append_of_quote List.mem_cons_self
    (DeclaredType.ofTwoWords?_of_quote content), ← hsplit, toOption_ofTokens_default]

theorem toOption_gist (result : Except ColumnFault ColumnDefinition) :
    (gist result).toOption =
      result.toOption.map fun column => (column.name, column.type.baseName) := by
  cases result <;> rfl

/-- **The same in a parenthesised part** that no space stands before. -/
theorem toOption_gist_open {a : Text} (hspace : ' ' ∉ a) (b : Text) {more : Text}
    (hquote : '\x27' ∈ more) (earlier rest : List Text) :
    (gist (ofTokens (earlier ++ (a ++ '(' :: b ++ more) :: rest))).toOption =
      if firstMisplacedAfter? none rest = none then
        (gist (ofTokens (earlier ++ [a ++ '(' :: b]))).toOption
      else none := by
  have hcropped : (earlier ++ [a ++ '(' :: b ++ more]).map cropped =
      (earlier ++ [a ++ '(' :: b]).map cropped := by
    rw [List.map_append, List.map_append, List.map_singleton, List.map_singleton,
      cropped_append (List.mem_append_right a List.mem_cons_self)]
  have htype (second : Text) : DeclaredType.ofTwoWords? (a ++ '(' :: b ++ more) second = none := by
    rw [List.append_assoc, List.cons_append]
    exact DeclaredType.ofTwoWords?_of_open hspace (b ++ more) second
  rw [toOption_gist, toOption_ofTokens_append_of_quote (List.mem_append_right _ hquote) htype,
    ← gist_cropped (earlier ++ [a ++ '(' :: b]), ← hcropped, gist_cropped, toOption_gist]
  split <;> rfl

end ColumnDefinition

end SchemaIntake
