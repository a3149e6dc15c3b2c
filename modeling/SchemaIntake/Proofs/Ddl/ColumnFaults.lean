import SchemaIntake.Proofs.Ddl.Modifiers
import SchemaIntake.Schema.Check

/-!
# Why a column is rejected

Reading a column stops at the first thing that is wrong with it and says what that is.  Beside the
reader stand its rules, one for each outcome, and a second look that classifies rejected tokens
without knowing what the reader stopped at.  The reader follows the rules, and the fault that it
gives is reported just as the second look would have it.

## Main definitions

* `ColumnDefinition.IsReadAs` — the rules of reading a column.
* `ColumnDefinition.rejectionOf` — the second look at rejected tokens: a code and a column.

## Main results

* `ColumnDefinition.read_eq_iff` — **the reader follows the rules.**
* `ColumnDefinition.IsReadAs.rejection_eq` — a fault tells what the second look finds.
* `ColumnDefinition.read_classified` — **which elements are accepted, and how the others are
  classified.**
-/

namespace SchemaIntake

namespace ColumnDefinition

variable {ts rest : List Text} {first : Text} {type : DeclaredType}

/-- The rules of reading a column from its tokens.  An unknown type is told before an invalid name,
and that before a misplaced modifier. -/
inductive IsReadAs : List Text → Except ColumnFault ColumnDefinition → Prop
  /-- A name alone, or nothing at all. -/
  | incomplete {ts : List Text} (hshort : ts.length < 2) : IsReadAs ts (.error .incomplete)
  /-- The type is not in the catalog. -/
  | unknownType {first : Text} {rest : List Text} {type : DeclaredType}
      (htype : DeclaredType.ofTokens? rest = some type) (hunknown : type.isKnown = false) :
      IsReadAs (first :: rest) (.error (.unknownType (Identifier.unquote first) type.raw))
  /-- The type is known, but the name is not valid. -/
  | invalidName {first : Text} {rest : List Text} {type : DeclaredType}
      (htype : DeclaredType.ofTokens? rest = some type) (hknown : type.isKnown = true)
      (hinvalid : Identifier.isValid (Identifier.unquote first) = false) :
      IsReadAs (first :: rest) (.error (.invalidName (Identifier.unquote first)))
  /-- Name and type are fine, but a modifier breaks the rule of its position, and none before it
  does. -/
  | misplacedToken {first token : Text} {rest : List Text} {type : DeclaredType} {i : Nat}
      (htype : DeclaredType.ofTokens? rest = some type) (hknown : type.isKnown = true)
      (hvalid : Identifier.isValid (Identifier.unquote first) = true)
      (htoken : (rest.drop type.wordCount)[i]? = some token)
      (hbreaks : IsMisplacedAt none (rest.drop type.wordCount) i)
      (hearlier : ∀ j < i, ¬ IsMisplacedAt none (rest.drop type.wordCount) j) :
      IsReadAs (first :: rest) (.error (.misplacedToken (Identifier.unquote first) token))
  /-- Name and type are fine, and so are all modifiers. -/
  | accepted {first : Text} {rest : List Text} {type : DeclaredType}
      (htype : DeclaredType.ofTokens? rest = some type) (hknown : type.isKnown = true)
      (hvalid : Identifier.isValid (Identifier.unquote first) = true)
      (hplaced : ∀ i, ¬ IsMisplacedAt none (rest.drop type.wordCount) i) :
      IsReadAs (first :: rest) (.ok ⟨Identifier.unquote first, type⟩)

/-- Only no tokens at all have no type. -/
theorem ofTokens?_eq_none_iff : DeclaredType.ofTokens? rest = none ↔ rest = [] := by
  match rest with
  | [] => exact iff_of_true rfl rfl
  | [first] => simp [DeclaredType.ofTokens?]
  | first :: second :: rest => simp [DeclaredType.ofTokens?]

/-- What follows the name is counted from there on. -/
theorem drop_one_add (first : Text) (rest : List Text) (n : Nat) :
    (first :: rest).drop (1 + n) = rest.drop n := by
  rw [Nat.add_comm, List.drop_succ_cons]

/-- The modifiers are scanned from the end of the type on. -/
theorem firstMisplaced?_eq : firstMisplaced? (first :: rest) (1 + type.wordCount) =
    firstMisplacedAfter? none (rest.drop type.wordCount) := by
  rw [firstMisplaced?, drop_one_add]

/-- Every list of tokens is read by the rules. -/
theorem isReadAs_ofTokens (ts : List Text) : IsReadAs ts (ofTokens ts) := by
  cases ts with
  | nil => exact .incomplete Nat.zero_lt_two
  -- the reader asks the questions in the order of the rules
  | cons first rest =>
    rw [ofTokens]
    split
    · next htype =>
      rw [ofTokens?_eq_none_iff] at htype
      subst htype
      exact .incomplete Nat.one_lt_two
    · next type htype =>
      split
      · next hunknown => exact .unknownType htype (by simpa using hunknown)
      · next hknown =>
        rw [Bool.not_eq_true', Bool.not_eq_false] at hknown
        split
        · next hinvalid => exact .invalidName htype hknown (by simpa using hinvalid)
        · next hvalid =>
          rw [Bool.not_eq_true', Bool.not_eq_false] at hvalid
          rw [firstMisplaced?_eq]
          split
          · next token hmisplaced =>
            obtain ⟨i, htoken, hbreaks, hearlier⟩ := firstMisplacedAfter?_eq_some_iff.mp hmisplaced
            exact .misplacedToken htype hknown hvalid htoken hbreaks hearlier
          · next hplaced =>
            exact .accepted htype hknown hvalid (firstMisplacedAfter?_eq_none_iff.mp hplaced)

/-- The rules leave no choice. -/
theorem IsReadAs.ofTokens_eq {result : Except ColumnFault ColumnDefinition}
    (h : IsReadAs ts result) : ofTokens ts = result := by
  cases h with
  | incomplete hshort =>
    match ts, hshort with
    | [], _ => rfl
    | [first], _ => rfl
  | unknownType htype hunknown =>
    rw [ofTokens, htype]
    simp only [hunknown, Bool.not_false, if_true]
  | invalidName htype hknown hinvalid =>
    rw [ofTokens, htype]
    simp only [hknown, hinvalid, Bool.not_true, Bool.not_false, Bool.false_eq_true, if_false,
      if_true]
  | misplacedToken htype hknown hvalid htoken hbreaks hearlier =>
    have hmisplaced := firstMisplacedAfter?_eq_some_iff.mpr ⟨_, htoken, hbreaks, hearlier⟩
    rw [ofTokens, htype]
    simp only [hknown, hvalid, firstMisplaced?_eq, hmisplaced, Bool.not_true, Bool.false_eq_true,
      if_false]
  | accepted htype hknown hvalid hplaced =>
    have hnone := firstMisplacedAfter?_eq_none_iff.mpr hplaced
    rw [ofTokens, htype]
    simp only [hknown, hvalid, firstMisplaced?_eq, hnone, Bool.not_true, Bool.false_eq_true,
      if_false]

/-- **The reader follows the rules.** -/
theorem read_eq_iff {element : Text} {result : Except ColumnFault ColumnDefinition} :
    read element = result ↔ IsReadAs (tokens element) result := by
  constructor
  · rintro rfl
    exact isReadAs_ofTokens (tokens element)
  · exact IsReadAs.ofTokens_eq

/-! ### The second look -/

/-- How rejected tokens are classified when they are looked at once more: by how many there are and
by their type alone.  The code of the error, and the column it is put down to. -/
def rejectionOf (ts : List Text) : Code × Option Text :=
  if ts.length < 2 then (.invalidSqlSyntax, none)
  else if (DeclaredType.ofTokens? ts.tail).any (·.isKnown) then
    (.invalidColumnName, ts.head?.map Identifier.unquote)
  else (.invalidDataType, ts.head?.map Identifier.unquote)

/-- Where there is a type there is a token for it. -/
theorem not_length_lt_two (htype : DeclaredType.ofTokens? rest = some type) :
    ¬ (first :: rest).length < 2 := by
  cases rest with
  | nil => exact absurd htype (by simp [DeclaredType.ofTokens?])
  | cons second rest => simp

/-- **A fault tells what the second look finds.** -/
theorem IsReadAs.rejection_eq {fault : ColumnFault} (h : IsReadAs ts (.error fault)) :
    (TableDraft.faultCode fault, fault.column?) = rejectionOf ts := by
  cases h with
  | incomplete hshort => rw [rejectionOf, if_pos hshort]; rfl
  | unknownType htype hunknown =>
    rw [rejectionOf, if_neg (not_length_lt_two htype), List.tail_cons, htype, if_neg]
    · rfl
    · simp [hunknown]
  | invalidName htype hknown hinvalid =>
    rw [rejectionOf, if_neg (not_length_lt_two htype), List.tail_cons, htype, if_pos]
    · rfl
    · simp [hknown]
  | misplacedToken htype hknown hvalid htoken hbreaks hearlier =>
    rw [rejectionOf, if_neg (not_length_lt_two htype), List.tail_cons, htype, if_pos]
    · rfl
    · simp [hknown]

/-! ### The outcomes one by one -/

/-- When a column is accepted. -/
theorem isReadAs_ok_iff {column : ColumnDefinition} : IsReadAs ts (.ok column) ↔
    2 ≤ ts.length ∧ DeclaredType.ofTokens? ts.tail = some column.type ∧
      column.type.isKnown = true ∧ ts.head?.map Identifier.unquote = some column.name ∧
      Identifier.isValid column.name = true ∧
      firstMisplaced? ts (1 + column.type.wordCount) = none := by
  constructor
  · intro h
    cases h with
    | accepted htype hknown hvalid hplaced =>
      refine ⟨Nat.not_lt.mp (not_length_lt_two htype), htype, hknown, rfl, hvalid, ?_⟩
      rw [firstMisplaced?_eq]
      exact firstMisplacedAfter?_eq_none_iff.mpr hplaced
  · rintro ⟨-, htype, hknown, hname, hvalid, hplaced⟩
    cases ts with
    | nil => exact absurd hname (by simp)
    | cons first rest =>
      obtain ⟨name, type⟩ := column
      obtain rfl := Option.some.inj hname
      rw [firstMisplaced?_eq] at hplaced
      exact .accepted htype hknown hvalid (firstMisplacedAfter?_eq_none_iff.mp hplaced)

/-- When a modifier is told to be misplaced. -/
theorem isReadAs_misplacedToken_iff {name token : Text} :
    IsReadAs ts (.error (.misplacedToken name token)) ↔
      ∃ type, DeclaredType.ofTokens? ts.tail = some type ∧ type.isKnown = true ∧
        ts.head?.map Identifier.unquote = some name ∧ Identifier.isValid name = true ∧
        ∃ i, (ts.drop (1 + type.wordCount))[i]? = some token ∧
          IsMisplacedAt none (ts.drop (1 + type.wordCount)) i ∧
          ∀ j < i, ¬ IsMisplacedAt none (ts.drop (1 + type.wordCount)) j := by
  constructor
  · intro h
    cases h with
    | @misplacedToken first token rest type i htype hknown hvalid htoken hbreaks hearlier =>
      refine ⟨type, htype, hknown, rfl, hvalid, i, ?_⟩
      rw [drop_one_add]
      exact ⟨htoken, hbreaks, hearlier⟩
  · rintro ⟨type, htype, hknown, hname, hvalid, i, hbreaks⟩
    cases ts with
    | nil => exact absurd hname (by simp)
    | cons first rest =>
      rw [drop_one_add] at hbreaks
      obtain ⟨htoken, hbreaks, hearlier⟩ := hbreaks
      obtain rfl := Option.some.inj hname
      exact .misplacedToken htype hknown hvalid htoken hbreaks hearlier

/-- **Which elements are accepted, and how the others are classified.**  An element is accepted
exactly if it has at least two tokens, its type is in the catalog, its name is valid and the scan
over its modifiers finds nothing; the column has that name and that type.  Every other element is
rejected with the code and the column of the second look.  A misplaced modifier is told exactly
where type and name are fine, and it is the first one, in order, that breaks the rule of its
position. -/
theorem read_classified (element : Text) :
    let ts := tokens element
    (∀ column, read element = .ok column ↔
      2 ≤ ts.length ∧ DeclaredType.ofTokens? ts.tail = some column.type ∧
        column.type.isKnown = true ∧ ts.head?.map Identifier.unquote = some column.name ∧
        Identifier.isValid column.name = true ∧
        firstMisplaced? ts (1 + column.type.wordCount) = none) ∧
    (∀ fault, read element = .error fault →
      (TableDraft.faultCode fault, fault.column?) = rejectionOf ts) ∧
    ∀ name token, read element = .error (.misplacedToken name token) ↔
      ∃ type, DeclaredType.ofTokens? ts.tail = some type ∧ type.isKnown = true ∧
        ts.head?.map Identifier.unquote = some name ∧ Identifier.isValid name = true ∧
        ∃ i, (ts.drop (1 + type.wordCount))[i]? = some token ∧
          IsMisplacedAt none (ts.drop (1 + type.wordCount)) i ∧
          ∀ j < i, ¬ IsMisplacedAt none (ts.drop (1 + type.wordCount)) j := by
  refine ⟨fun column => ?_, fun fault h => ?_, fun name token => ?_⟩
  · exact read_eq_iff.trans isReadAs_ok_iff
  · exact (read_eq_iff.mp h).rejection_eq
  · exact read_eq_iff.trans isReadAs_misplacedToken_iff

end ColumnDefinition

end SchemaIntake
