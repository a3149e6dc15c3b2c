import SchemaIntake.Ddl.ColumnDefinition
import SchemaIntake.Ddl.Statement
import SchemaIntake.Ddl.TableConstraint
import SchemaIntake.Proofs.Text.LetterCase

/-!
# Reading definitions without regard to letter case

Keywords, types and modifiers are told apart in one case or the other, and everything else that
structures a definition is no letter.  So each reader commutes with putting the case of ASCII
letters aside: what it finds in a text is, up to the case of letters, what it finds in any other
spelling of it.

## Main definitions

* `Header.uncased`, `ColumnDefinition.uncased`, `ColumnFault.uncased`, `ConstraintFault.uncased` —
  what is read, with the case of letters put aside.

## Main results

* `Header.find?_uncased`, `Statement.all_uncased`, `Statement.body_uncased` — statements and their
  headers.
* `elements_uncased`, `tokens_uncased` — elements and tokens.
* `ColumnDefinition.read_uncased`, `TableConstraint.check_uncased` — **columns and constraints**.
-/

namespace SchemaIntake

open Text

/-! ### Punctuation -/

theorem caseless_semicolon : Caseless fun c => decide (c = ';') :=
  caseless_eq (by decide) (by decide)

theorem caseless_open : Caseless fun c => decide (c = '(') := caseless_eq (by decide) (by decide)

theorem caseless_close : Caseless fun c => decide (c = ')') := caseless_eq (by decide) (by decide)

/-! ### Readers of headers -/

namespace Header

/-- A reader that finds the same in every spelling of a text. -/
def MindsNoCase (read : Text → Option Text) : Prop :=
  ∀ t, read (uncased t) = (read t).map uncased

theorem MindsNoCase.bind {read next : Text → Option Text} (hread : MindsNoCase read)
    (hnext : MindsNoCase next) : MindsNoCase fun t => (read t).bind next := by
  intro t
  change (read (uncased t)).bind next = ((read t).bind next).map uncased
  rw [hread]
  cases read t with
  | none => rfl
  | some rest => exact hnext rest

/-- A capital letter is folded to from both of its cases. -/
theorem caseless_folds {letter : Char} (h : letter.isUpper = true) : Caseless (folds letter) := by
  have hbounds : 0x41 ≤ letter.toNat ∧ letter.toNat ≤ 0x5a := of_decide_eq_true h
  have hall : ∀ n < 26, ∀ k < 26, folds (Char.ofNat (0x41 + n)) (Char.ofNat (0x61 + k)) =
      folds (Char.ofNat (0x41 + n)) (Char.ofNat (0x41 + k)) := by
    decide +kernel
  obtain ⟨n, hn⟩ := Nat.exists_eq_add_of_le hbounds.1
  have hletter : letter = Char.ofNat (0x41 + n) := by rw [← hn, Char.ofNat_toNat]
  rw [hletter]
  exact caseless_of_letters (hall n (by omega))

/-- A keyword is read in any case. -/
theorem mindsNoCase_keyword? {word : Text} (h : word.all Char.isUpper = true) :
    MindsNoCase (keyword? word) := by
  intro t
  induction word generalizing t with
  | nil => rfl
  | cons letter word ih =>
    rw [List.all_cons, Bool.and_eq_true] at h
    cases t with
    | nil => rfl
    | cons c t =>
      rw [uncased_cons, keyword?, keyword?, caseless_folds h.1]
      split
      · exact ih h.2 t
      · rfl

theorem mindsNoCase_blanks? : MindsNoCase blanks? := by
  intro t
  cases t with
  | nil => rfl
  | cons c t =>
    rw [uncased_cons, blanks?, blanks?, caseless_isBlank c, dropWhile_uncased caseless_isBlank]
    split <;> rfl

theorem mindsNoCase_opening? : MindsNoCase opening? :=
  (mindsNoCase_keyword? (by decide)).bind <| mindsNoCase_blanks?.bind <|
    (mindsNoCase_keyword? (by decide)).bind mindsNoCase_blanks?

theorem mindsNoCase_ifNotExists? : MindsNoCase ifNotExists? :=
  (mindsNoCase_keyword? (by decide)).bind <| mindsNoCase_blanks?.bind <|
    (mindsNoCase_keyword? (by decide)).bind <| mindsNoCase_blanks?.bind <|
      (mindsNoCase_keyword? (by decide)).bind mindsNoCase_blanks?

/-- A word of a header with the case of its letters put aside. -/
def Word.uncased (w : Word) : Word := { w with name := Text.uncased w.name }

theorem caseless_isNameChar : Caseless isNameChar := caseless_of_letters (by decide)

theorem quote_uncased (t : Text) :
    quote (Text.uncased t) = ((quote t).1, Text.uncased (quote t).2) := by
  have hquote : Caseless fun c => decide (c = '"') := caseless_eq (by decide) (by decide)
  cases t with
  | nil => rfl
  | cons c t =>
    by_cases hc : c = '"'
    · subst hc
      rfl
    · have hlower : c.toLower ≠ '"' := mt (toLower_eq_iff hquote c).mp hc
      rw [uncased_cons]
      simp [quote, hc, hlower]

theorem word?_uncased (t : Text) : word? (Text.uncased t) =
    (word? t).map fun r => (r.1.uncased, Text.uncased r.2) := by
  simp only [word?, quote_uncased, takeWhile_uncased caseless_isNameChar,
    dropWhile_uncased caseless_isNameChar, isEmpty_uncased]
  split <;> rfl

end Header

/-- A header with the case of its letters put aside. -/
def Header.uncased (h : Header) : Header :=
  ⟨h.schema.map Header.Word.uncased, h.table.uncased, Text.uncased h.rest⟩

namespace Header

theorem close?_uncased (schema : Option Word) (table : Word) (t : Text) :
    close? (schema.map Word.uncased) table.uncased (Text.uncased t) =
      (close? schema table t).map uncased := by
  rw [close?, close?, dropWhile_uncased caseless_isBlank]
  cases t.dropWhile isBlank with
  | nil => rfl
  | cons c rest =>
    by_cases hc : c = '('
    · subst hc
      rfl
    · have hlower : c.toLower ≠ '(' := mt (toLower_eq_iff caseless_open c).mp hc
      simp [hc, hlower]

/-- **A header is read in any spelling.** -/
theorem read?_uncased (t : Text) : read? (Text.uncased t) = (read? t).map uncased := by
  have hdot : Caseless fun c => decide (c = '.') := caseless_eq (by decide) (by decide)
  rw [read?, read?, mindsNoCase_opening?]
  cases opening? t with
  | none => rfl
  | some t =>
    have hname : (ifNotExists? (Text.uncased t)).getD (Text.uncased t) =
        Text.uncased ((ifNotExists? t).getD t) := by
      rw [mindsNoCase_ifNotExists?]
      cases ifNotExists? t <;> rfl
    simp only [Option.map_some, Option.bind_eq_bind, Option.bind_some, hname, word?_uncased]
    cases word? ((ifNotExists? t).getD t) with
    | none => rfl
    | some r =>
      obtain ⟨first, rest⟩ := r
      simp only [Option.map_some, Option.bind_some]
      cases rest with
      | nil => exact close?_uncased none first []
      | cons c rest =>
        by_cases hc : c = '.'
        · subst hc
          change ((word? (Text.uncased rest)).bind fun r => close? (some first.uncased) r.1 r.2) =
            ((word? rest).bind fun r => close? (some first) r.1 r.2).map uncased
          rw [word?_uncased]
          cases word? rest with
          | none => rfl
          | some r => exact close?_uncased (some first) r.1 r.2
        · have hlower : c.toLower ≠ '.' := mt (toLower_eq_iff hdot c).mp hc
          simpa [hc, hlower] using close?_uncased none first (c :: rest)

theorem find?_uncased (t : Text) : find? (Text.uncased t) = (find? t).map uncased := by
  induction t with
  | nil => rfl
  | cons c t ih =>
    have hread := read?_uncased (c :: t)
    rw [uncased_cons] at hread ⊢
    rw [find?, find?, hread, ih]
    cases read? (c :: t) <;> rfl

end Header

/-! ### Statements -/

namespace Statement

theorem opens_uncased (t : Text) : opens (uncased t) = opens t := by
  rw [opens, Header.mindsNoCase_opening?, Option.isSome_map, opens]

theorem tableName?_uncased (s : Text) : tableName? (uncased s) = (tableName? s).map uncased := by
  rw [tableName?, Header.find?_uncased, Option.map_map, tableName?, Option.map_map]
  rfl

/-- **The statements of a text are found in any spelling.** -/
theorem all_uncased (sql : Text) : all (uncased sql) = (all sql).map uncased := by
  fun_induction all sql with
  | case1 => rw [uncased_nil, all, List.map_nil]
  | case2 c rest hopens statement after hthrough ih =>
    have hlower := throughFirst?_uncased caseless_semicolon (c :: rest)
    rw [hthrough, Option.map_some, uncased_cons] at hlower
    rw [uncased_cons, all, if_pos (by rw [← uncased_cons, opens_uncased, hopens])]
    split
    · next statement' after' hsome =>
      obtain ⟨rfl, rfl⟩ := Prod.mk.inj (Option.some.inj (hsome.symm.trans hlower))
      rw [ih, List.map_cons]
    · next hnone => exact absurd (hnone.symm.trans hlower) (by simp)
  | case3 c rest hopens hthrough =>
    have hlower := throughFirst?_uncased caseless_semicolon (c :: rest)
    rw [hthrough, Option.map_none, uncased_cons] at hlower
    rw [uncased_cons, all, if_pos (by rw [← uncased_cons, opens_uncased, hopens])]
    split
    · next hsome => exact absurd (hsome.symm.trans hlower) (by simp)
    · rfl
  | case4 c rest hopens ih =>
    rw [uncased_cons, all, if_neg (by rw [← uncased_cons, opens_uncased]; exact hopens), ih]

theorem body_uncased (s : Text) : body (uncased s) = uncased (body s) := by
  rw [body, afterFirst?_uncased caseless_open, body]
  cases afterFirst? '(' s with
  | none => rfl
  | some rest =>
    rw [Option.map_some, Option.bind_some, Option.bind_some, beforeLast?_uncased caseless_close]
    cases beforeLast? ')' rest with
    | none => rfl
    | some inner => exact trim_uncased inner

theorem hasTrailingText_uncased (s : Text) : hasTrailingText (uncased s) = hasTrailingText s := by
  rw [hasTrailingText, afterLast?_uncased caseless_close, hasTrailingText]
  cases afterLast? ')' s with
  | none => rfl
  | some after =>
    have hsemicolon : uncased (trim after) = [';'] ↔ trim after = [';'] := by
      cases trim after with
      | nil => simp
      | cons c rest =>
        cases rest with
        | nil => simpa using toLower_eq_iff caseless_semicolon c
        | cons d rest => simp
    simp only [Option.map_some, trim_uncased, isEmpty_uncased]
    rw [Bool.eq_iff_iff]
    simp [hsemicolon]

end Statement

/-! ### Elements and tokens -/

theorem caseless_parenStep : Caseless parenStep := caseless_of_letters (by decide)

theorem Nesting.caseless_next (n : Nesting) : Caseless n.next := by
  intro c
  have hquote : Caseless fun c => decide (c = '\x27') := caseless_eq (by decide) (by decide)
  have hbackslash : Caseless fun c => decide (c = '\\') := caseless_eq (by decide) (by decide)
  rw [next, next, caseless_parenStep c]
  simp only [toLower_eq_iff hquote, toLower_eq_iff hbackslash]

theorem Nesting.caseless_isDelimiter (n : Nesting) : Caseless n.isDelimiter := by
  intro c
  have hcomma : (c.toLower == ',') = (c == ',') :=
    caseless_of_letters (f := fun c => c == ',') (by decide) c
  rw [isDelimiter, isDelimiter, hcomma]

theorem dropBlankLast_map_uncased (ps : List Text) :
    dropBlankLast (ps.map uncased) = (dropBlankLast ps).map uncased := by
  match ps with
  | [] => rfl
  | [p] =>
    rw [List.map_cons, List.map_nil, dropBlankLast, isAllBlank_uncased, dropBlankLast]
    split <;> rfl
  | p :: q :: ps =>
    have ih := dropBlankLast_map_uncased (q :: ps)
    rw [List.map_cons] at ih
    rw [List.map_cons, List.map_cons, dropBlankLast, ih, dropBlankLast, List.map_cons]

theorem elements_uncased (body : Text) : elements (uncased body) = (elements body).map uncased := by
  rw [elements, elementPieces, cutWhere_uncased Nesting.caseless_next Nesting.caseless_isDelimiter,
    dropBlankLast_map_uncased, elements, elementPieces]

theorem tokens_uncased (element : Text) :
    tokens (uncased element) = (tokens element).map uncased := by
  have hnext : ∀ depth : Int, Caseless fun c => depth + parenStep c :=
    fun depth c => congrArg (depth + ·) (caseless_parenStep c)
  have hseparator : Caseless isSeparator := caseless_of_letters (by decide)
  have hcut : ∀ depth : Int, Caseless (endsToken depth) := by
    intro depth c
    rw [endsToken, endsToken, hseparator c]
  rw [tokens, trim_uncased, cutWhere_uncased hnext hcut, filter_map_uncased, tokens]

/-! ### Names and types -/

theorem Identifier.unquote_uncased (name : Text) :
    unquote (uncased name) = uncased (unquote name) := by
  have hquote : Caseless (· == '"') := caseless_of_letters (by decide)
  rw [unquote, dropWhile_uncased hquote, reverse_uncased, dropWhile_uncased hquote,
    reverse_uncased, unquote]

theorem Identifier.isValid_uncased (name : Text) : isValid (uncased name) = isValid name := by
  have hstart : Caseless isStart := caseless_of_letters (by decide)
  have hcontinuation : Caseless isContinuation := caseless_of_letters (by decide)
  cases name with
  | nil => rfl
  | cons c rest =>
    rw [uncased_cons, isValid, isValid, length_uncased, hstart c, all_uncased hcontinuation]

/-- A type is looked up in lower case. -/
theorem DataType.normalize_uncased (written : Text) :
    normalize (uncased written) = normalize written := by
  rw [normalize, lower_uncased, normalize]

/-- A declared type with the case of its letters put aside. -/
def DeclaredType.uncased (type : DeclaredType) : DeclaredType :=
  { type with raw := Text.uncased type.raw }

namespace DeclaredType

theorem baseName_uncased (type : DeclaredType) : type.uncased.baseName = type.baseName :=
  DataType.normalize_uncased type.raw

theorem isKnown_uncased (type : DeclaredType) : type.uncased.isKnown = type.isKnown := by
  have hwritten : DataType.isKnown (Text.uncased type.raw) = DataType.isKnown type.raw := by
    rw [DataType.isKnown, isEmpty_uncased, DataType.category?, DataType.normalize_uncased,
      DataType.isKnown, DataType.category?]
  exact hwritten

theorem ofTwoWords?_uncased (first second : Text) :
    ofTwoWords? (Text.uncased first) (Text.uncased second) =
      (ofTwoWords? first second).map uncased := by
  have hjoined : lower (Text.uncased first ++ ' ' :: Text.uncased second) =
      lower (first ++ ' ' :: second) := by
    rw [← lower_uncased (first ++ ' ' :: second), uncased_append, uncased_cons]
    rfl
  rw [ofTwoWords?, hjoined, ofTwoWords?]
  split
  · rw [Option.map_some, uncased, uncased_lower]
  · rfl

theorem ofTokens?_uncased (ts : List Text) :
    ofTokens? (ts.map Text.uncased) = (ofTokens? ts).map uncased := by
  match ts with
  | [] => rfl
  | [first] => rfl
  | first :: second :: rest =>
    rw [List.map_cons, List.map_cons, ofTokens?, ofTwoWords?_uncased, ofTokens?]
    cases ofTwoWords? first second <;> rfl

end DeclaredType

/-! ### Columns -/

/-- A column definition with the case of its letters put aside. -/
def ColumnDefinition.uncased (column : ColumnDefinition) : ColumnDefinition :=
  ⟨Text.uncased column.name, column.type.uncased⟩

/-- A column fault with the case of its letters put aside. -/
def ColumnFault.uncased : ColumnFault → ColumnFault
  | .incomplete => .incomplete
  | .unknownType column type => .unknownType (Text.uncased column) (Text.uncased type)
  | .invalidName column => .invalidName (Text.uncased column)
  | .misplacedToken column token => .misplacedToken (Text.uncased column) (Text.uncased token)

theorem isOperand_uncased (token : Text) : isOperand (uncased token) = isOperand token := by
  have hstart : Caseless fun c => c == '\x27' || c == '-' || isDigit c :=
    caseless_of_letters (by decide)
  have hopen : decide ('(' ∈ uncased token) = decide ('(' ∈ token) :=
    decide_eq_decide.mpr (mem_uncased caseless_open)
  cases token with
  | nil => rfl
  | cons c rest =>
    rw [uncased_cons] at hopen ⊢
    simp only [isOperand, hopen]
    exact congrArg (_ || ·) (hstart c)

/-- Whether a modifier may stand where it stands does not depend on the case of letters. -/
theorem mayStand_uncased (before? : Option Text) (token : Text) (after? : Option Text) :
    mayStand (before?.map uncased) (uncased token) (after?.map uncased) =
      mayStand before? token after? := by
  have hbefore (required : Text) : (before?.map uncased).any (sameLetters · required) =
      before?.any (sameLetters · required) := by
    rw [Option.any_map]
    simp only [sameLetters_uncased_left]
  simp only [mayStand, isOperand_uncased, upper_uncased, Option.any_map, hbefore,
    sameLetters_uncased_left]

theorem firstMisplacedAfter?_uncased (before? : Option Text) (ts : List Text) :
    firstMisplacedAfter? (before?.map uncased) (ts.map uncased) =
      (firstMisplacedAfter? before? ts).map uncased := by
  induction ts generalizing before? with
  | nil => rfl
  | cons token rest ih =>
    rw [List.map_cons, firstMisplacedAfter?, List.head?_map, mayStand_uncased,
      firstMisplacedAfter?]
    split
    · exact ih (some token)
    · rfl

theorem firstMisplaced?_uncased (ts : List Text) (start : Nat) :
    firstMisplaced? (ts.map uncased) start = (firstMisplaced? ts start).map uncased := by
  rw [firstMisplaced?, ← List.map_drop, firstMisplaced?]
  exact firstMisplacedAfter?_uncased none (ts.drop start)

/-- **A column definition is read in any spelling.** -/
theorem ColumnDefinition.read_uncased (element : Text) : read (Text.uncased element) =
    ((read element).map ColumnDefinition.uncased).mapError ColumnFault.uncased := by
  rw [read, tokens_uncased, read]
  cases tokens element with
  | nil => rfl
  | cons first rest =>
    rw [List.map_cons, ofTokens, ofTokens, Identifier.unquote_uncased,
      DeclaredType.ofTokens?_uncased]
    cases DeclaredType.ofTokens? rest with
    | none => rfl
    | some type =>
      simp only [Option.map_some, DeclaredType.isKnown_uncased, Identifier.isValid_uncased]
      cases type.isKnown with
      | false => rfl
      | true =>
        cases Identifier.isValid (Identifier.unquote first) with
        | false => rfl
        | true =>
          have hmisplaced : firstMisplaced? (Text.uncased first :: rest.map Text.uncased)
              (1 + type.uncased.wordCount) =
                (firstMisplaced? (first :: rest) (1 + type.wordCount)).map Text.uncased :=
            firstMisplaced?_uncased (first :: rest) (1 + type.wordCount)
          rw [hmisplaced]
          cases firstMisplaced? (first :: rest) (1 + type.wordCount) <;> rfl

/-! ### Constraints -/

/-- A constraint fault with the case of its letters put aside. -/
def ConstraintFault.uncased : ConstraintFault → ConstraintFault
  | .missingBody => .missingBody
  | .invalidName name => .invalidName (Text.uncased name)
  | .unknownKind => .unknownKind

namespace TableConstraint

theorem isOne_uncased (element : Text) : isOne (uncased element) = isOne element := by
  rw [isOne, trim_uncased, upper_uncased, isOne]

/-- **A constraint is checked in any spelling.** -/
theorem check_uncased (element : Text) :
    check (uncased element) = (check element).mapError ConstraintFault.uncased := by
  have hkind : ∀ t, kind t = (kind t).mapError ConstraintFault.uncased := by
    intro t
    rw [kind]
    cases ConstraintKind.ofStart? t <;> rfl
  rw [check, check, trim_uncased, upper_uncased, words_uncased]
  split
  · match words (trim element) with
    | [] => rfl
    | [_] => rfl
    | [_, _] => rfl
    | _ :: name :: first :: rest =>
      have hjoin : upper (join [' '] ((first :: rest).map uncased)) =
          upper (join [' '] (first :: rest)) := by
        rw [← upper_uncased (join [' '] (first :: rest)), ← join_uncased]
        rfl
      rw [List.map_cons] at hjoin
      simp only [List.map_cons, Identifier.isValid_uncased]
      split
      · rw [hjoin]
        exact hkind _
      · rfl
  · exact hkind _

end TableConstraint

end SchemaIntake
