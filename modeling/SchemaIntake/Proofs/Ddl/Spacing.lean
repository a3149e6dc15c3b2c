import SchemaIntake.Proofs.Ddl.Cropping
import SchemaIntake.Proofs.Ddl.Elements
import SchemaIntake.Proofs.Ddl.Separators

/-!
# Reading definitions without regard to spacing

Statements, their headers, elements and columns are told apart by their words, whatever separators
stand between them.  So each reader commutes with squeezing: what it finds in a text it finds, with
its own separators squeezed, in the text with its separators squeezed.  Constraints are the
exception.  They are told from columns by words one space apart, so an element may be taken for a
constraint only once it is squeezed; an element that is taken for one in any case is checked alike.

## Main results

* `Header.find?_squeezed`, `Statement.all_squeezed`, `Statement.body_squeezed` — statements and
  their headers.
* `checkedElements_squeezed`, `tokens_squeezed` — elements and tokens.
* `ColumnDefinition.gist_squeezed` — **columns**.
* `TableConstraint.isOne_squeezed`, `TableConstraint.check_squeezed` — **constraints**.
-/

namespace SchemaIntake

open Text

/-! ### Readers of headers -/

namespace Header

/-- A reader that finds the same whatever the separators are. -/
def MindsNoSpacing (read : Text → Option Text) : Prop :=
  ∀ t, read (squeezed t) = (read t).map squeezed

theorem MindsNoSpacing.bind {read next : Text → Option Text} (hread : MindsNoSpacing read)
    (hnext : MindsNoSpacing next) : MindsNoSpacing fun t => (read t).bind next := by
  intro t
  change (read (squeezed t)).bind next = ((read t).bind next).map squeezed
  rw [hread]
  cases read t with
  | none => rfl
  | some rest => exact hnext rest

def separators : List Char := [' ', '\t', '\n', '\r']

theorem mem_separators {c : Char} (h : isSeparator c = true) : c ∈ separators := by
  rcases isSeparator_cases h with rfl | rfl | rfl | rfl <;> decide

/-- A word none of whose letters stands for a separator. -/
def isLettersOnly (word : Text) : Bool := word.all fun letter => !separators.any (folds letter)

/-- No keyword starts with a separator. -/
theorem keyword?_of_separator {letter : Char} {word : Text}
    (h : isLettersOnly (letter :: word) = true) {c : Char} (hc : isSeparator c = true) (t : Text) :
    keyword? (letter :: word) (c :: t) = none := by
  have hfolds : folds letter c = false := by
    simp only [isLettersOnly, List.all_cons, Bool.and_eq_true, Bool.not_eq_true'] at h
    have hnone := List.any_eq_false.mp h.1 c (mem_separators hc)
    simpa using hnone
  rw [keyword?, if_neg (by simp [hfolds])]

theorem mindsNoSpacing_keyword? {word : Text} (h : isLettersOnly word = true) :
    MindsNoSpacing (keyword? word) := by
  intro t
  induction word generalizing t with
  | nil => rfl
  | cons letter word ih =>
    cases t with
    | nil => rfl
    | cons c t =>
      -- no keyword starts with a separator
      cases hc : isSeparator c with
      | true =>
        obtain ⟨u, hu⟩ := exists_squeezed_eq hc t
        rw [hu, keyword?_of_separator h rfl, keyword?_of_separator h hc, Option.map_none]
      | false =>
        have hrest : isLettersOnly word = true := by
          rw [isLettersOnly, List.all_cons, Bool.and_eq_true] at h
          exact h.2
        rw [squeezed_cons hc, keyword?, keyword?]
        split
        · exact ih hrest t
        · rfl

theorem mindsNoSpacing_blanks? : MindsNoSpacing blanks? := by
  intro t
  induction t using spacing_induction with
  | nil => rfl
  | char c t hc ih =>
    rw [squeezed_cons hc, blanks?, blanks?, dropWhile_isBlank_squeezed]
    split <;> rfl
  | more c d t hc hd ih =>
    rw [squeezed_more hc hd, ih, blanks?, blanks?, if_pos (isBlank_of_isSeparator hc),
      if_pos (isBlank_of_isSeparator hd), List.dropWhile_cons_of_pos (isBlank_of_isSeparator hd)]
  | last c t hc ht ih =>
    rw [squeezed_last hc ht, blanks?, blanks?, if_pos (isBlank_of_isSeparator hc),
      if_pos (isBlank_of_isSeparator rfl), dropWhile_isBlank_squeezed, Option.map_some]

theorem mindsNoSpacing_opening? : MindsNoSpacing opening? :=
  (mindsNoSpacing_keyword? (by decide)).bind <| mindsNoSpacing_blanks?.bind <|
    (mindsNoSpacing_keyword? (by decide)).bind mindsNoSpacing_blanks?

theorem mindsNoSpacing_ifNotExists? : MindsNoSpacing ifNotExists? :=
  (mindsNoSpacing_keyword? (by decide)).bind <| mindsNoSpacing_blanks?.bind <|
    (mindsNoSpacing_keyword? (by decide)).bind <| mindsNoSpacing_blanks?.bind <|
      (mindsNoSpacing_keyword? (by decide)).bind mindsNoSpacing_blanks?

/-- No header starts with a separator. -/
theorem opening?_of_separator {c : Char} (hc : isSeparator c = true) (t : Text) :
    opening? (c :: t) = none := by
  have hkeyword : keyword? "CREATE".toList (c :: t) = none :=
    keyword?_of_separator (by decide) hc t
  rw [opening?, hkeyword]
  rfl

theorem quote_squeezed (t : Text) : quote (squeezed t) = ((quote t).1, squeezed (quote t).2) := by
  cases t with
  | nil => rfl
  | cons c t =>
    by_cases hquote : c = '"'
    · subst hquote
      rw [squeezed_cons (by decide)]
      rfl
    · rw [quote_of_ne hquote]
      cases hc : isSeparator c with
      | false => rw [squeezed_cons hc, quote_of_ne hquote]
      | true =>
        obtain ⟨u, hu⟩ := exists_squeezed_eq hc t
        rw [hu, quote_of_ne (by decide)]

theorem isNameChar_of_isSeparator {c : Char} (h : isSeparator c = true) : isNameChar c = false := by
  rcases isSeparator_cases h with rfl | rfl | rfl | rfl <;> decide

/-- A name has no separators. -/
theorem word?_squeezed (t : Text) :
    word? (squeezed t) = (word? t).map fun r => (r.1, squeezed r.2) := by
  have htake : ∀ u, (squeezed u).takeWhile isNameChar = u.takeWhile isNameChar :=
    takeWhile_squeezed fun _ => isNameChar_of_isSeparator
  have hdrop : ∀ u, (squeezed u).dropWhile isNameChar = squeezed (u.dropWhile isNameChar) :=
    dropWhile_squeezed fun _ hc => isNameChar_of_isSeparator hc
  simp only [word?, quote_squeezed, htake, hdrop]
  split <;> rfl

/-- What follows the parenthesis of a header is squeezed; its names stay as they are. -/
def squeezed (h : Header) : Header := { h with rest := SchemaIntake.squeezed h.rest }

theorem close?_squeezed (schema : Option Word) (table : Word) (t : Text) :
    close? schema table (SchemaIntake.squeezed t) = (close? schema table t).map squeezed := by
  rw [close?, close?, dropWhile_isBlank_squeezed]
  cases t.dropWhile isBlank with
  | nil => rfl
  | cons c rest =>
    by_cases hopen : c = '('
    · subst hopen
      rw [squeezed_cons (by decide)]
      rfl
    · cases hc : isSeparator c with
      | false => simp [squeezed_cons hc, hopen]
      | true =>
        obtain ⟨u, hu⟩ := exists_squeezed_eq hc rest
        simp [hu, hopen]

/-- **A header is read with any separators.** -/
theorem read?_squeezed (t : Text) : read? (SchemaIntake.squeezed t) = (read? t).map squeezed := by
  rw [read?, read?, mindsNoSpacing_opening?]
  cases opening? t with
  | none => rfl
  | some t =>
    have hname : (ifNotExists? (SchemaIntake.squeezed t)).getD (SchemaIntake.squeezed t) =
        SchemaIntake.squeezed ((ifNotExists? t).getD t) := by
      rw [mindsNoSpacing_ifNotExists?]
      cases ifNotExists? t <;> rfl
    simp only [Option.map_some, Option.bind_eq_bind, Option.bind_some, hname, word?_squeezed]
    cases word? ((ifNotExists? t).getD t) with
    | none => rfl
    | some r =>
      obtain ⟨first, rest⟩ := r
      simp only [Option.map_some, Option.bind_some]
      cases rest with
      | nil => exact close?_squeezed none first []
      | cons c rest =>
        -- after a dot the first word has been the schema
        by_cases hdot : c = '.'
        · subst hdot
          rw [squeezed_cons (by decide)]
          change ((word? (SchemaIntake.squeezed rest)).bind fun r =>
              close? (some first) r.1 r.2) =
            ((word? rest).bind fun r => close? (some first) r.1 r.2).map squeezed
          rw [word?_squeezed]
          cases word? rest with
          | none => rfl
          | some r => exact close?_squeezed (some first) r.1 r.2
        · have hclose := close?_squeezed none first (c :: rest)
          cases hc : isSeparator c with
          | false =>
            rw [squeezed_cons hc] at hclose ⊢
            simpa [hdot] using hclose
          | true =>
            obtain ⟨u, hu⟩ := exists_squeezed_eq hc rest
            rw [hu] at hclose ⊢
            simpa [hdot] using hclose

theorem find?_squeezed (t : Text) : find? (SchemaIntake.squeezed t) = (find? t).map squeezed := by
  -- no header starts with a separator
  have hread : ∀ c rest, isSeparator c = true → read? (c :: rest) = none := by
    intro c rest hc
    rw [read?, opening?_of_separator hc]
    rfl
  induction t using spacing_induction with
  | nil => rfl
  | char c t hc ih =>
    have hfirst := read?_squeezed (c :: t)
    rw [squeezed_cons hc] at hfirst ⊢
    rw [find?, find?, hfirst, ih]
    cases read? (c :: t) <;> rfl
  | more c d t hc hd ih =>
    rw [squeezed_more hc hd, ih, find?.eq_2 c, hread c _ hc, Option.none_or]
  | last c t hc ht ih =>
    rw [squeezed_last hc ht, find?, find?, hread c _ hc, hread ' ' _ rfl, Option.none_or,
      Option.none_or, ih]

end Header

/-! ### Statements -/

namespace Statement

theorem opens_squeezed (t : Text) : opens (squeezed t) = opens t := by
  rw [opens, Header.mindsNoSpacing_opening?, Option.isSome_map, opens]

theorem tableName?_squeezed (s : Text) : tableName? (squeezed s) = tableName? s := by
  rw [tableName?, Header.find?_squeezed, Option.map_map, tableName?]
  rfl

theorem all_cons_of_separator {c : Char} (hc : isSeparator c = true) (t : Text) :
    all (c :: t) = all t := by
  have hopens : opens (c :: t) = false := by
    rw [opens, Header.opening?_of_separator hc]
    rfl
  rw [all, if_neg (by simp [hopens])]

theorem isSeparator_of_opens {c : Char} {t : Text} (h : opens (c :: t) = true) :
    isSeparator c = false := by
  by_contra hc
  rw [opens, Header.opening?_of_separator (by simpa using hc)] at h
  exact absurd h (by simp)

/-- **The statements of a text are found with any separators.** -/
theorem all_squeezed (sql : Text) : all (squeezed sql) = (all sql).map squeezed := by
  fun_induction all sql with
  | case1 => rw [squeezed_nil, all, List.map_nil]
  | case2 c rest hopens statement after hthrough ih =>
    have hsqueezed := throughFirst?_squeezed (d := ';') (by decide) (c :: rest)
    have hc := isSeparator_of_opens hopens
    rw [hthrough, Option.map_some, squeezed_cons hc] at hsqueezed
    rw [squeezed_cons hc, all, if_pos (by rw [← squeezed_cons hc, opens_squeezed, hopens])]
    split
    · next statement' after' hsome =>
      obtain ⟨rfl, rfl⟩ := Prod.mk.inj (Option.some.inj (hsome.symm.trans hsqueezed))
      rw [ih, List.map_cons]
    · next hnone => exact absurd (hnone.symm.trans hsqueezed) (by simp)
  | case3 c rest hopens hthrough =>
    have hsqueezed := throughFirst?_squeezed (d := ';') (by decide) (c :: rest)
    have hc := isSeparator_of_opens hopens
    rw [hthrough, Option.map_none, squeezed_cons hc] at hsqueezed
    rw [squeezed_cons hc, all, if_pos (by rw [← squeezed_cons hc, opens_squeezed, hopens])]
    split
    · next hsome => exact absurd (hsome.symm.trans hsqueezed) (by simp)
    · rfl
  | case4 c rest hopens ih =>
    cases hc : isSeparator c with
    | false =>
      rw [squeezed_cons hc, all, if_neg (by rw [← squeezed_cons hc, opens_squeezed]; exact hopens),
        ih]
    | true =>
      -- a separator is passed over, whether it is left or not
      rw [← ih]
      cases hrest : startsSpaced rest with
      | true => rw [squeezed, if_pos hc, if_pos hrest]
      | false => rw [squeezed_last hc hrest, all_cons_of_separator rfl]

theorem body_squeezed (s : Text) : body (squeezed s) = squeezed (body s) := by
  rw [body, afterFirst?_squeezed (by decide), body]
  cases afterFirst? '(' s with
  | none => rfl
  | some rest =>
    rw [Option.map_some, Option.bind_some, Option.bind_some, beforeLast?_squeezed (by decide)]
    cases beforeLast? ')' rest with
    | none => rfl
    | some inner => exact trim_squeezed inner

theorem hasTrailingText_squeezed (s : Text) : hasTrailingText (squeezed s) = hasTrailingText s := by
  rw [hasTrailingText, afterLast?_squeezed (by decide), hasTrailingText]
  cases afterLast? ')' s with
  | none => rfl
  | some after =>
    have hsemicolon : squeezed (trim after) = [';'] ↔ trim after = [';'] :=
      squeezed_eq_iff (by decide)
    simp only [Option.map_some, trim_squeezed, isEmpty_squeezed]
    rw [Bool.eq_iff_iff]
    simp [hsemicolon]

end Statement

/-! ### Elements and tokens -/

theorem dropBlankLast_map_squeezed (ps : List Text) :
    dropBlankLast (ps.map squeezed) = (dropBlankLast ps).map squeezed := by
  match ps with
  | [] => rfl
  | [p] =>
    rw [List.map_cons, List.map_nil, dropBlankLast, isAllBlank_squeezed, dropBlankLast]
    split <;> rfl
  | p :: q :: ps =>
    have ih := dropBlankLast_map_squeezed (q :: ps)
    rw [List.map_cons] at ih
    rw [List.map_cons, List.map_cons, dropBlankLast, ih, dropBlankLast, List.map_cons]

theorem elements_squeezed (body : Text) :
    elements (squeezed body) = (elements body).map squeezed := by
  have hnext : ∀ (n : Nesting) c, isSeparator c = true → n.next c = n.next ' ' := by
    intro n c hc
    rcases isSeparator_cases hc with rfl | rfl | rfl | rfl <;> rfl
  have htwice : ∀ n : Nesting, (n.next ' ').next ' ' = n.next ' ' := by
    intro n
    simp [Nesting.next, parenStep]
  have hcut : ∀ (n : Nesting) c, isSeparator c = true → n.isDelimiter c = false := by
    intro n c hc
    rcases isSeparator_cases hc with rfl | rfl | rfl | rfl <;> rfl
  rw [elements, elementPieces, cutWhere_squeezed hnext htwice hcut, dropBlankLast_map_squeezed,
    elements, elementPieces]

theorem checkedElements_squeezed (body : Text) :
    checkedElements (squeezed body) = (checkedElements body).map squeezed := by
  have htrim : ((elements body).map squeezed).map trim =
      ((elements body).map trim).map squeezed := by
    rw [List.map_map, List.map_map]
    exact List.map_congr_left fun element _ => trim_squeezed element
  rw [checkedElements, elements_squeezed, htrim, filter_map_squeezed, checkedElements]

theorem tokens_squeezed (element : Text) :
    tokens (squeezed element) = (tokens element).map squeezed := by
  have hnext : ∀ (depth : Int) c, isSeparator c = true → depth + parenStep c = depth := by
    intro depth c hc
    rw [(isSeparator_spec hc).2.2.2, Int.add_zero]
  have hcut : ∀ (depth : Int) c, isSeparator c = true →
      endsToken depth c = endsToken depth ' ' := by
    intro depth c hc
    rw [endsToken, endsToken, hc]
    rfl
  rw [tokens, trim_squeezed, filter_cutWhere_squeezed hnext hcut, tokens]

/-! ### Columns -/

/-- A token is cropped before its first separator. -/
theorem cropped_squeezed_of_mem_tokens {element token : Text} (h : token ∈ tokens element) :
    cropped (squeezed token) = cropped token := by
  have hopen : ∀ {a b x}, token = a ++ x :: b → isSeparator x = true → '(' ∈ a := by
    rintro a b x rfl hx
    exact open_mem_of_mem_tokenPieces (Int.le_refl 0) (List.mem_filter.mp h).1 hx
  -- a separator within a token comes behind a parenthesis, where it is cropped
  rcases cropped_cases token with ⟨hnone, -⟩ | ⟨a, b, rfl, ha, hcropped⟩
  · have hplain : token.any isSeparator = false := by
      refine List.any_eq_false.mpr fun x hx hseparator => ?_
      obtain ⟨a, b, rfl⟩ := List.mem_iff_append.mp hx
      exact hnone (List.mem_append_left _ (hopen rfl hseparator))
    rw [squeezed_eq_self hplain]
  · have hplain : a.any isSeparator = false := by
      refine List.any_eq_false.mpr fun x hx hseparator => ?_
      obtain ⟨u, v, rfl⟩ := List.mem_iff_append.mp hx
      exact ha (List.mem_append_left _ (hopen (List.append_assoc u (x :: v) _) hseparator))
    rw [hcropped, squeezed_append_cons (by decide), squeezed_eq_self hplain,
      cropped_append_open ha]

/-- **A column is read with any separators.** -/
theorem ColumnDefinition.gist_squeezed (element : Text) :
    gist (read (squeezed element)) = gist (read element) := by
  -- separators within a token stand behind a parenthesis, where the tokens can be cropped
  have htokens : ((tokens element).map squeezed).map cropped = (tokens element).map cropped := by
    rw [List.map_map]
    exact List.map_congr_left fun token htoken => cropped_squeezed_of_mem_tokens htoken
  rw [read, tokens_squeezed, ← gist_cropped, htokens, gist_cropped, read]

/-! ### Constraints -/

theorem ConstraintKind.prefix_of_ofStart? {kind : ConstraintKind} {t : Text}
    (h : ofStart? t = some kind) : kind.words <+: t := by
  rw [ofStart?] at h
  have hstart := List.find?_some h
  exact List.isPrefixOf_iff_prefix.mp hstart

/-- An upper-case text starts with the words of one kind only. -/
theorem ConstraintKind.ofStart?_eq_some {kind : ConstraintKind} {t : Text}
    (h : kind.words <+: t) : ofStart? t = some kind := by
  have hapart : ∀ k ∈ all, ∀ k' ∈ all, k.words <+: k'.words → k = k' := by decide
  have hall : ∀ k : ConstraintKind, k ∈ all := by
    intro k
    cases k <;> decide
  cases hfound : ofStart? t with
  | none =>
    rw [ofStart?, List.find?_eq_none] at hfound
    exact absurd (List.isPrefixOf_iff_prefix.mpr h) (hfound kind (hall kind))
  | some kind' =>
    have hstart := prefix_of_ofStart? hfound
    rcases List.prefix_or_prefix_of_prefix hstart h with hprefix | hprefix
    · rw [hapart kind' (hall kind') kind (hall kind) hprefix]
    · rw [hapart kind (hall kind) kind' (hall kind') hprefix]

namespace TableConstraint

variable {element : Text}

theorem isNamed_squeezed {t : Text} (h : isNamed t = true) : isNamed (squeezed t) = true := by
  rw [isNamed, List.isPrefixOf_iff_prefix] at h ⊢
  exact prefix_squeezed h

theorem ofStart?_squeezed {t : Text} {kind : ConstraintKind}
    (h : ConstraintKind.ofStart? t = some kind) :
    ConstraintKind.ofStart? (squeezed t) = some kind := by
  have hwords : squeezed kind.words = kind.words := by cases kind <;> decide
  have hstart := prefix_squeezed (ConstraintKind.prefix_of_ofStart? h)
  rw [hwords] at hstart
  exact ConstraintKind.ofStart?_eq_some hstart

/-- **What is taken for a constraint is taken for one once it is squeezed**, if not the other way
round. -/
theorem isOne_squeezed (h : isOne element = true) : isOne (squeezed element) = true := by
  rw [isOne, Bool.or_eq_true] at h
  rw [isOne, trim_squeezed, upper_squeezed, Bool.or_eq_true]
  rcases h with h | h
  · exact Or.inl (isNamed_squeezed h)
  · obtain ⟨kind, hkind⟩ := Option.isSome_iff_exists.mp h
    rw [ofStart?_squeezed hkind]
    exact Or.inr rfl

/-- No kind of constraint starts with the word that introduces a name. -/
theorem isNamed_of_ofStart? {t : Text} {kind : ConstraintKind}
    (h : ConstraintKind.ofStart? t = some kind) : isNamed t = false := by
  have hapart : ¬ "CONSTRAINT ".toList <+: kind.words ∧ ¬ kind.words <+: "CONSTRAINT ".toList := by
    cases kind <;> decide
  have hstart := ConstraintKind.prefix_of_ofStart? h
  rw [Bool.eq_false_iff, isNamed, Ne, List.isPrefixOf_iff_prefix]
  intro hnamed
  rcases List.prefix_or_prefix_of_prefix hnamed hstart with hprefix | hprefix
  · exact hapart.1 hprefix
  · exact hapart.2 hprefix

/-- **A constraint is checked with any separators.** -/
theorem check_squeezed (h : isOne element = true) : check (squeezed element) = check element := by
  rw [check, check, trim_squeezed, upper_squeezed, words_squeezed]
  cases hnamed : isNamed (upper (trim element)) with
  | true =>
    rw [isNamed_squeezed hnamed]
    rfl
  | false =>
    rw [isOne, hnamed, Bool.false_or] at h
    obtain ⟨kind, hkind⟩ := Option.isSome_iff_exists.mp h
    have hsqueezed := ofStart?_squeezed hkind
    rw [isNamed_of_ofStart? hsqueezed, TableConstraint.kind, TableConstraint.kind, hkind, hsqueezed]

end TableConstraint

end SchemaIntake
