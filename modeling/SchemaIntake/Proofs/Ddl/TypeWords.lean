import SchemaIntake.Proofs.Ddl.BareWords
import SchemaIntake.Proofs.Ddl.TypeSpellings

/-!
# The words of a type

A type takes up one token, or two if they start like a type name of several words.  That is only a
comparison of starts, of two tokens that are joined, and a token may hold spaces where a parenthesis
is open.  Still a type of two tokens that is known is a name of two words, one for each token, and
nothing but an array suffix or a parenthesis comes after them.  So the names of the catalog that
have more than two words are never found.

## Main definitions

* `DataType.zoneNames` — the names of the catalog that have more than two words.
* `DataType.MayFollowName t` — what may follow the name in the token that it ends in.

## Main results

* `tokens_cut` — a token has no space before its parenthesis.
* `DataType.normalize_eq_opening` — **two tokens that are a known type** are its two words.
* `ColumnDefinition.type_words_of_read` — **the types of columns, word by word.**
-/

namespace SchemaIntake

open Text

theorem IsBareWord.words_eq {t : Text} (h : IsBareWord t) : words t = [t] := by
  have hblank : ∀ c ∈ t, isBlank c = false := fun c hc => (h.plain c hc).1
  rw [words, List.splitOnP_eq_singleton hblank]
  exact List.filter_cons_of_pos (by simpa using h.ne_nil)

/-! ### Tokens -/

/-- **A token has no space before its parenthesis**, and none at all if it has no parenthesis. -/
theorem tokens_cut {element t : Text} (h : t ∈ tokens element) : ('(' ∉ t ∧ ' ' ∉ t) ∨
    ∃ a b, t = a ++ '(' :: b ∧ '(' ∉ a ∧ ' ' ∉ a := by
  by_cases hopen : '(' ∈ t
  · obtain ⟨a, b, rfl, ha⟩ := List.eq_append_cons_of_mem hopen
    refine Or.inr ⟨a, b, rfl, ha, fun hspace => ?_⟩
    obtain ⟨u, v, rfl, -⟩ := List.eq_append_cons_of_mem hspace
    rw [List.append_assoc, List.cons_append] at h
    exact ha (List.mem_append_left _ (open_mem_of_mem_tokens h rfl))
  · refine Or.inl ⟨hopen, fun hspace => ?_⟩
    obtain ⟨u, v, rfl, -⟩ := List.eq_append_cons_of_mem hspace
    exact hopen (List.mem_append_left _ (open_mem_of_mem_tokens h rfl))

namespace DataType

/-! ### The names of the catalog -/

/-- The names of the catalog that have more than two words. -/
def zoneNames : List Text :=
  ["timestamp without time zone", "timestamp with time zone", "time without time zone",
    "time with time zone"].map String.toList

/-- What may follow the name in the token that it ends in, after an array suffix is dropped. -/
inductive MayFollowName : Text → Prop
  /-- Nothing. -/
  | nil : MayFollowName []
  /-- A parenthesis, which may have white space before it. -/
  | parenthesis (gap rest : Text) (hgap : ∀ c ∈ gap, isBlank c = true) :
      MayFollowName (gap ++ '(' :: rest)

/-- The words of a name of the catalog have one space between them, there are more than two in the
longer names only, and no other name goes on after one of the openings. -/
theorem words_of_mem_catalog {name : Text} (h : name ∈ catalog.map Prod.fst) :
    (words name).length = name.count ' ' + 1 ∧ (name ∈ zoneNames ↔ 1 < name.count ' ') ∧
      ∀ opening ∈ twoWordOpenings, opening <+: name → name.count ' ' ≤ 1 → name = opening := by
  have hall : ∀ name ∈ catalog.map Prod.fst,
      (words name).length = name.count ' ' + 1 ∧ (name ∈ zoneNames ↔ 1 < name.count ' ') ∧
        ∀ opening ∈ twoWordOpenings, opening <+: name → name.count ' ' ≤ 1 → name = opening := by
    decide +kernel
  exact hall name h

/-- The openings of the names of several words are two bare words with a space. -/
theorem exists_words_of_mem_twoWordOpenings {opening : Text} (h : opening ∈ twoWordOpenings) :
    ∃ v w, opening = v ++ ' ' :: w ∧ IsBareWord v ∧ IsBareWord w := by
  have hall : ∀ opening ∈ twoWordOpenings,
      opening = opening.takeWhile (· != ' ') ++ ' ' :: (opening.dropWhile (· != ' ')).tail ∧
        IsBareWord (opening.takeWhile (· != ' ')) ∧
        IsBareWord (opening.dropWhile (· != ' ')).tail := by
    decide
  exact ⟨_, _, hall opening h⟩

/-- The openings hold no parentheses and no brackets, and are none of the longer names. -/
theorem not_mem_of_mem_twoWordOpenings {opening : Text} (h : opening ∈ twoWordOpenings) :
    '(' ∉ opening ∧ '[' ∉ opening ∧ opening ∉ zoneNames := by
  have hall : ∀ opening ∈ twoWordOpenings,
      '(' ∉ opening ∧ '[' ∉ opening ∧ opening ∉ zoneNames := by
    decide
  exact hall opening h

theorem count_space_eq_one {a b : Text} (ha : ' ' ∉ a) (hb : ' ' ∉ b) :
    (a ++ ' ' :: b).count ' ' = 1 := by
  rw [List.count_append, List.count_cons_self, List.count_eq_zero.mpr ha, List.count_eq_zero.mpr hb]

/-! ### Base names of texts in lower case -/

theorem normalize_mem_of_isKnown {t : Text} (h : isKnown t = true) :
    normalize t ∈ catalog.map Prod.fst := by
  obtain ⟨entry, hentry, hname⟩ := isKnown_iff.mp h
  rw [hname]
  exact List.mem_map_of_mem hentry

/-- Without a parenthesis only an array suffix comes after the base name. -/
theorem exists_eq_normalize_append {t : Text} (hlow : uncased t = t) (hopen : '(' ∉ t)
    (h : isKnown t = true) : ∃ suffix, t = normalize t ++ suffix ∧ IsArraySuffix suffix := by
  obtain ⟨entry, hentry, hname⟩ := isKnown_iff.mp h
  obtain ⟨hplain, -, -, -, -, hbracket⟩ := catalog_spec hentry
  have hdrop := hname
  rw [normalize_eq_of_not_mem hopen, dropArraySuffix_eq_iff hbracket] at hdrop
  obtain ⟨suffix, hlower, hsuffix⟩ := hdrop
  rw [lower_eq_iff (isPlainWord_append hplain hsuffix), hlow] at hlower
  exact ⟨suffix, by rw [hname, ← hlower], hsuffix⟩

/-- With a parenthesis the base name is what stands before it. -/
theorem normalize_eq_trim {a b : Text} (hlow : uncased (a ++ '(' :: b) = a ++ '(' :: b)
    (hopen : '(' ∉ a) (h : isKnown (a ++ '(' :: b) = true) :
    normalize (a ++ '(' :: b) = trim a := by
  obtain ⟨entry, hentry, hname⟩ := isKnown_iff.mp h
  have hbefore : uncased a = a := by
    rw [uncased_append] at hlow
    exact List.append_inj_left hlow (length_uncased a)
  have htrim := hname
  rw [normalize_append_open hopen, trim_lower_eq_iff (catalog_spec hentry).1, ← trim_uncased,
    hbefore] at htrim
  rw [hname, htrim]

/-- What has no bracket does not reach into an array suffix. -/
theorem prefix_of_prefix_append_suffix {w t suffix : Text} (hw : '[' ∉ w)
    (hsuffix : IsArraySuffix suffix) (h : w <+: t ++ suffix) : w <+: t := by
  rcases hsuffix with rfl | rfl
  · rwa [List.append_nil] at h
  · exact prefix_of_prefix_append_cons hw h

/-! ### Types of one token -/

theorem dropArraySuffix_isPrefix (t : Text) : dropArraySuffix t <+: t := by
  rw [dropArraySuffix]
  split
  · exact List.take_prefix _ _
  · exact List.prefix_rfl

/-- The base name of a token is one word. -/
theorem space_not_mem_normalize {element t : Text} (h : t ∈ tokens element) :
    ' ' ∉ normalize t := by
  rcases tokens_cut h with ⟨hopen, hspace⟩ | ⟨a, b, rfl, hopen, hspace⟩
  · rw [normalize_eq_of_not_mem hopen]
    exact fun hmem => space_not_mem_lower hspace ((dropArraySuffix_isPrefix _).subset hmem)
  · rw [normalize_append_open hopen, trim, trimEnd_eq_rdropWhile, trimStart]
    intro hmem
    have hstart := (List.rdropWhile_prefix _ _).subset hmem
    exact space_not_mem_lower hspace ((List.dropWhile_suffix isBlank).subset hstart)

/-! ### Types of two tokens -/

section TwoTokens

variable {element first second opening : Text}

/-- A token that starts a name of several words is a word without a parenthesis. -/
theorem not_mem_of_opening (hfirst : first ∈ tokens element) (hopening : opening ∈ twoWordOpenings)
    (hstarts : opening <+: lower (first ++ ' ' :: second)) : '(' ∉ first ∧ ' ' ∉ first := by
  refine (tokens_cut hfirst).resolve_right ?_
  rintro ⟨a, b, rfl, hopen, hspace⟩
  obtain ⟨v, w, rfl, hv, hw⟩ := exists_words_of_mem_twoWordOpenings hopening
  have hnone : '(' ∉ v ++ ' ' :: w := by
    have hv := hv.not_mem (c := '(') (Or.inr (by decide))
    have hw := hw.not_mem (c := '(') (Or.inr (by decide))
    simp [hv, hw]
  -- the opening would have to end before the parenthesis, but its space stands behind it
  rw [List.append_assoc, List.cons_append, lower_append_open] at hstarts
  have hbefore := prefix_of_prefix_append_cons hnone hstarts
  exact space_not_mem_lower hspace (hbefore.subset (by simp))

section Base

variable {v word : Text}

/-- **The base name without a parenthesis** is the opening, and an array suffix comes after it. -/
theorem normalize_of_no_open (hopening : v ++ ' ' :: word ∈ twoWordOpenings) {u : Text}
    (hstart : word <+: u) (hlow : uncased (v ++ ' ' :: u) = v ++ ' ' :: u)
    (hopen : '(' ∉ v ++ ' ' :: u) (hspaces : (v ++ ' ' :: u).count ' ' ≤ 1)
    (hknown : isKnown (v ++ ' ' :: u) = true) : normalize (v ++ ' ' :: u) = v ++ ' ' :: word ∧
      ∃ suffix, u = word ++ suffix ∧ IsArraySuffix suffix := by
  obtain ⟨suffix, hraw, hsuffix⟩ := exists_eq_normalize_append hlow hopen hknown
  have hwhole : v ++ ' ' :: word <+: v ++ ' ' :: u :=
    (List.prefix_append_right_inj v).mpr (List.cons_prefix_cons.mpr ⟨rfl, hstart⟩)
  have hstarts : v ++ ' ' :: word <+: normalize (v ++ ' ' :: u) :=
    prefix_of_prefix_append_suffix (not_mem_of_mem_twoWordOpenings hopening).2.1 hsuffix
      (hraw ▸ hwhole)
  -- with one blank at most, no name of three words is meant
  have hfew : (normalize (v ++ ' ' :: u)).count ' ' ≤ 1 := by
    refine Nat.le_trans (List.Sublist.count_le ' ' ?_) hspaces
    nth_rewrite 2 [hraw]
    exact List.sublist_append_left _ suffix
  have hname := normalize_mem_of_isKnown hknown
  have heq := (words_of_mem_catalog hname).2.2 _ hopening hstarts hfew
  rw [heq, List.append_assoc, List.cons_append] at hraw
  exact ⟨heq, suffix, (List.cons.inj (List.append_cancel_left hraw)).2, hsuffix⟩

/-- **The base name with a parenthesis** is the opening, and only white space comes between. -/
theorem normalize_of_open (hv : IsBareWord v) (hword : IsBareWord word)
    (hopening : v ++ ' ' :: word ∈ twoWordOpenings) {u rest : Text} (hstart : word <+: u)
    (hlow : uncased ((v ++ ' ' :: u) ++ '(' :: rest) = (v ++ ' ' :: u) ++ '(' :: rest)
    (hopen : '(' ∉ v ++ ' ' :: u) (hspaces : (v ++ ' ' :: u).count ' ' ≤ 1)
    (hknown : isKnown ((v ++ ' ' :: u) ++ '(' :: rest) = true) :
    normalize ((v ++ ' ' :: u) ++ '(' :: rest) = v ++ ' ' :: word ∧
      ∃ gap, u = word ++ gap ∧ ∀ c ∈ gap, isBlank c = true := by
  obtain ⟨t, rfl⟩ := hstart
  obtain ⟨gap, hgap, ht⟩ := exists_trimEnd_append t
  have hbase : normalize ((v ++ ' ' :: (word ++ t)) ++ '(' :: rest) =
      v ++ ' ' :: (word ++ trimEnd t) := by
    rw [normalize_eq_trim hlow hopen hknown, trim, hv.trimStart_append, List.append_cons,
      hword.trimEnd_append, ← List.append_cons]
  have hname := normalize_mem_of_isKnown hknown
  rw [hbase] at hname ⊢
  have hfew : (v ++ ' ' :: (word ++ trimEnd t)).count ' ' ≤ 1 := by
    refine Nat.le_trans (List.Sublist.count_le ' ' ?_) hspaces
    nth_rewrite 2 [ht]
    simp
  have hstarts : v ++ ' ' :: word <+: v ++ ' ' :: (word ++ trimEnd t) :=
    ⟨trimEnd t, by rw [List.append_assoc, List.cons_append]⟩
  have heq := (words_of_mem_catalog hname).2.2 _ hopening hstarts hfew
  -- nothing but blanks may stand between the second word and the parenthesis
  have hnil : trimEnd t = [] := by
    have htail := (List.cons.inj (List.append_cancel_left heq)).2
    exact List.append_cancel_left (htail.trans (List.append_nil word).symm)
  rw [hnil, List.nil_append] at ht
  exact ⟨heq, gap, by rw [← ht], hgap⟩

end Base

/-- **Two tokens that are a known type** are the two words of its name, and nothing but an array
suffix or a parenthesis comes after them. -/
theorem normalize_eq_opening (hfirst : first ∈ tokens element) (hsecond : second ∈ tokens element)
    (hopening : opening ∈ twoWordOpenings) (hstarts : opening <+: lower (first ++ ' ' :: second))
    (hknown : isKnown (lower (first ++ ' ' :: second)) = true) :
    normalize (lower (first ++ ' ' :: second)) = opening ∧
      ∃ word after, words opening = [lower first, word] ∧
        dropArraySuffix (lower second) = word ++ after ∧ MayFollowName after := by
  obtain ⟨hopen, hspace⟩ := not_mem_of_opening hfirst hopening hstarts
  replace hopen := open_not_mem_lower hopen
  replace hspace := space_not_mem_lower hspace
  obtain ⟨v, word, rfl, hv, hword⟩ := exists_words_of_mem_twoWordOpenings hopening
  have hlow : uncased (lower (first ++ ' ' :: second)) = lower (first ++ ' ' :: second) :=
    uncased_lower _
  rw [lower_append_space] at hstarts hknown hlow ⊢
  -- the first token is the first word, and the second one starts with the second word
  obtain ⟨s, hs⟩ := hstarts
  rw [List.append_assoc, List.cons_append] at hs
  obtain ⟨rfl, htail⟩ := eq_of_append_cons (hv.not_mem (Or.inl (by decide))) hspace hs
  have hwords : words (lower first ++ ' ' :: word) = [lower first, word] := by
    rw [hv.words_append, hword.words_eq]
  rcases tokens_cut hsecond with ⟨hopen', hspace'⟩ | ⟨a, b, rfl, hopen', hspace'⟩
  · replace hopen' := open_not_mem_lower hopen'
    have hspaces := count_space_eq_one hspace (space_not_mem_lower hspace')
    obtain ⟨hbase, suffix, hsuffix, harray⟩ := normalize_of_no_open hopening
      ⟨s, htail⟩ hlow (by simp [hopen, hopen']) (Nat.le_of_eq hspaces) hknown
    have hbracket : '[' ∉ word := by
      intro hmem
      exact (not_mem_of_mem_twoWordOpenings hopening).2.1 (by simp [hmem])
    refine ⟨hbase, word, [], hwords, ?_, .nil⟩
    rw [List.append_nil, dropArraySuffix_eq_iff hbracket]
    exact ⟨suffix, hsuffix, harray⟩
  · obtain ⟨r, hr⟩ := exists_dropArraySuffix_append_open (lower a) (lower b)
    replace hopen' := open_not_mem_lower hopen'
    have hspaces := count_space_eq_one hspace (space_not_mem_lower hspace')
    have hraw : lower first ++ ' ' :: lower (a ++ '(' :: b) =
        (lower first ++ ' ' :: lower a) ++ '(' :: lower b := by
      rw [lower_append_open, List.append_assoc, List.cons_append]
    have hstart : word <+: lower a := by
      have hnone : '(' ∉ word := hword.not_mem (Or.inr (by decide))
      rw [lower_append_open] at htail
      exact prefix_of_prefix_append_cons hnone ⟨s, htail⟩
    rw [hraw] at hknown hlow ⊢
    obtain ⟨hbase, gap, hgap, hblank⟩ := normalize_of_open hv hword hopening hstart hlow
      (by simp [hopen, hopen']) (Nat.le_of_eq hspaces) hknown
    refine ⟨hbase, word, gap ++ '(' :: r, hwords, ?_, .parenthesis gap r hblank⟩
    rw [lower_append_open, hr, hgap, List.append_assoc]

end TwoTokens

end DataType

/-! ### The types of columns -/

namespace ColumnDefinition

open DataType

/-- **The types of columns, word by word.**  The base name of an accepted column is a name of the
catalog that has no more than two words, and the type takes up as many tokens as it has words.  If
there are two, the first token is the first word in lower case, and the second one the second word,
after which nothing but an array suffix or a parenthesis comes; and the type starts like no other
name of several words. -/
theorem type_words_of_read {element : Text} {column : ColumnDefinition}
    (h : read element = .ok column) :
    column.type.baseName ∈ catalog.map Prod.fst ∧ column.type.baseName ∉ zoneNames ∧
      (words column.type.baseName).length = column.type.wordCount ∧
      (column.type.wordCount = 1 ∨ column.type.wordCount = 2) ∧
      (column.type.wordCount = 2 → column.type.baseName ∈ twoWordOpenings ∧
        (∀ opening ∈ twoWordOpenings, opening <+: column.type.raw →
          opening = column.type.baseName) ∧
        ∃ name first second rest word after, tokens element = name :: first :: second :: rest ∧
          words column.type.baseName = [lower first, word] ∧
          dropArraySuffix (lower second) = word ++ after ∧ MayFollowName after) := by
  obtain ⟨name, rest, htokens, htype, hknown, -⟩ := exists_of_read h
  have hname := normalize_mem_of_isKnown hknown
  rcases DeclaredType.exists_of_ofTokens? htype with
    ⟨first, rest, rfl, hone⟩ | ⟨first, second, rest, rfl, htwo, hopenings⟩
  -- a type of one token has no blank, and so one word
  · rw [hone] at hname ⊢
    have hfirst : first ∈ tokens element := by simp [htokens]
    obtain ⟨hwords, hzone, -⟩ := words_of_mem_catalog hname
    rw [List.count_eq_zero.mpr (space_not_mem_normalize hfirst)] at hwords hzone
    exact ⟨hname, hzone.not.mpr (by decide), hwords, Or.inl rfl, fun htwo => absurd htwo (by simp)⟩
  · obtain ⟨opening, hopening, hstarts⟩ := List.any_eq_true.mp hopenings
    rw [htwo] at hname hknown hstarts ⊢
    have hfirst : first ∈ tokens element := by simp [htokens]
    have hsecond : second ∈ tokens element := by simp [htokens]
    have hspec {o : Text} (ho : o ∈ twoWordOpenings)
        (hstart : o <+: lower (first ++ ' ' :: second)) :=
      normalize_eq_opening hfirst hsecond ho hstart hknown
    obtain ⟨hbase, word, after, hwords, hsecondWord, hafter⟩ :=
      hspec hopening (List.isPrefixOf_iff_prefix.mp hstarts)
    rw [← hbase] at hwords hopening
    have hzone := (not_mem_of_mem_twoWordOpenings hopening).2.2
    exact ⟨hname, hzone, congrArg List.length hwords, Or.inr rfl, fun _ =>
      ⟨hopening, fun o ho hstart => (hspec ho hstart).1.symm, name, first, second, rest, word,
        after, htokens, hwords, hsecondWord, hafter⟩⟩

/-- A type of two tokens with white space before its parenthesis, which is no space between tokens,
and with an array suffix behind it. -/
theorem type_words_bit_varying :
    ∃ column, read "x Bit Varying\x0b(8)[] NOT NULL".toList = .ok column ∧
      column.type.wordCount = 2 ∧ column.type.baseName = "bit varying".toList ∧
      column.type.baseName ∈ twoWordOpenings ∧
      ∃ name first second rest word after,
        tokens "x Bit Varying\x0b(8)[] NOT NULL".toList = name :: first :: second :: rest ∧
        words column.type.baseName = [lower first, word] ∧
        dropArraySuffix (lower second) = word ++ after ∧ MayFollowName after := by
  have hread : read "x Bit Varying\x0b(8)[] NOT NULL".toList =
      .ok ⟨"x".toList, ⟨"bit varying\x0b(8)[]".toList, 2⟩⟩ := by
    decide +kernel
  obtain ⟨-, -, -, -, htwo⟩ := type_words_of_read hread
  obtain ⟨hopening, -, htokens⟩ := htwo rfl
  exact ⟨_, hread, rfl, by decide +kernel, hopening, htokens⟩

end ColumnDefinition

end SchemaIntake
