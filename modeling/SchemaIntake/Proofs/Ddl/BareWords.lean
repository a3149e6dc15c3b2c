import SchemaIntake.Proofs.Ddl.Columns
import SchemaIntake.Proofs.Ddl.Gaps

/-!
# Bare words

A text without white space and parentheses is taken as a whole wherever it stands between spaces: as
one word, and as one token too unless a parenthesis is open before it.  Valid names are such texts,
quoted or not.

## Main definitions

* `IsBareWord t` — not empty, without white space and without parentheses.

## Main results

* `IsBareWord.tokens_append`, `IsBareWord.words_append` — **a bare word at the start** is the first
  token and the first word, and what follows does not depend on it.
* `tokenPieces_bareWords` — two bare words are two tokens, or one within a parenthesis.
-/

namespace SchemaIntake

open Text

namespace Text

/-! ### Words -/

/-- White space falls between words. -/
theorem words_append_cons {c : Char} (hc : isBlank c = true) (a b : Text) :
    words (a ++ c :: b) = words a ++ words b := by
  rw [words, List.splitOnP_append_cons a b hc, List.filter_append, words, words]

@[simp] theorem words_nil : words [] = [] := by
  rw [words, List.splitOnP_nil]
  rfl

/-- White space at the ends belongs to no word. -/
theorem words_trim (t : Text) : words (trim t) = words t := by
  refine (trim_iff (P := fun u => words u = words t) ?_ ?_ t).mpr rfl
  · intro c hc u
    rw [← List.nil_append (c :: u), words_append_cons hc, words_nil, List.nil_append]
  · intro c hc u
    rw [words_append_cons hc, words_nil, List.append_nil]

/-- There are words in all texts but the blank ones. -/
theorem words_eq_nil_iff {t : Text} : words t = [] ↔ isAllBlank t = true := by
  rw [isAllBlank, List.isEmpty_iff, ← words_trim]
  constructor
  · intro h
    cases hcons : trim t with
    | nil => rfl
    | cons c u =>
      -- the first character starts a word
      have hc : isBlank c = false := isBlank_of_head?_trim (by rw [hcons]; rfl)
      obtain ⟨p, ps, hpieces⟩ := List.exists_cons_of_ne_nil (List.splitOnP_ne_nil isBlank u)
      rw [hcons, words, List.splitOnP_cons_eq_if_modifyHead, hc, if_neg (by simp), hpieces,
        List.modifyHead_cons, List.filter_cons_of_pos (by simp)] at h
      exact absurd h (by simp)
  · intro h
    rw [h, words_nil]

end Text

/-! ### Bare words -/

/-- A text that is not empty and holds neither white space nor parentheses. -/
structure IsBareWord (t : Text) : Prop where
  ne_nil : t ≠ []
  /-- It holds neither white space nor parentheses. -/
  plain : ∀ c ∈ t, isBlank c = false ∧ parenStep c = 0

instance (t : Text) : Decidable (IsBareWord t) :=
  decidable_of_iff (t ≠ [] ∧ t.all (fun c => !isBlank c && parenStep c == 0) = true)
    ⟨fun ⟨hne, hplain⟩ => ⟨hne, by simpa using hplain⟩,
      fun h => ⟨h.ne_nil, by simpa using h.plain⟩⟩

namespace IsBareWord

variable {t : Text}

theorem not_mem (h : IsBareWord t) {c : Char} (hc : isBlank c = true ∨ parenStep c ≠ 0) :
    c ∉ t := by
  intro hmem
  obtain ⟨hblank, hstep⟩ := h.plain c hmem
  rcases hc with hc | hc
  · rw [hblank] at hc
    exact absurd hc (by simp)
  · exact hc hstep

theorem tokenPieces_eq (h : IsBareWord t) (depth : Int) : tokenPieces depth t = [t] := by
  refine tokenPieces_of_no_separator (List.any_eq_false.mpr fun c hc hseparator => ?_)
  exact h.not_mem (Or.inl (isSeparator_spec hseparator).1) hc

theorem depthAfter_eq (h : IsBareWord t) (depth : Int) : depthAfter depth t = depth := by
  have hopen : t.count '(' = 0 := List.count_eq_zero.mpr (h.not_mem (Or.inr (by decide)))
  have hclose : t.count ')' = 0 := List.count_eq_zero.mpr (h.not_mem (Or.inr (by decide)))
  rw [depthAfter_eq_count, hopen, hclose]
  omega

theorem trimStart_append (h : IsBareWord t) (rest : Text) : trimStart (t ++ rest) = t ++ rest := by
  obtain ⟨c, u, rfl⟩ := List.exists_cons_of_ne_nil h.ne_nil
  exact trimStart_append_cons (h.plain c List.mem_cons_self).1 [] (u ++ rest)

theorem trimEnd_append (h : IsBareWord t) (before rest : Text) :
    trimEnd (before ++ (t ++ rest)) = before ++ (t ++ trimEnd rest) := by
  obtain ⟨u, c, rfl⟩ := (List.eq_nil_or_concat' t).resolve_left h.ne_nil
  have hc := (h.plain c (by simp)).1
  have hend := trimEnd_append_cons hc (before ++ u) rest
  simpa using hend

/-- **A bare word at the start is the first token**, and the other ones do not depend on it. -/
theorem tokens_append (h : IsBareWord t) (rest : Text) :
    tokens (t ++ ' ' :: rest) = t :: (tokenPieces 0 (trimEnd rest)).filter (!·.isEmpty) := by
  have htrim : trim (t ++ ' ' :: rest) = t ++ trimEnd (' ' :: rest) := by
    rw [trim, h.trimStart_append]
    exact h.trimEnd_append [] (' ' :: rest)
  have hne : (!t.isEmpty) = true := by simpa using h.ne_nil
  rw [tokens, ← tokenPieces, htrim, trimEnd_cons_of_isBlank (by decide)]
  split
  · next hnil =>
    rw [List.append_nil, h.tokenPieces_eq, hnil]
    exact List.filter_cons_of_pos hne
  · have hdepth := h.depthAfter_eq 0
    rw [tokenPieces_append_gap (c := ' ') rfl (Int.le_of_eq hdepth), hdepth, h.tokenPieces_eq,
      List.singleton_append]
    exact List.filter_cons_of_pos hne

/-- **A bare word at the start is the first word.** -/
theorem words_append (h : IsBareWord t) (rest : Text) :
    words (t ++ ' ' :: rest) = t :: words rest := by
  have hblank : ∀ c ∈ t, isBlank c = false := fun c hc => (h.plain c hc).1
  rw [words_append_cons (by decide), words, List.splitOnP_eq_singleton hblank,
    List.filter_cons_of_pos (by simpa using h.ne_nil)]
  rfl

end IsBareWord

/-- Two bare words are two pieces, or one where a parenthesis is open. -/
theorem tokenPieces_bareWords {a b : Text} (ha : IsBareWord a) (hb : IsBareWord b) (depth : Int) :
    tokenPieces depth (a ++ ' ' :: b) = if depth ≤ 0 then [a, b] else [a ++ ' ' :: b] := by
  obtain ⟨ps, p, q, qs, hpieces, hrest, hwhole⟩ := exists_tokenPieces_around_space depth a b
  rw [ha.depthAfter_eq] at hrest hwhole
  rw [ha.tokenPieces_eq, ← List.nil_append [a]] at hpieces
  rw [hb.tokenPieces_eq] at hrest
  obtain ⟨rfl, hlast⟩ := List.append_inj' hpieces rfl
  obtain ⟨rfl, -⟩ := List.cons.inj hlast
  obtain ⟨rfl, rfl⟩ := List.cons.inj hrest
  exact hwhole

/-! ### Names -/

namespace Identifier

variable {name : Text}

theorem isBareWord (h : isValid name = true) : IsBareWord name where
  ne_nil := by
    rintro rfl
    exact absurd h (by decide)
  plain := by
    intro c hc
    have hcontinuation := isContinuation_of_mem h hc
    have hascii := (isContinuation_spec hcontinuation).1
    revert hcontinuation
    exact forall_ascii
      (P := fun c => isContinuation c = true → isBlank c = false ∧ parenStep c = 0)
      (by decide) hascii

theorem quote_not_mem (h : isValid name = true) : '"' ∉ name := by
  intro hmem
  exact absurd (isContinuation_of_mem h hmem) (by decide)

/-- **All quotes around a valid name are taken off**, and nothing else. -/
theorem unquote_append (h : isValid name = true) {before after : Text}
    (hbefore : ∀ c ∈ before, c = '"') (hafter : ∀ c ∈ after, c = '"') :
    unquote (before ++ (name ++ after)) = name := by
  have hstop : ∀ {t : Text}, t ≠ [] → '"' ∉ t → ∀ more,
      (t ++ more).dropWhile (· == '"') = t ++ more := by
    intro t hne hquote more
    obtain ⟨c, u, rfl⟩ := List.exists_cons_of_ne_nil hne
    refine List.dropWhile_cons_of_neg fun hc => hquote ?_
    rw [eq_of_beq hc]
    exact List.mem_cons_self
  have hne := (isBareWord h).ne_nil
  have hquote := quote_not_mem h
  have hend := hstop (t := name.reverse) (by simpa using hne) (by simpa using hquote) []
  rw [List.append_nil] at hend
  rw [unquote, List.dropWhile_append_of_pos (by simpa using hbefore), hstop hne hquote,
    List.reverse_append, List.dropWhile_append_of_pos (by simpa using hafter), hend,
    List.reverse_reverse]

theorem unquote_of_isValid (h : isValid name = true) : unquote name = name := by
  have hnone : ∀ c ∈ ([] : Text), c = '"' := by simp
  have hname := unquote_append h hnone hnone
  rwa [List.nil_append, List.append_nil] at hname

end Identifier

end SchemaIntake
