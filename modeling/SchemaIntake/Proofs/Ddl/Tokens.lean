import SchemaIntake.Ddl.Nesting
import SchemaIntake.Proofs.Text.Casing
import SchemaIntake.Proofs.Text.Cutting
import SchemaIntake.Proofs.Text.Trimming

/-!
# Where the tokens of an element stand

Tokens are cut without regard to letters, while words are looked for in the upper case of the
whole element.  Two words that stand one space apart in an element end one token and start the
next one; or else a parenthesis is open between them, and they are part of one token.

## Main definitions

* `tokenPieces d t` — the pieces between the separators, the empty ones included.
* `depthAfter d t` — the depth of parentheses after a text.

## Main results

* `depthAfter_eq_count` — the depth is what can be counted in a text.
* `exists_eq_append_of_tokens` — the first token stands at the start of the element.
* `tokens_of_upper_eq` — **two words one space apart** are in neighbouring tokens or in one.
-/

namespace SchemaIntake

open Text

/-! ### Separators and parentheses -/

theorem isSeparator_cases {c : Char} (h : isSeparator c = true) :
    c = ' ' ∨ c = '\t' ∨ c = '\n' ∨ c = '\r' := by
  simpa [isSeparator, or_assoc] using h

/-- Separators are white space, and neither letters nor parentheses. -/
theorem isSeparator_spec {c : Char} (h : isSeparator c = true) :
    isBlank c = true ∧ c.toNat < 0x80 ∧ isLetter c = false ∧ parenStep c = 0 := by
  rcases isSeparator_cases h with rfl | rfl | rfl | rfl <;> decide

/-- The depth of parentheses after a text that starts at a given depth. -/
def depthAfter (depth : Int) (t : Text) : Int := t.foldl (fun depth c => depth + parenStep c) depth

theorem depthAfter_append (depth : Int) (a b : Text) :
    depthAfter depth (a ++ b) = depthAfter (depthAfter depth a) b := List.foldl_append

/-- The depth of parentheses is how many more are opened than closed. -/
theorem depthAfter_eq_count (depth : Int) (t : Text) :
    depthAfter depth t = depth + t.count '(' - t.count ')' := by
  induction t generalizing depth with
  | nil => simp [depthAfter]
  | cons c t ih =>
    change depthAfter (depth + parenStep c) t = _
    rw [ih, List.count_cons, List.count_cons, parenStep]
    by_cases hopen : c = '('
    · subst hopen
      simp
      omega
    · by_cases hclose : c = ')'
      · subst hclose
        simp
        omega
      · simp [hopen, hclose]

/-- Without an opening parenthesis the depth does not rise. -/
theorem depthAfter_le {t : Text} (h : '(' ∉ t) (depth : Int) : depthAfter depth t ≤ depth := by
  have hnone : t.count '(' = 0 := List.count_eq_zero.mpr h
  rw [depthAfter_eq_count]
  omega

/-- White space at the ends does not change the depth. -/
theorem depthAfter_trim (depth : Int) (t : Text) :
    depthAfter depth (trim t) = depthAfter depth t := by
  have hblank {c : Char} (hc : isBlank c = true) : parenStep c = 0 := by
    have hopen : c ≠ '(' := by rintro rfl; exact absurd hc (by decide)
    have hclose : c ≠ ')' := by rintro rfl; exact absurd hc (by decide)
    rw [parenStep, if_neg hopen, if_neg hclose]
  refine (trim_iff (P := fun u => depthAfter depth u = depthAfter depth t) ?_ ?_ t).mpr rfl
  · intro c hc u
    have hstep : depthAfter depth (c :: u) = depthAfter (depth + parenStep c) u := rfl
    rw [hstep, hblank hc, Int.add_zero]
  · intro c hc u
    have hstep : depthAfter depth (u ++ [c]) = depthAfter depth u + parenStep c :=
      depthAfter_append depth u [c]
    rw [hstep, hblank hc, Int.add_zero]

/-! ### The pieces between separators -/

/-- The pieces of a text between its separators, the empty ones included, when it starts at a
given depth. -/
def tokenPieces (depth : Int) (t : Text) : List Text :=
  cutWhere (fun depth c => depth + parenStep c) endsToken depth t

/-- The tokens of a trimmed element are its pieces that are not empty. -/
theorem tokens_eq {element : Text} (htrim : trim element = element) :
    tokens element = (tokenPieces 0 element).filter (!·.isEmpty) := by
  rw [tokens, htrim, tokenPieces]

theorem isSeparator_of_endsToken {depth : Int} {c : Char} (h : endsToken depth c = true) :
    isSeparator c = true := by
  rw [endsToken, Bool.and_eq_true] at h
  exact h.1

/-- The first piece is the whole text, or a separator where no parenthesis is open follows it. -/
theorem tokenPieces_eq_cons {depth : Int} {t p : Text} {ps : List Text}
    (h : tokenPieces depth t = p :: ps) : (t = p ∧ ps = []) ∨
      ∃ c rest, t = p ++ c :: rest ∧ isSeparator c = true ∧ depthAfter depth p ≤ 0 ∧
        ps = tokenPieces (depthAfter depth p) rest := by
  rcases cutWhere_eq_cons h with hwhole | ⟨c, rest, ht, hcut, hps⟩
  · exact Or.inl hwhole
  · right
    have hseparator := isSeparator_of_endsToken hcut
    have hdepth : depthAfter depth p ≤ 0 := by
      rw [endsToken, hseparator, Bool.true_and, decide_eq_true_eq] at hcut
      exact hcut
    refine ⟨c, rest, ht, hseparator, hdepth, ?_⟩
    rw [hps, (isSeparator_spec hseparator).2.2.2, Int.add_zero]
    rfl

/-- A text without separators is a single piece. -/
theorem tokenPieces_of_no_separator {depth : Int} {t : Text} (h : t.any isSeparator = false) :
    tokenPieces depth t = [t] := by
  obtain ⟨p, ps, hpieces⟩ := List.exists_cons_of_ne_nil (cutWhere_ne_nil _ _ _ t)
  rcases tokenPieces_eq_cons hpieces with ⟨rfl, rfl⟩ | ⟨c, rest, rfl, hc, -⟩
  · exact hpieces
  · exact absurd hc (List.any_eq_false.mp h c (by simp))

/-- Within a piece a separator stands after an opening parenthesis. -/
theorem open_mem_of_mem_tokenPieces {depth : Int} (hdepth : depth ≤ 0) {t a b : Text} {x : Char}
    (h : a ++ x :: b ∈ tokenPieces depth t) (hx : isSeparator x = true) : '(' ∈ a := by
  generalize hps : tokenPieces depth t = ps at h
  induction ps generalizing depth t with
  | nil => exact absurd h List.not_mem_nil
  | cons p ps ih =>
    rcases List.mem_cons.mp h with rfl | h
    · by_contra hopen
      have hle := depthAfter_le hopen depth
      have huncut : endsToken (depthAfter depth a) x = false := not_isCut_of_cutWhere hps
      rw [endsToken, hx, Bool.true_and, decide_eq_false_iff_not] at huncut
      omega
    · -- the next piece starts at the depth of the separator before it
      rcases tokenPieces_eq_cons hps with ⟨-, rfl⟩ | ⟨c, rest, -, -, hnext, hrest⟩
      · exact absurd h List.not_mem_nil
      · exact ih hnext hrest.symm h

theorem open_mem_of_mem_tokens {element a b : Text} {x : Char} (h : a ++ x :: b ∈ tokens element)
    (hx : isSeparator x = true) : '(' ∈ a :=
  open_mem_of_mem_tokenPieces (Int.le_refl 0) (List.mem_filter.mp h).1 hx

/-- **The first token stands at the start of the element**, and a separator comes after it if
anything does. -/
theorem exists_eq_append_of_tokens {element token : Text} {rest : List Text}
    (htrim : trim element = element) (h : tokens element = token :: rest) :
    ∃ after, element = token ++ after ∧ ∀ c ∈ after.head?, isSeparator c = true := by
  obtain ⟨p, ps, hpieces⟩ := exists_cutWhere_eq_cons (fun depth c => depth + parenStep c)
    endsToken (0 : Int) element
  have hfirst : p ≠ [] → p = token := by
    intro hp
    rw [tokens_eq htrim, tokenPieces, hpieces, List.filter_cons_of_pos (by simpa using hp)] at h
    exact (List.cons.inj h).1
  rcases cutWhere_eq_cons hpieces with ⟨rfl, rfl⟩ | ⟨c, after, helement, hcut, -⟩
  · have hne : element ≠ [] := by
      rintro rfl
      simp [tokens_eq htrim, tokenPieces, hpieces] at h
    exact ⟨[], by rw [hfirst hne, List.append_nil], by simp⟩
  · have hseparator := isSeparator_of_endsToken hcut
    have hne : p ≠ [] := by
      -- a trimmed element does not start with a separator
      rintro rfl
      have hblank := (trim_eq_self_iff.mp htrim).1 c (by simp [helement])
      rw [(isSeparator_spec hseparator).1] at hblank
      exact absurd hblank (by simp)
    refine ⟨c :: after, ?_, by simpa using hseparator⟩
    rw [helement, hfirst hne]

/-! ### Words at the end and at the start of texts -/

/-- A word without the character `x` that ends a text stands after the last `x`. -/
theorem suffix_of_suffix_append_cons {w s t : Text} {x : Char} (hx : x ∉ w)
    (h : w <:+ s ++ x :: t) : w <:+ t := by
  rcases List.suffix_or_suffix_of_suffix h (List.suffix_append s (x :: t)) with hw | hw
  · rcases List.suffix_cons_iff.mp hw with rfl | hw
    · exact absurd List.mem_cons_self hx
    · exact hw
  · exact absurd (hw.subset List.mem_cons_self) hx

/-- A word without the character `x` that starts a text stands before the first `x`. -/
theorem prefix_of_prefix_append_cons {w s t : Text} {x : Char} (hx : x ∉ w)
    (h : w <+: s ++ x :: t) : w <+: s := by
  rw [List.append_cons] at h
  rcases List.prefix_or_prefix_of_prefix h (List.prefix_append (s ++ [x]) t) with hw | hw
  · rcases List.prefix_concat_iff.mp hw with rfl | hw
    · exact absurd (List.mem_append_right s (List.mem_singleton_self x)) hx
    · exact hw
  · exact absurd (hw.subset (List.mem_append_right s (List.mem_singleton_self x))) hx

/-- A text falls apart at the first `x` in it in one way only. -/
theorem eq_of_append_cons {a a' b b' : Text} {x : Char} (ha : x ∉ a) (ha' : x ∉ a')
    (h : a ++ x :: b = a' ++ x :: b') : a = a' ∧ b = b' := by
  have hprefix : a <+: a' := prefix_of_prefix_append_cons ha (h ▸ List.prefix_append a (x :: b))
  have hprefix' : a' <+: a := prefix_of_prefix_append_cons ha' (h ▸ List.prefix_append a' (x :: b'))
  obtain rfl := hprefix.eq_of_length_le hprefix'.length_le
  exact ⟨rfl, (List.cons.inj (List.append_cancel_left h)).2⟩

theorem upperChar_of_isSeparator {c : Char} (hc : isSeparator c = true) : upperChar c = [c] := by
  rcases isSeparator_cases hc with rfl | rfl | rfl | rfl <;> decide

/-- Upper case leaves a separator where it is. -/
theorem upper_append_separator {c : Char} (hc : isSeparator c = true) (a b : Text) :
    upper (a ++ c :: b) = upper a ++ c :: upper b := by
  rw [upper_append, upper_cons, upperChar_of_isSeparator hc, List.singleton_append]

/-! ### The first token -/

section FirstToken

variable {element token : Text} {rest : List Text} (htrim : trim element = element)
  (htokens : tokens element = token :: rest)

include htrim htokens

/-- A word without separators starts an element if it starts the first token. -/
theorem prefix_upper_first_token_iff {w : Text} (hw : w.any isSeparator = false) :
    w <+: upper element ↔ w <+: upper token := by
  obtain ⟨after, rfl, hafter⟩ := exists_eq_append_of_tokens htrim htokens
  cases after with
  | nil => rw [List.append_nil]
  | cons c after =>
    have hc := hafter c rfl
    rw [upper_append_separator hc]
    have hmem : c ∉ w := fun hmem => List.any_eq_false.mp hw c hmem hc
    exact ⟨prefix_of_prefix_append_cons hmem, fun h => h.trans (List.prefix_append _ _)⟩

/-- If a word and a space start an element, the word is the first token, unless that token holds
a separator. -/
theorem upper_first_token_eq {w : Text} (hw : w.any isSeparator = false)
    (htoken : token.any isSeparator = false) (h : w ++ [' '] <+: upper element) :
    upper token = w := by
  obtain ⟨after, rfl, hafter⟩ := exists_eq_append_of_tokens htrim htokens
  obtain ⟨v, hv⟩ := h
  rw [List.append_assoc, List.singleton_append] at hv
  obtain ⟨a, b, hab, rfl, -⟩ :=
    exists_of_upper_eq_append_cons (by decide) (by decide) hv.symm
  rcases List.append_eq_append_iff.mp hab with ⟨r, rfl, hr⟩ | ⟨r, rfl, hr⟩
  · cases r with
    | nil => rw [List.append_nil]
    | cons c r =>
      -- a separator would stand in the word
      have hc := hafter c (by rw [hr]; rfl)
      have hmem := mem_upper_of_mem (upperChar_of_isSeparator hc) (t := token ++ c :: r) (by simp)
      exact absurd hc (List.any_eq_false.mp hw c hmem)
  · cases r with
    | nil => rw [List.append_nil]
    | cons c r =>
      -- the space would stand in the token
      obtain ⟨rfl, -⟩ := List.cons.inj hr
      exact absurd rfl (List.any_eq_false.mp htoken ' ' (by simp))

end FirstToken

/-! ### Two words one space apart -/

variable {depth : Int} {t p w : Text} {ps : List Text}

/-- A word without separators that ends a text ends its last piece. -/
theorem suffix_upper_last_piece (hw : w.any isSeparator = false) (h : w <:+ upper t)
    (hpieces : tokenPieces depth t = ps ++ [p]) : w <:+ upper p := by
  rcases cutWhere_eq_concat hpieces with ⟨rfl, -⟩ | ⟨r, c, rfl, hcut, -⟩
  · exact h
  · have hc := isSeparator_of_endsToken hcut
    rw [upper_append_separator hc] at h
    exact suffix_of_suffix_append_cons (fun hmem => List.any_eq_false.mp hw c hmem hc) h

/-- A word without separators that starts a text starts its first piece. -/
theorem prefix_upper_first_piece (hw : w.any isSeparator = false) (h : w <+: upper t)
    (hpieces : tokenPieces depth t = p :: ps) : w <+: upper p := by
  rcases cutWhere_eq_cons hpieces with ⟨rfl, -⟩ | ⟨c, r, rfl, hcut, -⟩
  · exact h
  · have hc := isSeparator_of_endsToken hcut
    rw [upper_append_separator hc] at h
    exact prefix_of_prefix_append_cons (fun hmem => List.any_eq_false.mp hw c hmem hc) h

/-- If parentheses are open after a text, one was opened in its last piece: none is open where
the piece starts. -/
theorem paren_mem_last_piece (hdepth : depth ≤ 0) (h : 0 < depthAfter depth t)
    (hpieces : tokenPieces depth t = ps ++ [p]) : '(' ∈ p := by
  by_contra hp
  rcases cutWhere_eq_concat hpieces with ⟨rfl, -⟩ | ⟨r, c, rfl, hcut, -⟩
  · have := depthAfter_le hp depth
    omega
  · have hr : depthAfter depth r ≤ 0 := by
      rw [endsToken, Bool.and_eq_true, decide_eq_true_eq] at hcut
      exact hcut.2
    have hlast : depthAfter depth (r ++ c :: p) = depthAfter (depthAfter depth r + 0) p := by
      rw [← (isSeparator_spec (isSeparator_of_endsToken hcut)).2.2.2]
      exact List.foldl_append
    have := depthAfter_le hp (depthAfter depth r + 0)
    omega

/-- The pieces around a space: it separates two, unless parentheses are open. -/
theorem exists_tokenPieces_around_space (depth : Int) (a b : Text) : ∃ ps p q qs,
    tokenPieces depth a = ps ++ [p] ∧ tokenPieces (depthAfter depth a) b = q :: qs ∧
      tokenPieces depth (a ++ ' ' :: b) =
        if depthAfter depth a ≤ 0 then ps ++ p :: q :: qs else ps ++ (p ++ ' ' :: q) :: qs := by
  obtain ⟨ps, p, r, rs, ha, hspace, hwhole⟩ :=
    exists_cutWhere_append (fun depth c => depth + parenStep c) endsToken depth a (' ' :: b)
  obtain ⟨q, qs, hb⟩ := exists_cutWhere_eq_cons (fun depth c => depth + parenStep c) endsToken
    (depthAfter depth a) b
  have hstep : depthAfter depth a + parenStep ' ' = depthAfter depth a := Int.add_zero _
  change cutWhere _ endsToken (depthAfter depth a) (' ' :: b) = r :: rs at hspace
  refine ⟨ps, p, q, qs, ha, hb, ?_⟩
  -- whether the blank separates
  split
  · next hdepth =>
    rw [cutWhere_cons_of_cut (by simpa [endsToken, isSeparator] using hdepth), hstep, hb] at hspace
    obtain ⟨rfl, rfl⟩ := List.cons.inj hspace
    rw [tokenPieces, hwhole, List.append_nil]
  · next hdepth =>
    rw [cutWhere_cons_of_keep (by simpa [endsToken, isSeparator] using hdepth)
      (by rw [hstep]; exact hb)] at hspace
    obtain ⟨rfl, rfl⟩ := List.cons.inj hspace
    rw [tokenPieces, hwhole]

theorem ne_nil_of_upper_ne_nil {t : Text} (h : upper t ≠ []) : t ≠ [] := by
  rintro rfl
  exact h rfl

/-- **Two words one space apart** end one token and start the next one, or stand in one token in
which a parenthesis is opened. -/
theorem tokens_of_upper_eq {element u v w x : Text} (htrim : trim element = element)
    (hw : w.any isSeparator = false) (hx : x.any isSeparator = false)
    (hwne : w ≠ []) (hxne : x ≠ []) (h : upper element = u ++ w ++ ' ' :: (x ++ v)) :
    (∃ before p q after, tokens element = before ++ p :: q :: after ∧
      w <:+ upper p ∧ x <+: upper q) ∨
    ∃ token ∈ tokens element, '(' ∈ token ∧ w ++ ' ' :: x <:+: upper token := by
  obtain ⟨a, b, rfl, ha, hb⟩ := exists_of_upper_eq_append_cons (by decide) (by decide) h
  obtain ⟨ps, p, q, qs, hpieces, hrest, hwhole⟩ := exists_tokenPieces_around_space 0 a b
  have hp : w <:+ upper p := suffix_upper_last_piece hw (by rw [ha]; simp) hpieces
  have hq : x <+: upper q := prefix_upper_first_piece hx (by rw [hb]; simp) hrest
  rw [tokens_eq htrim, hwhole]
  split
  · -- neither piece is empty, so both are tokens
    have hpne : p ≠ [] := ne_nil_of_upper_ne_nil (hp.ne_nil hwne)
    have hqne : q ≠ [] := ne_nil_of_upper_ne_nil (hq.ne_nil hxne)
    refine Or.inl ⟨ps.filter (!·.isEmpty), p, q, qs.filter (!·.isEmpty), ?_, hp, hq⟩
    simp [hpne, hqne]
  · next hdepth =>
    have hparen := paren_mem_last_piece (Int.le_refl 0) (by omega) hpieces
    refine Or.inr ⟨p ++ ' ' :: q, by simp, by simp [hparen], ?_⟩
    obtain ⟨s, hs⟩ := hp
    obtain ⟨r, hr⟩ := hq
    refine ⟨s, r, ?_⟩
    rw [upper_append_separator (by decide), ← hs, ← hr]
    simp

end SchemaIntake
