import SchemaIntake.Proofs.Ddl.Tokens
import SchemaIntake.Proofs.Text.Positions

/-!
# Where an element is cut into tokens

A separator stands between tokens if the parentheses before it are not more often opened than
closed; any other separator is part of a token.  The tokens are the texts between such separators.
One space between two tokens is as good as any run of separators: what stands behind it is read at
the same depth of parentheses.

## Main definitions

* `tokenGaps t` — the positions of the separators that belong to no token.

## Main results

* `mem_tokenGaps_iff` — **which separators belong to no token**, by counting.
* `tokenPieces_append_gap` — two texts with a gap between them are cut on their own.
* `tokens_join_tokens` — **tokens one space apart** are the same tokens again.
* `tokens_between_gaps` — **the tokens of any element**.
-/

namespace SchemaIntake

open Text

/-! ### Gaps -/

theorem isSeparator_iff {c : Char} : isSeparator c = true ↔ c ∈ [' ', '\t', '\n', '\r'] := by
  simp [isSeparator, or_assoc]

/-- The positions of the separators that belong to no token. -/
def tokenGaps (t : Text) : List Nat :=
  positionsWhere (fun before c => endsToken (depthAfter 0 before) c) t

/-- **Which separators belong to no token**: those with at least as many closing as opening
parentheses before them. -/
theorem mem_tokenGaps_iff {t : Text} {i : Nat} : i ∈ tokenGaps t ↔
    (∃ c ∈ [' ', '\t', '\n', '\r'], t[i]? = some c) ∧
      (t.take i).count '(' ≤ (t.take i).count ')' := by
  have hcut (before : Text) (c : Char) : endsToken (depthAfter 0 before) c = true ↔
      c ∈ [' ', '\t', '\n', '\r'] ∧ before.count '(' ≤ before.count ')' := by
    rw [endsToken, depthAfter_eq_count, Bool.and_eq_true, decide_eq_true_eq, isSeparator_iff]
    refine and_congr_right fun _ => ?_
    omega
  unfold tokenGaps
  rw [mem_positionsWhere]
  constructor
  · rintro ⟨c, hc, hgap⟩
    obtain ⟨hseparator, hcounts⟩ := (hcut _ c).mp hgap
    exact ⟨⟨c, hseparator, hc⟩, hcounts⟩
  · rintro ⟨⟨c, hseparator, hc⟩, hcounts⟩
    exact ⟨c, hc, (hcut _ c).mpr ⟨hseparator, hcounts⟩⟩

theorem tokenPieces_eq_stretches (t : Text) : tokenPieces 0 t = stretches t (tokenGaps t) :=
  cutWhere_eq_stretches (fun depth c => depth + parenStep c) endsToken 0 t

/-! ### Tokens put together -/

/-- **Two texts with a gap between them** are cut on their own, the second one at the depth that the
first one leaves. -/
theorem tokenPieces_append_gap {depth : Int} {a : Text} {c : Char} (hc : isSeparator c = true)
    (ha : depthAfter depth a ≤ 0) (b : Text) :
    tokenPieces depth (a ++ c :: b) =
      tokenPieces depth a ++ tokenPieces (depthAfter depth a) b := by
  have hcut : endsToken (depthAfter depth a) c = true := by simp [endsToken, hc, ha]
  have hstep : depthAfter depth a + parenStep c = depthAfter depth a := by
    rw [(isSeparator_spec hc).2.2.2, Int.add_zero]
  unfold tokenPieces
  rw [cutWhere_append_of_cut hcut b]
  exact congrArg (fun depth' => _ ++ cutWhere _ endsToken depth' b) hstep

/-- The pieces of a text that are not empty are those of what they give one space apart. -/
theorem filter_tokenPieces_join (depth : Int) (t : Text) :
    (tokenPieces depth (join [' '] ((tokenPieces depth t).filter (!·.isEmpty)))).filter
      (!·.isEmpty) = (tokenPieces depth t).filter (!·.isEmpty) := by
  generalize hpieces : tokenPieces depth t = pieces
  induction pieces generalizing depth t with
  | nil => exact absurd hpieces (cutWhere_ne_nil _ _ _ t)
  | cons p ps ih =>
    have hsingle : tokenPieces depth p = [p] := cutWhere_first_piece hpieces
    by_cases hp : p = []
    · -- an empty piece leaves the depth as it is
      subst hp
      rw [List.filter_cons_of_neg (by simp)]
      rcases tokenPieces_eq_cons hpieces with ⟨-, rfl⟩ | ⟨c, rest, -, -, -, hps⟩
      · rfl
      · exact ih depth rest hps.symm
    · rw [List.filter_cons_of_pos (by simpa using hp)]
      cases hrest : ps.filter (!·.isEmpty) with
      | nil =>
        rw [join, List.intercalate_singleton, hsingle, List.filter_cons_of_pos (by simpa using hp),
          List.filter_nil]
      | cons q qs =>
        rcases tokenPieces_eq_cons hpieces with ⟨-, rfl⟩ | ⟨c, rest, -, -, hdepth, hps⟩
        · exact absurd hrest (by simp)
        · have hjoin := ih (depthAfter depth p) rest hps.symm
          rw [hrest] at hjoin
          rw [join_cons_cons, List.append_assoc, List.singleton_append,
            tokenPieces_append_gap rfl hdepth, hsingle, List.filter_append, hjoin,
            List.filter_cons_of_pos (by simpa using hp), List.filter_nil, List.singleton_append]

/-- The last token ends a trimmed element. -/
theorem exists_eq_append_of_tokens_concat {element token : Text} {earlier : List Text}
    (htrim : trim element = element) (h : tokens element = earlier ++ [token]) :
    ∃ before, element = before ++ token := by
  obtain ⟨ps, p, hpieces⟩ : ∃ ps p, tokenPieces 0 element = ps ++ [p] :=
    ⟨_, _, (List.dropLast_append_getLast (cutWhere_ne_nil _ _ _ element)).symm⟩
  rw [tokens_eq htrim, hpieces, List.filter_append] at h
  by_cases hp : p = []
  · subst hp
    exfalso
    rcases cutWhere_eq_concat hpieces with ⟨rfl, rfl⟩ | ⟨r, c, rfl, hcut, -⟩
    · exact absurd h (by simp)
    · -- a trimmed element does not end with a separator
      have hseparator := isSeparator_of_endsToken hcut
      have hblank := (trim_eq_self_iff.mp htrim).2 c (by simp)
      rw [(isSeparator_spec hseparator).1] at hblank
      exact absurd hblank (by simp)
  · have hlast : [p].filter (!·.isEmpty) = [p] := List.filter_cons_of_pos (by simpa using hp)
    rw [hlast] at h
    obtain ⟨-, htoken⟩ := List.append_inj' h rfl
    obtain rfl : p = token := by simpa using htoken
    rcases cutWhere_eq_concat hpieces with ⟨rfl, -⟩ | ⟨r, c, rfl, -, -⟩
    · exact ⟨[], rfl⟩
    · exact ⟨r ++ [c], by simp⟩

/-- The tokens of an element one space apart have no white space at their ends. -/
theorem trim_join_tokens (element : Text) :
    trim (join [' '] (tokens element)) = join [' '] (tokens element) := by
  have htokens : tokens (trim element) = tokens element := by rw [tokens, trim_trim, tokens]
  have hends := trim_eq_self_iff.mp (trim_trim element)
  by_cases hnil : tokens element = []
  · rw [hnil]
    rfl
  -- the first token starts the element, and the last one ends it
  · rw [trim_eq_self_iff]
    constructor
    · obtain ⟨token, rest, hfirst⟩ := List.exists_cons_of_ne_nil hnil
      have hne : token ≠ [] := ne_nil_of_mem_tokens (show token ∈ tokens element by simp [hfirst])
      obtain ⟨after, helement, -⟩ :=
        exists_eq_append_of_tokens (trim_trim element) (htokens.trans hfirst)
      have hhead := hends.1
      rw [helement, List.head?_append_of_ne_nil _ hne] at hhead
      rw [hfirst, head?_join _ hne]
      exact hhead
    · obtain ⟨earlier, token, hlast⟩ : ∃ earlier token, tokens element = earlier ++ [token] :=
        ⟨_, _, (List.dropLast_append_getLast hnil).symm⟩
      have hne : token ≠ [] := ne_nil_of_mem_tokens (show token ∈ tokens element by simp [hlast])
      obtain ⟨before, helement⟩ :=
        exists_eq_append_of_tokens_concat (trim_trim element) (htokens.trans hlast)
      have hgetLast := hends.2
      rw [helement, List.getLast?_append_of_ne_nil _ hne] at hgetLast
      rw [hlast, getLast?_join _ hne]
      exact hgetLast

/-- **Tokens one space apart** are the same tokens again. -/
theorem tokens_join_tokens (element : Text) :
    tokens (join [' '] (tokens element)) = tokens element := by
  rw [tokens_eq (trim_join_tokens element)]
  exact filter_tokenPieces_join 0 (trim element)

/-! ### The tokens of any element -/

/-- **The tokens of any element** are the texts between its gaps that are not empty; a separator
stands in a token behind an opening parenthesis only, and the tokens one space apart are the same
tokens again. -/
theorem tokens_between_gaps (element : Text) :
    (∀ i, i ∈ tokenGaps (trim element) ↔
      (∃ c ∈ [' ', '\t', '\n', '\r'], (trim element)[i]? = some c) ∧
        ((trim element).take i).count '(' ≤ ((trim element).take i).count ')') ∧
    tokens element =
      (stretches (trim element) (tokenGaps (trim element))).filter (!·.isEmpty) ∧
    (∀ token ∈ tokens element, token ≠ [] ∧ ∀ before c after, token = before ++ c :: after →
      c ∈ [' ', '\t', '\n', '\r'] → '(' ∈ before) ∧
    tokens (join [' '] (tokens element)) = tokens element := by
  refine ⟨fun i => mem_tokenGaps_iff, ?_, ?_, tokens_join_tokens element⟩
  · rw [← tokenPieces_eq_stretches]
    rfl
  · intro token hmem
    refine ⟨ne_nil_of_mem_tokens hmem, ?_⟩
    rintro before c after rfl hc
    exact open_mem_of_mem_tokenPieces (Int.le_refl 0) (List.mem_filter.mp hmem).1
      (isSeparator_iff.mpr hc)

/-- A parenthesised part with a space in it, and one that is closed more often than opened. -/
theorem tokens_of_fused_part :
    let element := "\u00a0 price\tDECIMAL(10, 2)\r\n NOT NULL) (x y".toList
    tokens element = ["price", "DECIMAL(10, 2)", "NOT", "NULL)", "(x", "y"].map String.toList ∧
      '(' ∈ "DECIMAL(10,".toList ∧ tokens (join [' '] (tokens element)) = tokens element := by
  intro element
  have htokens : tokens element =
      ["price", "DECIMAL(10, 2)", "NOT", "NULL)", "(x", "y"].map String.toList := by
    decide +kernel
  have hmem : "DECIMAL(10, 2)".toList ∈ tokens element := by
    rw [htokens]
    decide
  obtain ⟨-, -, hopen, hagain⟩ := tokens_between_gaps element
  exact ⟨htokens, (hopen _ hmem).2 "DECIMAL(10,".toList ' ' "2)".toList rfl (by decide), hagain⟩

end SchemaIntake
