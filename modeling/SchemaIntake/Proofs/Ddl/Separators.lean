import SchemaIntake.Proofs.Ddl.Statements
import SchemaIntake.Proofs.Ddl.Tokens
import SchemaIntake.Proofs.Text.Trimming

/-!
# Runs of separators

What is left of a text when the kind of its white space is put aside: every run of separators
becomes one space.  Two texts that differ in nothing but such runs have the same left.  Whatever
looks at a text character by character and treats a run of separators like its first one commutes
with that: it may be done before or after.

## Main definitions

* `squeezed t` — the text with one space for every run of separators.

## Main results

* `spacing_induction` — induction over a text that takes a run of separators apart.
* `squeezed_replace` — **replacing a run of separators** by another one.
* `squeezed_append_cons`, `squeezed_reverse` — texts put together, and read from the end.
* `trim_squeezed`, `words_squeezed`, `cutWhere_squeezed`, `throughFirst?_squeezed` — trimming,
  words, cutting and looking for a character.
-/

namespace SchemaIntake

open Text

/-- Whether a separator stands at the start of a text. -/
def startsSpaced (t : Text) : Bool := t.head?.any isSeparator

/-- A text with one space for every run of separators: what is left of it when the kind of its
white space is put aside. -/
def squeezed : Text → Text
  | [] => []
  | c :: rest =>
    if isSeparator c then if startsSpaced rest then squeezed rest else ' ' :: squeezed rest
    else c :: squeezed rest

@[simp] theorem squeezed_nil : squeezed [] = [] := rfl

variable {c d : Char} {t a b : Text}

theorem squeezed_cons (h : isSeparator c = false) (t : Text) :
    squeezed (c :: t) = c :: squeezed t := by
  rw [squeezed, if_neg (by simp [h])]

/-- All but the last one of a run of separators are dropped. -/
theorem squeezed_more (hc : isSeparator c = true) (hd : isSeparator d = true) (t : Text) :
    squeezed (c :: d :: t) = squeezed (d :: t) := by
  rw [squeezed, if_pos hc, if_pos (by exact hd)]

/-- The last one becomes a space. -/
theorem squeezed_last (hc : isSeparator c = true) (ht : startsSpaced t = false) :
    squeezed (c :: t) = ' ' :: squeezed t := by
  rw [squeezed, if_pos hc, if_neg (by simp [ht])]

theorem startsSpaced_cons (c : Char) (t : Text) : startsSpaced (c :: t) = isSeparator c := rfl

/-- Induction over a text that takes a run of separators apart. -/
@[elab_as_elim]
theorem spacing_induction {P : Text → Prop} (nil : P [])
    (char : ∀ c t, isSeparator c = false → P t → P (c :: t))
    (more : ∀ c d t, isSeparator c = true → isSeparator d = true → P (d :: t) → P (c :: d :: t))
    (last : ∀ c t, isSeparator c = true → startsSpaced t = false → P t → P (c :: t))
    (t : Text) : P t := by
  induction t with
  | nil => exact nil
  | cons c t ih =>
    cases hc : isSeparator c with
    | false => exact char c t hc ih
    | true =>
      cases t with
      | nil => exact last c [] hc rfl ih
      | cons d t =>
        cases hd : isSeparator d with
        | true => exact more c d t hc hd ih
        | false => exact last c (d :: t) hc hd ih

/-- A run of separators leaves a space at its place. -/
theorem exists_squeezed_eq (hc : isSeparator c = true) (t : Text) :
    ∃ u, squeezed (c :: t) = ' ' :: u := by
  induction t generalizing c with
  | nil => exact ⟨[], squeezed_last hc rfl⟩
  | cons d t ih =>
    cases hd : isSeparator d with
    | true =>
      rw [squeezed_more hc hd]
      exact ih hd
    | false => exact ⟨squeezed (d :: t), squeezed_last hc hd⟩

theorem startsSpaced_squeezed (t : Text) : startsSpaced (squeezed t) = startsSpaced t := by
  cases t with
  | nil => rfl
  | cons c t =>
    cases hc : isSeparator c with
    | false => rw [squeezed_cons hc, startsSpaced_cons, startsSpaced_cons]
    | true =>
      obtain ⟨u, hu⟩ := exists_squeezed_eq hc t
      rw [hu, startsSpaced_cons, startsSpaced_cons, hc]
      rfl

/-! ### Replacing runs -/

/-- What stands before a text makes no difference. -/
theorem squeezed_append_congr (h : squeezed a = squeezed b) (before : Text) :
    squeezed (before ++ a) = squeezed (before ++ b) := by
  have hstart : startsSpaced a = startsSpaced b := by
    rw [← startsSpaced_squeezed a, h, startsSpaced_squeezed]
  induction before with
  | nil => exact h
  | cons c before ih =>
    have hrest : startsSpaced (before ++ a) = startsSpaced (before ++ b) := by
      cases before with
      | nil => exact hstart
      | cons d before => rfl
    rw [List.cons_append, List.cons_append, squeezed, squeezed, hrest, ih]

/-- A run of separators is as good as one space. -/
theorem squeezed_run_append {run : Text} (hne : run ≠ []) (hrun : run.all isSeparator = true)
    (after : Text) : squeezed (run ++ after) = squeezed (' ' :: after) := by
  induction run with
  | nil => exact absurd rfl hne
  | cons c run ih =>
    rw [List.all_cons, Bool.and_eq_true] at hrun
    cases run with
    | nil =>
      rw [List.singleton_append, squeezed, squeezed, if_pos hrun.1]
      rfl
    | cons d run =>
      have hd : isSeparator d = true := by
        rw [List.all_cons, Bool.and_eq_true] at hrun
        exact hrun.2.1
      rw [List.cons_append, List.cons_append, squeezed_more hrun.1 hd]
      exact ih (List.cons_ne_nil d run) hrun.2

/-- **Replacing a run of separators**, or a part of one, by another run leaves the same text. -/
theorem squeezed_replace {run run' : Text} (hne : run ≠ []) (hrun : run.all isSeparator = true)
    (hne' : run' ≠ []) (hrun' : run'.all isSeparator = true) (before after : Text) :
    squeezed (before ++ run ++ after) = squeezed (before ++ run' ++ after) := by
  rw [List.append_assoc, List.append_assoc]
  refine squeezed_append_congr ?_ before
  -- either run is as good as one space
  rw [squeezed_run_append hne hrun, squeezed_run_append hne' hrun']

/-! ### Characters -/

/-- A character that is no separator is where it was. -/
theorem squeezed_append_cons (hc : isSeparator c = false) (a b : Text) :
    squeezed (a ++ c :: b) = squeezed a ++ c :: squeezed b := by
  induction a using spacing_induction with
  | nil => exact squeezed_cons hc b
  | char d a hd ih =>
    rw [List.cons_append, squeezed_cons hd, ih, squeezed_cons hd, List.cons_append]
  | more d e a hd he ih =>
    rw [List.cons_append, List.cons_append, squeezed_more hd he, ← List.cons_append, ih,
      squeezed_more hd he]
  | last d a hd ha ih =>
    have hstart : startsSpaced (a ++ c :: b) = false := by
      cases a with
      | nil => exact hc
      | cons e a => exact ha
    rw [List.cons_append, squeezed_last hd hstart, ih, squeezed_last hd ha, List.cons_append]

theorem mem_squeezed_iff (hc : isSeparator c = false) : c ∈ squeezed t ↔ c ∈ t := by
  have hspace : ∀ d, isSeparator d = true → c ≠ d := by
    rintro d hd rfl
    exact absurd hd (by simp [hc])
  induction t using spacing_induction with
  | nil => exact Iff.rfl
  | char d t hd ih => simp only [squeezed_cons hd, List.mem_cons, ih]
  | more d e t hd he ih =>
    rw [squeezed_more hd he]
    simpa only [List.mem_cons, hspace d hd, false_or] using ih
  | last d t hd ht ih =>
    simp only [squeezed_last hd ht, List.mem_cons, hspace d hd, hspace ' ' rfl, false_or, ih]

/-- There are separators left exactly if there were any. -/
theorem any_isSeparator_squeezed (t : Text) :
    (squeezed t).any isSeparator = t.any isSeparator := by
  induction t using spacing_induction with
  | nil => rfl
  | char c t hc ih => rw [squeezed_cons hc, List.any_cons, List.any_cons, ih]
  | more c d t hc hd ih => rw [squeezed_more hc hd, ih, List.any_cons, List.any_cons, hc, hd]; rfl
  | last c t hc ht ih => rw [squeezed_last hc ht, List.any_cons, List.any_cons, hc]; rfl

/-- A text without separators stays as it is. -/
theorem squeezed_eq_self (h : t.any isSeparator = false) : squeezed t = t := by
  induction t with
  | nil => rfl
  | cons c t ih =>
    rw [List.any_cons, Bool.or_eq_false_iff] at h
    rw [squeezed_cons h.1, ih h.2]

/-- A text without separators is left by no other one. -/
theorem squeezed_eq_iff (h : b.any isSeparator = false) : squeezed a = b ↔ a = b := by
  constructor
  · rintro rfl
    rw [any_isSeparator_squeezed] at h
    exact (squeezed_eq_self h).symm
  · rintro rfl
    exact squeezed_eq_self h

theorem squeezed_squeezed (t : Text) : squeezed (squeezed t) = squeezed t := by
  induction t using spacing_induction with
  | nil => rfl
  | char c t hc ih => rw [squeezed_cons hc, squeezed_cons hc, ih]
  | more c d t hc hd ih => rw [squeezed_more hc hd, ih]
  | last c t hc ht ih =>
    rw [squeezed_last hc ht, squeezed_last rfl (by rw [startsSpaced_squeezed, ht]), ih]

@[simp] theorem isEmpty_squeezed (t : Text) : (squeezed t).isEmpty = t.isEmpty := by
  rw [Bool.eq_iff_iff, List.isEmpty_iff, List.isEmpty_iff]
  exact squeezed_eq_iff rfl

/-- A text can be read from the end as well. -/
theorem squeezed_reverse (t : Text) : squeezed t.reverse = (squeezed t).reverse := by
  induction t using spacing_induction with
  | nil => rfl
  | char c t hc ih =>
    rw [List.reverse_cons, squeezed_append_cons hc, ih, squeezed_cons hc, List.reverse_cons,
      squeezed_nil]
  | more c d t hc hd ih =>
    have hrun : squeezed ([d] ++ [c]) = squeezed [d] := by
      rw [List.singleton_append, squeezed_more hd hc, squeezed_last hd rfl, squeezed_last hc rfl]
    rw [squeezed_more hc hd, ← ih, List.reverse_cons, List.reverse_cons, List.append_assoc]
    exact squeezed_append_congr hrun t.reverse
  | last c t hc ht ih =>
    cases t with
    | nil =>
      rw [squeezed_last hc ht]
      exact squeezed_last hc rfl
    | cons d t =>
      -- the separator stands alone at the end
      have hd : isSeparator d = false := ht
      have hend : (' ' :: squeezed (d :: t)).reverse = squeezed (t.reverse ++ [d]) ++ [' '] := by
        rw [List.reverse_cons, ← ih, List.reverse_cons]
      rw [squeezed_last hc ht, hend, List.reverse_cons, List.reverse_cons, List.append_assoc,
        List.singleton_append, squeezed_append_cons hd, squeezed_append_cons hd,
        squeezed_last hc rfl, List.append_assoc]
      rfl

/-! ### Looking at the characters one by one -/

variable {p : Char → Bool}

theorem dropWhile_squeezed (hp : ∀ c, isSeparator c = true → p c = p ' ') (t : Text) :
    (squeezed t).dropWhile p = squeezed (t.dropWhile p) := by
  induction t using spacing_induction with
  | nil => rfl
  | char c t hc ih =>
    rw [squeezed_cons hc, List.dropWhile_cons, List.dropWhile_cons, ih]
    split
    · rfl
    · rw [squeezed_cons hc]
  | more c d t hc hd ih =>
    rw [squeezed_more hc hd, ih, List.dropWhile_cons (x := c), hp c hc]
    split
    · rfl
    · next hspace =>
      rw [List.dropWhile_cons_of_neg (by rw [hp d hd]; exact hspace), squeezed_more hc hd]
  | last c t hc ht ih =>
    rw [squeezed_last hc ht, List.dropWhile_cons, List.dropWhile_cons, ih, hp c hc]
    split
    · rfl
    · rw [squeezed_last hc ht]

theorem takeWhile_squeezed (hp : ∀ c, isSeparator c = true → p c = false) (t : Text) :
    (squeezed t).takeWhile p = t.takeWhile p := by
  have hspace := hp ' ' rfl
  induction t with
  | nil => rfl
  | cons c t ih =>
    cases hc : isSeparator c with
    | false => rw [squeezed_cons hc, List.takeWhile_cons, List.takeWhile_cons, ih]
    | true =>
      obtain ⟨u, hu⟩ := exists_squeezed_eq hc t
      rw [hu, List.takeWhile_cons_of_neg (by simp [hspace]),
        List.takeWhile_cons_of_neg (by simp [hp c hc])]

theorem isBlank_of_isSeparator (h : isSeparator c = true) : isBlank c = true :=
  (isSeparator_spec h).1

theorem dropWhile_isBlank_squeezed (t : Text) :
    (squeezed t).dropWhile isBlank = squeezed (t.dropWhile isBlank) :=
  dropWhile_squeezed (fun _ hc => isBlank_of_isSeparator hc) t

theorem trim_squeezed (t : Text) : trim (squeezed t) = squeezed (trim t) := by
  rw [trim, trimStart, dropWhile_isBlank_squeezed, trimEnd, ← squeezed_reverse,
    dropWhile_isBlank_squeezed, ← squeezed_reverse, trim, trimEnd, trimStart]

theorem isAllBlank_squeezed (t : Text) : isAllBlank (squeezed t) = isAllBlank t := by
  rw [isAllBlank, trim_squeezed, isEmpty_squeezed, isAllBlank]

/-! ### Cutting -/

section Cutting

variable {σ : Type} {next : σ → Char → σ} {isCut : σ → Char → Bool}

/-- The first piece starts like the text, unless it is empty. -/
theorem startsSpaced_of_cutWhere {s : σ} {t p : Text} {ps : List Text}
    (h : cutWhere next isCut s t = p :: ps) (ht : startsSpaced t = false) :
    startsSpaced p = false := by
  cases p with
  | nil => rfl
  | cons c p =>
    rcases cutWhere_eq_cons h with ⟨rfl, -⟩ | ⟨d, rest, rfl, -, -⟩
    · exact ht
    · exact ht

/-- **Cutting at other characters than separators**, where a run of separators is as good as one
space. -/
theorem cutWhere_squeezed (hnext : ∀ s c, isSeparator c = true → next s c = next s ' ')
    (htwice : ∀ s, next (next s ' ') ' ' = next s ' ')
    (hcut : ∀ s c, isSeparator c = true → isCut s c = false) (s : σ) (t : Text) :
    cutWhere next isCut s (squeezed t) = (cutWhere next isCut s t).map squeezed := by
  induction t using spacing_induction generalizing s with
  | nil => rfl
  | char c t hc ih =>
    obtain ⟨p, ps, hp⟩ := exists_cutWhere_eq_cons next isCut (next s c) t
    have hsqueezed := ih (next s c)
    rw [hp, List.map_cons] at hsqueezed
    rw [squeezed_cons hc]
    cases hcutc : isCut s c with
    | true =>
      rw [cutWhere_cons_of_cut hcutc, cutWhere_cons_of_cut hcutc, ih, List.map_cons, squeezed_nil]
    | false =>
      rw [cutWhere_cons_of_keep hcutc hsqueezed, cutWhere_cons_of_keep hcutc hp, List.map_cons,
        squeezed_cons hc]
  | more c d t hc hd ih =>
    -- the run is longer by a separator, which is kept in the same piece as the next one
    obtain ⟨p, ps, hp⟩ := exists_cutWhere_eq_cons next isCut (next (next s c) d) t
    have hrest := cutWhere_cons_of_keep (hcut (next s c) d hd) hp
    have hstate : cutWhere next isCut s (squeezed (d :: t)) =
        cutWhere next isCut (next s c) (squeezed (d :: t)) := by
      -- the state before the space does not matter after it
      obtain ⟨u, hu⟩ := exists_squeezed_eq hd t
      rw [hu, cutWhere, cutWhere, hcut s ' ' rfl, hcut (next s c) ' ' rfl, hnext s c hc, htwice]
    rw [squeezed_more hc hd, hstate, ih, cutWhere_cons_of_keep (hcut s c hc) hrest, hrest,
      List.map_cons, List.map_cons, squeezed_more hc hd]
  | last c t hc ht ih =>
    obtain ⟨p, ps, hp⟩ := exists_cutWhere_eq_cons next isCut (next s c) t
    have hsqueezed := ih (next s c)
    rw [hp, hnext s c hc, List.map_cons] at hsqueezed
    rw [squeezed_last hc ht, cutWhere_cons_of_keep (hcut s ' ' rfl) hsqueezed,
      cutWhere_cons_of_keep (hcut s c hc) hp, List.map_cons,
      squeezed_last hc (startsSpaced_of_cutWhere hp ht)]

theorem filter_map_squeezed (ps : List Text) :
    (ps.map squeezed).filter (!·.isEmpty) = (ps.filter (!·.isEmpty)).map squeezed := by
  rw [List.filter_map]
  congr 2
  funext p
  exact congrArg (!·) (isEmpty_squeezed p)

/-- **Cutting at separators** in some states and not in others.  A run gives pieces that are empty,
one space gives none. -/
theorem exists_cutWhere_squeezed (hnext : ∀ s c, isSeparator c = true → next s c = s)
    (hcut : ∀ s c, isSeparator c = true → isCut s c = isCut s ' ') (s : σ) (t : Text) :
    ∃ p ps qs, cutWhere next isCut s t = p :: ps ∧
      cutWhere next isCut s (squeezed t) = squeezed p :: qs ∧
        qs.filter (!·.isEmpty) = (ps.map squeezed).filter (!·.isEmpty) := by
  induction t using spacing_induction generalizing s with
  | nil => exact ⟨[], [], [], rfl, rfl, rfl⟩
  | char c t hc ih =>
    obtain ⟨p, ps, qs, hp, hq, hfilter⟩ := ih (next s c)
    rw [squeezed_cons hc]
    cases hcutc : isCut s c with
    | true =>
      refine ⟨[], p :: ps, squeezed p :: qs, ?_, ?_, ?_⟩
      · rw [cutWhere_cons_of_cut hcutc, hp]
      · rw [cutWhere_cons_of_cut hcutc, hq, squeezed_nil]
      · rw [List.map_cons, List.filter_cons, List.filter_cons, hfilter]
    | false =>
      refine ⟨c :: p, ps, qs, cutWhere_cons_of_keep hcutc hp, ?_, hfilter⟩
      rw [cutWhere_cons_of_keep hcutc hq, squeezed_cons hc]
  | more c d t hc hd ih =>
    obtain ⟨p, ps, qs, hp, hq, hfilter⟩ := ih s
    rw [squeezed_more hc hd]
    cases hcutc : isCut s c with
    | true =>
      -- the second separator of the run is cut at as well, right after the first one
      have hcutd : isCut s d = true := by rw [hcut s d hd, ← hcut s c hc, hcutc]
      have hfirst := hp
      rw [cutWhere_cons_of_cut hcutd] at hfirst
      obtain ⟨rfl, -⟩ := List.cons.inj hfirst
      refine ⟨[], [] :: ps, qs, ?_, hq, ?_⟩
      · rw [cutWhere_cons_of_cut hcutc, hnext s c hc, hp]
      · rw [List.map_cons, squeezed_nil, List.filter_cons_of_neg (by simp), hfilter]
    | false =>
      have hcutd : isCut s d = false := by rw [hcut s d hd, ← hcut s c hc, hcutc]
      obtain ⟨p', ps', hp'⟩ := exists_cutWhere_eq_cons next isCut (next s d) t
      have hfirst := hp
      rw [cutWhere_cons_of_keep hcutd hp'] at hfirst
      obtain ⟨rfl, rfl⟩ := List.cons.inj hfirst
      refine ⟨c :: d :: p', ps', qs, ?_, ?_, hfilter⟩
      · exact cutWhere_cons_of_keep hcutc (by rw [hnext s c hc, hp])
      · rw [hq, squeezed_more hc hd]
  | last c t hc ht ih =>
    obtain ⟨p, ps, qs, hp, hq, hfilter⟩ := ih s
    have hspace : next s ' ' = s := hnext s ' ' rfl
    rw [squeezed_last hc ht]
    cases hcutc : isCut s c with
    | true =>
      have hcutspace : isCut s ' ' = true := by rw [← hcut s c hc, hcutc]
      refine ⟨[], p :: ps, squeezed p :: qs, ?_, ?_, ?_⟩
      · rw [cutWhere_cons_of_cut hcutc, hnext s c hc, hp]
      · rw [cutWhere_cons_of_cut hcutspace, hspace, hq, squeezed_nil]
      · rw [List.map_cons, List.filter_cons, List.filter_cons, hfilter]
    | false =>
      have hcutspace : isCut s ' ' = false := by rw [← hcut s c hc, hcutc]
      refine ⟨c :: p, ps, qs, ?_, ?_, hfilter⟩
      · exact cutWhere_cons_of_keep hcutc (by rw [hnext s c hc, hp])
      · rw [cutWhere_cons_of_keep hcutspace (by rw [hspace, hq]),
          squeezed_last hc (startsSpaced_of_cutWhere hp ht)]

theorem filter_cutWhere_squeezed (hnext : ∀ s c, isSeparator c = true → next s c = s)
    (hcut : ∀ s c, isSeparator c = true → isCut s c = isCut s ' ') (s : σ) (t : Text) :
    (cutWhere next isCut s (squeezed t)).filter (!·.isEmpty) =
      ((cutWhere next isCut s t).filter (!·.isEmpty)).map squeezed := by
  obtain ⟨p, ps, qs, hp, hq, hfilter⟩ := exists_cutWhere_squeezed hnext hcut s t
  rw [hp, hq, ← filter_map_squeezed, List.map_cons, List.filter_cons, List.filter_cons, hfilter]

end Cutting

/-- Words are cut apart at white space, in every state. -/
theorem splitOnP_eq_cutWhere (p : Char → Bool) (t : Text) :
    t.splitOnP p = cutWhere (fun _ _ => ()) (fun _ c => p c) () t := by
  induction t with
  | nil => simp [cutWhere]
  | cons c t ih => rw [List.splitOnP_cons_eq_if_modifyHead, cutWhere, ih]

/-- What is cut at stands in no piece. -/
theorem not_of_mem_splitOnP {p : Char → Bool} {t w : Text} (h : w ∈ t.splitOnP p) (hc : c ∈ w) :
    p c = false := by
  induction t generalizing w with
  | nil =>
    rw [List.splitOnP_nil, List.mem_singleton] at h
    exact absurd (h ▸ hc) List.not_mem_nil
  | cons d t ih =>
    -- the new character is cut off or joins the first piece
    obtain ⟨q, qs, hq⟩ := List.exists_cons_of_ne_nil (List.splitOnP_ne_nil p t)
    rw [hq] at ih
    rw [List.splitOnP_cons_eq_if_modifyHead, hq, List.modifyHead_cons] at h
    split at h
    · rcases List.mem_cons.mp h with rfl | h
      · exact absurd hc List.not_mem_nil
      · exact ih h hc
    · next hd =>
      rcases List.mem_cons.mp h with rfl | h
      · rcases List.mem_cons.mp hc with rfl | hc
        · simpa using hd
        · exact ih List.mem_cons_self hc
      · exact ih (List.mem_cons_of_mem q h) hc

/-- The words of a text do not tell one kind of white space from another. -/
theorem words_squeezed (t : Text) : words (squeezed t) = words t := by
  have hnone : ∀ w ∈ words t, squeezed w = w := by
    intro w hw
    refine squeezed_eq_self (List.any_eq_false.mpr fun c hc hseparator => ?_)
    have hkept := not_of_mem_splitOnP (List.mem_filter.mp hw).1 hc
    rw [isBlank_of_isSeparator hseparator] at hkept
    exact absurd hkept (by simp)
  rw [words, splitOnP_eq_cutWhere, filter_cutWhere_squeezed (fun _ _ _ => rfl)
    (fun _ c hc => isBlank_of_isSeparator hc), ← splitOnP_eq_cutWhere, ← words,
    List.map_congr_left hnone, List.map_id']

/-! ### Looking for one character -/

theorem throughFirst?_of_not_mem (h : d ∉ t) : throughFirst? d t = none := by
  induction t with
  | nil => rfl
  | cons c t ih =>
    rw [List.mem_cons, not_or] at h
    rw [throughFirst?, if_neg (Ne.symm h.1), ih h.2, Option.map_none]

theorem afterFirst?_of_not_mem (h : d ∉ t) : afterFirst? d t = none := by
  induction t with
  | nil => rfl
  | cons c t ih =>
    rw [List.mem_cons, not_or] at h
    rw [afterFirst?, if_neg (Ne.symm h.1), ih h.2]

theorem throughFirst?_squeezed (hd : isSeparator d = false) (t : Text) :
    throughFirst? d (squeezed t) =
      (throughFirst? d t).map fun parts => (squeezed parts.1, squeezed parts.2) := by
  by_cases h : d ∈ t
  · obtain ⟨a, b, rfl, ha⟩ := List.eq_append_cons_of_mem h
    rw [squeezed_append_cons hd, throughFirst?_append ha,
      throughFirst?_append (mt (mem_squeezed_iff hd).mp ha), Option.map_some,
      squeezed_append_cons hd, squeezed_nil]
  · rw [throughFirst?_of_not_mem h, throughFirst?_of_not_mem (mt (mem_squeezed_iff hd).mp h),
      Option.map_none]

theorem afterFirst?_squeezed (hd : isSeparator d = false) (t : Text) :
    afterFirst? d (squeezed t) = (afterFirst? d t).map squeezed := by
  by_cases h : d ∈ t
  · obtain ⟨a, b, rfl, ha⟩ := List.eq_append_cons_of_mem h
    rw [squeezed_append_cons hd, afterFirst?_append ha,
      afterFirst?_append (mt (mem_squeezed_iff hd).mp ha), Option.map_some]
  · rw [afterFirst?_of_not_mem h, afterFirst?_of_not_mem (mt (mem_squeezed_iff hd).mp h),
      Option.map_none]

theorem afterLast?_squeezed (hd : isSeparator d = false) (t : Text) :
    afterLast? d (squeezed t) = (afterLast? d t).map squeezed := by
  by_cases h : d ∈ t
  · obtain ⟨a, b, rfl, hb⟩ := exists_last_of_mem h
    rw [squeezed_append_cons hd, afterLast?_append hb,
      afterLast?_append (mt (mem_squeezed_iff hd).mp hb), Option.map_some]
  · rw [afterLast?_of_not_mem h, afterLast?_of_not_mem (mt (mem_squeezed_iff hd).mp h),
      Option.map_none]

theorem beforeLast?_squeezed (hd : isSeparator d = false) (t : Text) :
    beforeLast? d (squeezed t) = (beforeLast? d t).map squeezed := by
  by_cases h : d ∈ t
  · obtain ⟨a, b, rfl, hb⟩ := exists_last_of_mem h
    rw [squeezed_append_cons hd, beforeLast?_append hb,
      beforeLast?_append (mt (mem_squeezed_iff hd).mp hb), Option.map_some]
  · rw [beforeLast?_of_not_mem h, beforeLast?_of_not_mem (mt (mem_squeezed_iff hd).mp h),
      Option.map_none]

/-! ### Upper case -/

/-- Upper case is no separator where there was none. -/
theorem isSeparator_of_mem_upperChar {x : Char} (h : x ∈ upperChar c)
    (hc : isSeparator c = false) : isSeparator x = false := by
  by_contra hx
  obtain ⟨-, hascii, hletter, -⟩ := isSeparator_spec (by simpa using hx)
  obtain ⟨rfl, -⟩ := upperChar_of_mem h hascii hletter
  exact hx hc

theorem upperChar_ne_nil (c : Char) : upperChar c ≠ [] := by
  rcases Nat.lt_or_ge c.toNat 0x80 with hc | hc
  · rw [upperChar_of_ascii hc]
    exact List.cons_ne_nil _ _
  · rintro hnil
    rcases (upperChar_of_not_ascii hc).2 with ⟨x, hx, -⟩ | ⟨x, -, hx⟩
    · rw [hnil] at hx
      exact List.not_mem_nil hx
    · rw [hnil] at hx
      exact absurd hx (by simp)

theorem squeezed_append_of_none (h : a.any isSeparator = false) (b : Text) :
    squeezed (a ++ b) = a ++ squeezed b := by
  induction a with
  | nil => rfl
  | cons c a ih =>
    rw [List.any_cons, Bool.or_eq_false_iff] at h
    rw [List.cons_append, squeezed_cons h.1, ih h.2, List.cons_append]

theorem upper_separator_cons (hc : isSeparator c = true) (t : Text) :
    upper (c :: t) = c :: upper t := by
  have happend := upper_append_separator hc [] t
  rwa [List.nil_append] at happend

theorem startsSpaced_upper (t : Text) : startsSpaced (upper t) = startsSpaced t := by
  cases t with
  | nil => rfl
  | cons c t =>
    cases hc : isSeparator c with
    | true => rw [upper_separator_cons hc, startsSpaced_cons, startsSpaced_cons]
    | false =>
      obtain ⟨x, rest, hupper⟩ := List.exists_cons_of_ne_nil (upperChar_ne_nil c)
      have hx := isSeparator_of_mem_upperChar (c := c) (x := x) (by rw [hupper]; simp) hc
      rw [upper_cons, hupper, List.cons_append, startsSpaced_cons, startsSpaced_cons, hx, hc]

/-- **Squeezing before or after taking the upper case** is the same. -/
theorem upper_squeezed (t : Text) : upper (squeezed t) = squeezed (upper t) := by
  induction t using spacing_induction with
  | nil => rfl
  | char c t hc ih =>
    have hnone : (upperChar c).any isSeparator = false :=
      List.any_eq_false.mpr fun x hx => by simp [isSeparator_of_mem_upperChar hx hc]
    rw [squeezed_cons hc, upper_cons, upper_cons, squeezed_append_of_none hnone, ih]
  | more c d t hc hd ih =>
    rw [squeezed_more hc hd, ih, upper_separator_cons hc, upper_separator_cons hd,
      squeezed_more hc hd]
  | last c t hc ht ih =>
    rw [squeezed_last hc ht, upper_separator_cons rfl, upper_separator_cons hc,
      squeezed_last hc (by rw [startsSpaced_upper, ht]), ih]

/-! ### Parts -/

/-- What starts a text starts it when both are squeezed. -/
theorem prefix_squeezed (h : a <+: b) : squeezed a <+: squeezed b := by
  obtain ⟨v, rfl⟩ := h
  induction a using spacing_induction with
  | nil => exact List.nil_prefix
  | char c a hc ih =>
    rw [List.cons_append, squeezed_cons hc, squeezed_cons hc]
    exact (List.prefix_cons_inj c).mpr ih
  | more c d a hc hd ih =>
    rw [List.cons_append, List.cons_append, squeezed_more hc hd, squeezed_more hc hd]
    exact ih
  | last c a hc ha ih =>
    -- the run may go on behind the prefix, but it stays one space
    cases a with
    | nil =>
      obtain ⟨u, hu⟩ := exists_squeezed_eq hc v
      rw [List.singleton_append, squeezed_last hc rfl, hu]
      exact ⟨u, rfl⟩
    | cons d a =>
      have hrest : startsSpaced (d :: a ++ v) = false := ha
      rw [List.cons_append, squeezed_last hc ha, squeezed_last hc hrest]
      exact (List.prefix_cons_inj ' ').mpr ih

theorem suffix_squeezed (h : a <:+ b) : squeezed a <:+ squeezed b := by
  rw [← List.reverse_prefix, ← squeezed_reverse, ← squeezed_reverse]
  exact prefix_squeezed (List.reverse_prefix.mpr h)

theorem infix_squeezed (h : a <:+: b) : squeezed a <:+: squeezed b := by
  obtain ⟨c, hprefix, hsuffix⟩ := List.infix_iff_prefix_suffix.mp h
  exact (prefix_squeezed hprefix).isInfix.trans (suffix_squeezed hsuffix).isInfix

end SchemaIntake
