import Mathlib.Data.List.Basic
import Mathlib.Data.List.Induction
import SchemaIntake.Text.Basic

/-!
# Cutting texts apart and together

How `cutWhere` treats a text that is put together from two.  The last piece of the first text
and the first piece of the second are one piece, unless a cut falls between them.  A piece that is
taken out of the text is not cut again, and `join` puts pieces together.

## Main results

* `Text.exists_cutWhere_append` — the pieces of `a ++ b`.
* `Text.cutWhere_append_of_cut` — the pieces of two texts with a cut between them.
* `Text.cutWhere_eq_cons`, `Text.cutWhere_eq_concat` — where the first and the last piece stand.
* `Text.cutWhere_first_piece` — a piece is not cut again.
-/

namespace SchemaIntake

namespace Text

variable {σ : Type} {next : σ → Char → σ} {isCut : σ → Char → Bool} {s : σ}

/-! ### One character -/

theorem cutWhere_cons_of_cut {c : Char} (h : isCut s c = true) (t : Text) :
    cutWhere next isCut s (c :: t) = [] :: cutWhere next isCut (next s c) t := by
  rw [cutWhere, if_pos h]

theorem cutWhere_cons_of_keep {c : Char} (h : isCut s c = false) {t p : Text} {ps : List Text}
    (ht : cutWhere next isCut (next s c) t = p :: ps) :
    cutWhere next isCut s (c :: t) = (c :: p) :: ps := by
  rw [cutWhere, if_neg (by simp [h]), ht, List.modifyHead_cons]

theorem exists_cutWhere_eq_cons (next : σ → Char → σ) (isCut : σ → Char → Bool) (s : σ)
    (t : Text) : ∃ p ps, cutWhere next isCut s t = p :: ps :=
  List.exists_cons_of_ne_nil (cutWhere_ne_nil next isCut s t)

/-! ### Two texts -/

/-- **The pieces of two texts put together.**  The last piece of the first and the first piece of
the second, which is cut in the state that the first leaves, become one. -/
theorem exists_cutWhere_append (next : σ → Char → σ) (isCut : σ → Char → Bool) (s : σ)
    (a b : Text) : ∃ ps p q qs, cutWhere next isCut s a = ps ++ [p] ∧
      cutWhere next isCut (a.foldl next s) b = q :: qs ∧
        cutWhere next isCut s (a ++ b) = ps ++ (p ++ q) :: qs := by
  induction a generalizing s with
  | nil =>
    obtain ⟨q, qs, hq⟩ := exists_cutWhere_eq_cons next isCut s b
    exact ⟨[], [], q, qs, rfl, hq, hq⟩
  | cons c a ih =>
    obtain ⟨ps, p, q, qs, ha, hb, hab⟩ := ih (next s c)
    cases hc : isCut s c with
    | true =>
      refine ⟨[] :: ps, p, q, qs, ?_, hb, ?_⟩
      · rw [cutWhere_cons_of_cut hc, ha, List.cons_append]
      · rw [List.cons_append, cutWhere_cons_of_cut hc, hab, List.cons_append]
    | false =>
      -- the character goes to the first piece, which is the glued one if `a` has only one
      cases ps with
      | nil =>
        refine ⟨[], c :: p, q, qs, cutWhere_cons_of_keep hc ha, hb, ?_⟩
        exact cutWhere_cons_of_keep hc hab
      | cons p₀ ps =>
        refine ⟨(c :: p₀) :: ps, p, q, qs, cutWhere_cons_of_keep hc ha, hb, ?_⟩
        exact cutWhere_cons_of_keep hc hab

/-- Two texts with a cut between them are cut on their own. -/
theorem cutWhere_append_of_cut {a : Text} {c : Char} (h : isCut (a.foldl next s) c = true)
    (b : Text) : cutWhere next isCut s (a ++ c :: b) =
      cutWhere next isCut s a ++ cutWhere next isCut (next (a.foldl next s) c) b := by
  obtain ⟨ps, p, q, qs, ha, hb, hab⟩ := exists_cutWhere_append next isCut s a (c :: b)
  rw [cutWhere_cons_of_cut h] at hb
  obtain ⟨rfl, rfl⟩ := List.cons.inj hb
  rw [hab, ha, List.append_nil, List.append_cons]

/-! ### Where a piece stands -/

/-- The first piece is the whole text, or a cut follows it. -/
theorem cutWhere_eq_cons {t p : Text} {ps : List Text} (h : cutWhere next isCut s t = p :: ps) :
    (t = p ∧ ps = []) ∨ ∃ c rest, t = p ++ c :: rest ∧ isCut (p.foldl next s) c = true ∧
      ps = cutWhere next isCut (next (p.foldl next s) c) rest := by
  induction t generalizing s p with
  | nil =>
    obtain ⟨rfl, rfl⟩ := List.cons.inj h
    exact Or.inl ⟨rfl, rfl⟩
  | cons c t ih =>
    cases hc : isCut s c with
    | true =>
      rw [cutWhere_cons_of_cut hc] at h
      obtain ⟨rfl, rfl⟩ := List.cons.inj h
      exact Or.inr ⟨c, t, rfl, hc, rfl⟩
    | false =>
      obtain ⟨q, qs, hq⟩ := exists_cutWhere_eq_cons next isCut (next s c) t
      rw [cutWhere_cons_of_keep hc hq] at h
      obtain ⟨rfl, rfl⟩ := List.cons.inj h
      rcases ih hq with ⟨rfl, rfl⟩ | ⟨d, rest, rfl, hd, rfl⟩
      · exact Or.inl ⟨rfl, rfl⟩
      · exact Or.inr ⟨d, rest, rfl, hd, rfl⟩

/-- No character of the first piece is one to cut at. -/
theorem not_isCut_of_cutWhere {t a b : Text} {x : Char} {ps : List Text}
    (h : cutWhere next isCut s t = (a ++ x :: b) :: ps) : isCut (a.foldl next s) x = false := by
  by_contra hcut
  rw [Bool.not_eq_false] at hcut
  obtain ⟨rest, rfl⟩ : ∃ rest, t = a ++ x :: rest := by
    rcases cutWhere_eq_cons h with ⟨rfl, -⟩ | ⟨c, rest, rfl, -, -⟩
    · exact ⟨b, rfl⟩
    · exact ⟨b ++ c :: rest, by simp⟩
  -- the first piece would end before the character
  obtain ⟨p, qs, hp⟩ := exists_cutWhere_eq_cons next isCut s a
  rw [cutWhere_append_of_cut hcut, hp, List.cons_append] at h
  obtain ⟨rfl, -⟩ := List.cons.inj h
  rcases cutWhere_eq_cons hp with ⟨hsame, -⟩ | ⟨c, rest', hlonger, -, -⟩
  · have hlength := congrArg List.length hsame
    simp at hlength
  · have hlength := congrArg List.length hlonger
    simp at hlength

/-- **A piece is not cut again** in the state in which it starts. -/
theorem cutWhere_first_piece {s : σ} {t p : Text} {ps : List Text}
    (h : cutWhere next isCut s t = p :: ps) : cutWhere next isCut s p = [p] := by
  induction t generalizing s p ps with
  | nil =>
    obtain ⟨rfl, -⟩ := List.cons.inj h
    rfl
  | cons c t ih =>
    cases hc : isCut s c with
    | true =>
      rw [cutWhere_cons_of_cut hc] at h
      obtain ⟨rfl, -⟩ := List.cons.inj h
      rfl
    | false =>
      obtain ⟨q, qs, hq⟩ := exists_cutWhere_eq_cons next isCut (next s c) t
      rw [cutWhere_cons_of_keep hc hq] at h
      obtain ⟨rfl, -⟩ := List.cons.inj h
      exact cutWhere_cons_of_keep hc (ih hq)

/-- The last piece is the whole text, or a cut stands before it. -/
theorem cutWhere_eq_concat {t p : Text} {ps : List Text}
    (h : cutWhere next isCut s t = ps ++ [p]) :
    (t = p ∧ ps = []) ∨ ∃ r c, t = r ++ c :: p ∧ isCut (r.foldl next s) c = true ∧
      ps = cutWhere next isCut s r := by
  induction t using List.reverseRecOn generalizing ps p with
  | nil =>
    have hsplit : [] ++ [[]] = ps ++ [p] := h
    obtain ⟨rfl, hp⟩ := List.append_inj' hsplit rfl
    exact Or.inl ⟨by simpa using hp, rfl⟩
  | append_singleton t c ih =>
    cases hc : isCut (t.foldl next s) c with
    | true =>
      rw [cutWhere_append_of_cut hc] at h
      obtain ⟨rfl, hp⟩ := List.append_inj' h rfl
      obtain rfl : [] = p := by simpa [cutWhere] using hp
      exact Or.inr ⟨t, c, rfl, hc, rfl⟩
    | false =>
      -- a character that is kept joins the last piece
      obtain ⟨qs, q, q', qs', ht, hq', htc⟩ := exists_cutWhere_append next isCut s t [c]
      rw [cutWhere_cons_of_keep hc rfl] at hq'
      obtain ⟨rfl, rfl⟩ := List.cons.inj hq'
      rw [htc] at h
      obtain ⟨rfl, hp⟩ := List.append_inj' h rfl
      obtain rfl : q ++ [c] = p := by simpa using hp
      rcases ih ht with ⟨rfl, rfl⟩ | ⟨r, d, rfl, hd, rfl⟩
      · exact Or.inl ⟨rfl, rfl⟩
      · exact Or.inr ⟨r, d, by simp, hd, rfl⟩

/-! ### Joining -/

theorem join_cons_cons (separator p q : Text) (ps : List Text) :
    join separator (p :: q :: ps) = p ++ separator ++ join separator (q :: ps) := by
  rw [join, List.intercalate_cons_cons, join]

theorem join_concat (separator : Text) {ps : List Text} (hne : ps ≠ []) (last : Text) :
    join separator (ps ++ [last]) = join separator ps ++ separator ++ last := by
  induction ps with
  | nil => exact absurd rfl hne
  | cons p ps ih =>
    cases ps with
    | nil => rw [List.singleton_append, join_cons_cons, join, join, List.intercalate_singleton,
        List.intercalate_singleton]
    | cons q qs =>
      rw [List.cons_append, List.cons_append, join_cons_cons, ← List.cons_append,
        ih (List.cons_ne_nil q qs), join_cons_cons]
      simp only [List.append_assoc]

/-- A joined text starts like the first text, unless that is empty. -/
theorem head?_join (separator : Text) {p : Text} (hp : p ≠ []) (ps : List Text) :
    (join separator (p :: ps)).head? = p.head? := by
  cases ps with
  | nil => rw [join, List.intercalate_singleton]
  | cons q qs => rw [join_cons_cons, List.append_assoc, List.head?_append_of_ne_nil _ hp]

/-- A joined text ends like the last text, unless that is empty. -/
theorem getLast?_join (separator : Text) {p : Text} (hp : p ≠ []) (ps : List Text) :
    (join separator (ps ++ [p])).getLast? = p.getLast? := by
  by_cases hps : ps = []
  · rw [hps, List.nil_append, join, List.intercalate_singleton]
  · rw [join_concat _ hps, List.getLast?_append_of_ne_nil _ hp]

end Text

end SchemaIntake
