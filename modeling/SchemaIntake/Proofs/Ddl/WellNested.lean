import Mathlib.Data.List.Infix
import SchemaIntake.Proofs.Ddl.Elements

/-!
# Well-nested texts

A text is well nested if its quotes are closed and its parentheses, those in quotes left aside,
pair up.  Cutting a body at the commas between its elements takes no pair apart: such a comma
stands where nothing is open.  So the elements are well nested exactly if the body is, and every
element but the last one ends with nothing open, whatever the body.

## Main definitions

* `IsWellNested t` — the depth of parentheses never falls below zero and nothing is open at the
  end.

## Main results

* `isWellNested_append_comma` — a comma where nothing is open cuts a text into two that are well
  nested exactly if the whole is.
* `isClosed_of_mem_dropLast` — **every element but the last one ends with nothing open**.
* `forall_isWellNested_iff` — **the elements are well nested exactly if the body is**.
-/

namespace SchemaIntake

open Text

/-! ### Well-nested texts -/

/-- The quotes of a text are closed, and its parentheses pair up. -/
structure IsWellNested (t : Text) : Prop where
  /-- No parenthesis is closed that was not opened. -/
  depth_nonneg : ∀ p, p <+: t → 0 ≤ (Nesting.start.after p).depth
  /-- Nothing is open at the end. -/
  closed : (Nesting.start.after t).IsClosed

instance (t : Text) : Decidable (IsWellNested t) :=
  decidable_of_iff ((∀ p ∈ t.inits, 0 ≤ (Nesting.start.after p).depth) ∧
      (Nesting.start.after t).IsClosed)
    ⟨fun h => ⟨fun p hp => h.1 p ((List.mem_inits p t).mpr hp), h.2⟩,
      fun h => ⟨fun p hp => h.depth_nonneg p ((List.mem_inits p t).mp hp), h.closed⟩⟩

namespace Nesting

theorem after_append (n : Nesting) (a b : Text) : n.after (a ++ b) = (n.after a).after b :=
  List.foldl_append

/-- White space leaves the depth and the quotes as they are. -/
theorem next_of_isBlank {c : Char} (hc : isBlank c = true) (n : Nesting) :
    n.next c = ⟨n.depth, n.inQuotes, false⟩ := by
  have hne : ∀ d, isBlank d = false → c ≠ d := by
    rintro d hd rfl
    exact absurd hc (by simp [hd])
  simp [next, parenStep, hne '(' (by decide), hne ')' (by decide), hne '\x27' (by decide),
    hne '\\' (by decide)]

theorem after_cons_of_isBlank {c : Char} (hc : isBlank c = true) (t : Text) :
    start.after (c :: t) = start.after t := by
  change (start.next c).after t = _
  rw [next_of_isBlank hc]
  rfl

theorem after_concat_of_isBlank {c : Char} (hc : isBlank c = true) (n : Nesting) (t : Text) :
    n.after (t ++ [c]) = ⟨(n.after t).depth, (n.after t).inQuotes, false⟩ := by
  rw [after_append]
  exact next_of_isBlank hc (n.after t)

theorem isClosed_cons_of_isBlank {c : Char} (hc : isBlank c = true) (t : Text) :
    (start.after (c :: t)).IsClosed ↔ (start.after t).IsClosed := by
  rw [after_cons_of_isBlank hc]

theorem isClosed_concat_of_isBlank {c : Char} (hc : isBlank c = true) (t : Text) :
    (start.after (t ++ [c])).IsClosed ↔ (start.after t).IsClosed := by
  rw [after_concat_of_isBlank hc]
  exact ⟨fun h => ⟨h.1, h.2⟩, fun h => ⟨h.1, h.2⟩⟩

/-- White space at the ends of a text leaves open what is open. -/
theorem isClosed_after_trim (t : Text) :
    (start.after (trim t)).IsClosed ↔ (start.after t).IsClosed :=
  trim_iff (P := fun t => (start.after t).IsClosed) isClosed_cons_of_isBlank
    isClosed_concat_of_isBlank t

end Nesting

namespace IsWellNested

theorem nil : IsWellNested [] := by decide

theorem cons_of_isBlank {c : Char} (hc : isBlank c = true) (t : Text) :
    IsWellNested (c :: t) ↔ IsWellNested t := by
  constructor
  · intro h
    refine ⟨fun p hp => ?_, (Nesting.isClosed_cons_of_isBlank hc t).mp h.closed⟩
    rw [← Nesting.after_cons_of_isBlank hc]
    exact h.depth_nonneg (c :: p) (List.cons_prefix_cons.mpr ⟨rfl, hp⟩)
  · intro h
    refine ⟨fun p hp => ?_, (Nesting.isClosed_cons_of_isBlank hc t).mpr h.closed⟩
    rcases List.prefix_cons_iff.mp hp with rfl | ⟨q, rfl, hq⟩
    · exact nil.depth_nonneg [] List.prefix_rfl
    · rw [Nesting.after_cons_of_isBlank hc]
      exact h.depth_nonneg q hq

theorem concat_of_isBlank {c : Char} (hc : isBlank c = true) (t : Text) :
    IsWellNested (t ++ [c]) ↔ IsWellNested t := by
  constructor
  · intro h
    refine ⟨fun p hp => ?_, (Nesting.isClosed_concat_of_isBlank hc t).mp h.closed⟩
    exact h.depth_nonneg p (hp.trans (List.prefix_append t [c]))
  · intro h
    refine ⟨fun p hp => ?_, (Nesting.isClosed_concat_of_isBlank hc t).mpr h.closed⟩
    rcases List.prefix_concat_iff.mp hp with rfl | hp
    · rw [Nesting.after_concat_of_isBlank hc]
      exact h.depth_nonneg t List.prefix_rfl
    · exact h.depth_nonneg p hp

end IsWellNested

/-- White space at the ends of a text does not matter to its nesting. -/
theorem isWellNested_trim (t : Text) : IsWellNested (trim t) ↔ IsWellNested t :=
  trim_iff IsWellNested.cons_of_isBlank IsWellNested.concat_of_isBlank t

/-- **A comma where nothing is open** cuts a text into two that are well nested exactly if the
whole is. -/
theorem isWellNested_append_comma {a b : Text} (ha : (Nesting.start.after a).IsClosed) :
    IsWellNested (a ++ ',' :: b) ↔ IsWellNested a ∧ IsWellNested b := by
  -- behind the comma all is as at the start
  have hafter : ∀ t, Nesting.start.after (a ++ ',' :: t) = Nesting.start.after t := by
    intro t
    rw [Nesting.after_append]
    change ((Nesting.start.after a).next ',').after t = _
    rw [ha.next_comma]
  constructor
  · intro h
    refine ⟨⟨fun p hp => ?_, ha⟩, fun p hp => ?_, ?_⟩
    · exact h.depth_nonneg p (hp.trans (List.prefix_append a _))
    · rw [← hafter]
      refine h.depth_nonneg (a ++ ',' :: p) ?_
      rw [List.prefix_append_right_inj, List.cons_prefix_cons]
      exact ⟨rfl, hp⟩
    · rw [← hafter]
      exact h.closed
  · rintro ⟨hwa, hwb⟩
    refine ⟨fun p hp => ?_, by rw [hafter]; exact hwb.closed⟩
    rcases List.prefix_or_prefix_of_prefix hp (List.prefix_append a _) with hp' | ⟨q, rfl⟩
    · exact hwa.depth_nonneg p hp'
    · rw [List.prefix_append_right_inj] at hp
      rcases List.prefix_cons_iff.mp hp with rfl | ⟨q', rfl, hq'⟩
      · rw [List.append_nil]
        exact hwa.depth_nonneg a List.prefix_rfl
      · rw [hafter]
        exact hwb.depth_nonneg q' hq'

/-! ### The pieces of a body -/

/-- The first piece is the whole body, or a comma follows it where nothing is open, and the other
pieces are those of what follows. -/
theorem elementPieces_eq_cons {body p : Text} {ps : List Text}
    (h : elementPieces body = p :: ps) : (body = p ∧ ps = []) ∨
      ∃ rest, body = p ++ ',' :: rest ∧ (Nesting.start.after p).IsClosed ∧
        ps = elementPieces rest := by
  rcases cutWhere_eq_cons h with hwhole | ⟨c, rest, hbody, hcut, hps⟩
  · exact Or.inl hwhole
  · right
    change Nesting.isDelimiter (Nesting.start.after p) c = true at hcut
    have hopen := hcut
    simp only [Nesting.isDelimiter, Bool.and_eq_true, beq_iff_eq, Bool.not_eq_true'] at hopen
    obtain ⟨⟨rfl, hquotes⟩, hdepth⟩ := hopen
    have hclosed : (Nesting.start.after p).IsClosed := ⟨hdepth, hquotes⟩
    refine ⟨rest, hbody, hclosed, ?_⟩
    rw [hps, elementPieces]
    change cutWhere _ _ ((Nesting.start.after p).next ',') rest = _
    rw [hclosed.next_comma]

/-- Every piece but the last one ends with nothing open. -/
theorem isClosed_of_mem_dropLast_elementPieces {body p : Text}
    (h : p ∈ (elementPieces body).dropLast) : (Nesting.start.after p).IsClosed := by
  generalize hpieces : elementPieces body = pieces at h
  induction pieces generalizing body with
  | nil => exact absurd h List.not_mem_nil
  | cons q qs ih =>
    rcases elementPieces_eq_cons hpieces with ⟨-, rfl⟩ | ⟨rest, -, hclosed, hqs⟩
    · exact absurd h List.not_mem_nil
    · have hne : qs ≠ [] := hqs ▸ cutWhere_ne_nil _ _ _ rest
      rw [List.dropLast_cons_of_ne_nil hne] at h
      rcases List.mem_cons.mp h with rfl | h
      · exact hclosed
      · exact ih hqs.symm h

/-- The pieces are well nested exactly if the body is. -/
theorem forall_elementPieces_isWellNested_iff (body : Text) :
    (∀ p ∈ elementPieces body, IsWellNested p) ↔ IsWellNested body := by
  generalize hpieces : elementPieces body = pieces
  induction pieces generalizing body with
  | nil => exact absurd hpieces (cutWhere_ne_nil _ _ _ body)
  | cons p ps ih =>
    rcases elementPieces_eq_cons hpieces with ⟨rfl, rfl⟩ | ⟨rest, rfl, hclosed, hps⟩
    · rw [List.forall_mem_singleton]
    · rw [List.forall_mem_cons, ih rest hps.symm, isWellNested_append_comma hclosed]

/-! ### The elements of a body -/

/-- A blank last piece would not be checked anyhow. -/
theorem checkedElements_eq (body : Text) :
    checkedElements body = ((elementPieces body).map trim).filter (!·.isEmpty) := by
  rw [checkedElements, elements]
  generalize elementPieces body = pieces
  fun_induction dropBlankLast pieces with
  | case1 => rfl
  | case2 p hblank => simpa [isAllBlank] using hblank
  | case3 p hblank => rfl
  | case4 p q rest ih =>
    rw [List.map_cons, List.map_cons, List.filter_cons, List.filter_cons, ih]

/-- **Every element but the last one ends with nothing open.** -/
theorem isClosed_of_mem_dropLast {body e : Text} (h : e ∈ (checkedElements body).dropLast) :
    (Nesting.start.after e).IsClosed := by
  obtain ⟨ps, p, hpieces⟩ : ∃ ps p, elementPieces body = ps ++ [p] :=
    ⟨_, _, (List.dropLast_append_getLast (cutWhere_ne_nil _ _ _ body)).symm⟩
  -- the last element comes from the last piece, or that piece is blank
  have hmem : e ∈ (ps.map trim).filter (!·.isEmpty) := by
    rw [checkedElements_eq, hpieces, List.map_append, List.filter_append] at h
    cases hp : (trim p).isEmpty with
    | true =>
      simp only [List.map_cons, List.map_nil, List.filter_cons, hp] at h
      exact List.mem_of_mem_dropLast (by simpa using h)
    | false =>
      simpa [List.filter_cons, hp] using h
  obtain ⟨q, hq, rfl⟩ := List.mem_map.mp (List.mem_of_mem_filter hmem)
  have hearlier : q ∈ (elementPieces body).dropLast := by simpa [hpieces] using hq
  exact (Nesting.isClosed_after_trim q).mpr (isClosed_of_mem_dropLast_elementPieces hearlier)

/-- **The elements are well nested exactly if the body is.** -/
theorem forall_isWellNested_iff (body : Text) :
    (∀ e ∈ checkedElements body, IsWellNested e) ↔ IsWellNested body := by
  rw [← forall_elementPieces_isWellNested_iff, checkedElements_eq]
  constructor
  · intro h p hp
    rw [← isWellNested_trim]
    cases hblank : (trim p).isEmpty with
    | true => rw [List.isEmpty_iff.mp hblank]; exact IsWellNested.nil
    | false => exact h (trim p) (List.mem_filter.mpr ⟨List.mem_map_of_mem hp, by simp [hblank]⟩)
  · intro h e he
    obtain ⟨p, hp, rfl⟩ := List.mem_map.mp (List.mem_of_mem_filter he)
    exact (isWellNested_trim p).mpr (h p hp)

end SchemaIntake
