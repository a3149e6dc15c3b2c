import SchemaIntake.Proofs.Text.Cutting
import SchemaIntake.Proofs.Text.Trimming
import SchemaIntake.Schema.Check

/-!
# Elements put together into a body

An element that stands on its own, uncut and with its parentheses and quotes closed, is found
again in any body that joins such elements by commas: the state in which the next one is cut is
the one in which the body starts.

## Main definitions

* `Nesting.IsClosed n` — no parenthesis and no quote is open.
* `StandsAlone e` — the element `e` is not blank, trimmed, uncut and closed.

## Main results

* `elementPieces_join` — the pieces of a joined body.
* `checkedElements_join` — **a joined body has the elements that were joined**.
-/

namespace SchemaIntake

open Text

/-! ### Closed nestings -/

/-- No parenthesis and no quote is open. -/
structure Nesting.IsClosed (n : Nesting) : Prop where
  /-- As many parentheses were closed as were opened. -/
  depth_eq_zero : n.depth = 0
  inQuotes_eq_false : n.inQuotes = false

namespace Nesting

instance (n : Nesting) : Decidable n.IsClosed :=
  decidable_of_iff (n.depth = 0 ∧ n.inQuotes = false)
    ⟨fun h => ⟨h.1, h.2⟩, fun h => ⟨h.depth_eq_zero, h.inQuotes_eq_false⟩⟩

/-- A comma ends an element if nothing is open. -/
theorem IsClosed.isDelimiter {n : Nesting} (h : n.IsClosed) : isDelimiter n ',' = true := by
  simp [Nesting.isDelimiter, h.depth_eq_zero, h.inQuotes_eq_false]

/-- After a comma nothing is left of what stood before it. -/
theorem IsClosed.next_comma {n : Nesting} (h : n.IsClosed) : next n ',' = start := by
  simp [next, start, h.depth_eq_zero, h.inQuotes_eq_false, parenStep]

theorem next_start_space : next start ' ' = start := by decide

end Nesting

/-! ### Elements that stand alone -/

/-- An element that is found again wherever it is put between two commas. -/
structure StandsAlone (element : Text) : Prop where
  notBlank : isAllBlank element = false
  /-- No white space stands at its ends. -/
  trimmed : trim element = element
  /-- It is an element of itself, and the only one. -/
  uncut : elements element = [element]
  /-- Nothing is left open at its end. -/
  closed : (Nesting.start.after element).IsClosed

instance (element : Text) : Decidable (StandsAlone element) :=
  decidable_of_iff (isAllBlank element = false ∧ trim element = element ∧
      elements element = [element] ∧ (Nesting.start.after element).IsClosed)
    ⟨fun h => ⟨h.1, h.2.1, h.2.2.1, h.2.2.2⟩,
      fun h => ⟨h.notBlank, h.trimmed, h.uncut, h.closed⟩⟩

/-- The pieces of an uncut element are the element. -/
theorem StandsAlone.elementPieces_eq {element : Text} (h : StandsAlone element) :
    elementPieces element = [element] := by
  have huncut := h.uncut
  rw [elements] at huncut
  obtain ⟨p, ps, hpieces⟩ :=
    exists_cutWhere_eq_cons Nesting.next Nesting.isDelimiter Nesting.start element
  rw [← elementPieces] at hpieces
  rw [hpieces] at huncut ⊢
  cases ps with
  | nil =>
    rw [dropBlankLast] at huncut
    split at huncut
    · exact absurd huncut (by simp)
    · exact huncut
  | cons q qs =>
    -- the first of several pieces is shorter than the element
    obtain ⟨rfl, -⟩ := List.cons.inj huncut
    rcases cutWhere_eq_cons hpieces with ⟨-, hnil⟩ | ⟨c, rest, hlong, -⟩
    · exact absurd hnil (by simp)
    · simp at hlong

theorem StandsAlone.ne_nil {element : Text} (h : StandsAlone element) : element ≠ [] := by
  rintro rfl
  exact absurd h.notBlank (by decide)

/-- A space in front changes the first piece only. -/
theorem elementPieces_space_cons {body p : Text} {ps : List Text}
    (h : elementPieces body = p :: ps) : elementPieces (' ' :: body) = (' ' :: p) :: ps := by
  rw [elementPieces]
  refine cutWhere_cons_of_keep (by decide) ?_
  rw [Nesting.next_start_space]
  exact h

/-- **The pieces of a joined body** are the elements, the later ones after a space. -/
theorem elementPieces_join {e : Text} {es : List Text} (h : ∀ x ∈ e :: es, StandsAlone x) :
    elementPieces (join ", ".toList (e :: es)) = e :: es.map (' ' :: ·) := by
  induction es generalizing e with
  | nil =>
    rw [join, List.intercalate_singleton]
    exact (h e (by simp)).elementPieces_eq
  | cons e' es ih =>
    have hclosed := (h e (by simp)).closed
    have hrest := ih (e := e') fun x hx => h x (by simp [hx])
    rw [join_cons_cons, List.append_assoc]
    change elementPieces (e ++ ',' :: ' ' :: join ", ".toList (e' :: es)) = _
    -- the comma leaves the state in which a body starts, so the rest is cut on its own
    rw [elementPieces, cutWhere_append_of_cut hclosed.isDelimiter]
    rw [show List.foldl Nesting.next Nesting.start e = Nesting.start.after e from rfl,
      hclosed.next_comma, ← elementPieces, ← elementPieces, elementPieces_space_cons hrest,
      (h e (by simp)).elementPieces_eq]
    rfl

theorem dropBlankLast_of_not_blank {ps : List Text} (h : ∀ p ∈ ps, isAllBlank p = false) :
    dropBlankLast ps = ps := by
  fun_induction dropBlankLast ps with
  | case1 => rfl
  | case2 p hp => exact absurd hp (by simp [h p (by simp)])
  | case3 => rfl
  | case4 p q rest ih => rw [ih fun x hx => h x (by simp [List.mem_cons.mp hx])]

/-- The elements that are checked are trimmed and not empty. -/
theorem spec_of_mem_checkedElements {body element : Text} (h : element ∈ checkedElements body) :
    trim element = element ∧ element ≠ [] := by
  rw [checkedElements, List.mem_filter] at h
  obtain ⟨piece, -, rfl⟩ := List.mem_map.mp h.1
  exact ⟨trim_trim piece, by simpa using h.2⟩

/-- **A joined body has the elements that were joined.** -/
theorem checkedElements_join {es : List Text} (hne : es ≠ []) (h : ∀ e ∈ es, StandsAlone e) :
    checkedElements (join ", ".toList es) = es := by
  obtain ⟨e, es, rfl⟩ := List.exists_cons_of_ne_nil hne
  have htrim : ∀ x ∈ es, trim (' ' :: x) = x := by
    intro x hx
    rw [trim_cons_of_isBlank (by decide), (h x (by simp [hx])).trimmed]
  have hpieces : elements (join ", ".toList (e :: es)) = e :: es.map (' ' :: ·) := by
    rw [elements, elementPieces_join h, dropBlankLast_of_not_blank]
    intro p hp
    rcases List.mem_cons.mp hp with rfl | hp
    · exact (h p (by simp)).notBlank
    · obtain ⟨x, hx, rfl⟩ := List.mem_map.mp hp
      rw [isAllBlank, htrim x hx]
      simpa using (h x (by simp [hx])).ne_nil
  rw [checkedElements, hpieces, List.map_cons, (h e (by simp)).trimmed, List.map_map]
  have hmap : es.map (trim ∘ (' ' :: ·)) = es :=
    (List.map_congr_left htrim).trans (List.map_id es)
  rw [hmap, List.filter_eq_self]
  intro x hx
  simpa using (h x hx).ne_nil

/-- A joined body has no white space at its ends. -/
theorem trim_join {es : List Text} (hne : es ≠ []) (h : ∀ e ∈ es, StandsAlone e) :
    trim (join ", ".toList es) = join ", ".toList es := by
  rw [trim_eq_self_iff]
  constructor
  · obtain ⟨e, es, rfl⟩ := List.exists_cons_of_ne_nil hne
    have he := h e List.mem_cons_self
    rw [head?_join _ he.ne_nil]
    exact (trim_eq_self_iff.mp he.trimmed).1
  · obtain ⟨es, e, rfl⟩ : ∃ es' e, es = es' ++ [e] :=
      ⟨_, _, (List.dropLast_append_getLast hne).symm⟩
    have he := h e (by simp)
    rw [getLast?_join _ he.ne_nil]
    exact (trim_eq_self_iff.mp he.trimmed).2

end SchemaIntake
