import Mathlib.Data.List.DropRight
import SchemaIntake.Text.Blank

/-!
# Trimming

What `trim` does to the ends of a text, and when it does nothing.

## Main results

* `Text.trim_eq_self_iff` — a text is its own trim exactly if neither end is white space.
* `Text.trim_trim` — trimming twice is trimming once.
* `Text.isAllBlank_iff` — a text is blank exactly if all its characters are white space.
* `Text.trimEnd_append_gap`, `Text.trimEnd_cons_of_isBlank` — white space at the end of a text.
* `Text.trim_iff` — what white space at the ends does not change, trimming does not change.
-/

namespace SchemaIntake

namespace Text

/-- `trimEnd` drops from the right what `isBlank` selects. -/
theorem trimEnd_eq_rdropWhile (t : Text) : trimEnd t = t.rdropWhile isBlank := rfl

theorem isBlank_of_head?_trim {t : Text} {c : Char} (h : (trim t).head? = some c) :
    isBlank c = false := by
  obtain ⟨rest, hrest⟩ : trimEnd (trimStart t) <+: trimStart t :=
    List.rdropWhile_prefix isBlank (trimStart t)
  have hhead : (trimStart t).head? = some c := by
    rw [← hrest, List.head?_append, show (trimEnd (trimStart t)).head? = some c from h]
    rfl
  have hnot := List.head?_dropWhile_not isBlank t
  rw [show t.dropWhile isBlank = trimStart t from rfl, hhead] at hnot
  simpa using hnot

theorem isBlank_of_getLast?_trim {t : Text} {c : Char} (h : (trim t).getLast? = some c) :
    isBlank c = false := by
  have hne : trim t ≠ [] := by rintro hnil; simp [hnil] at h
  have hlast : (trim t).getLast hne = c := by
    rw [List.getLast?_eq_some_getLast hne] at h
    exact Option.some.inj h
  have hnot := List.rdropWhile_last_not isBlank (trimStart t) hne
  rw [← hlast]
  exact Bool.eq_false_iff.mpr hnot

/-- **A text is its own trim exactly if neither end is white space.** -/
theorem trim_eq_self_iff {t : Text} :
    trim t = t ↔ (∀ c, t.head? = some c → isBlank c = false) ∧
      ∀ c, t.getLast? = some c → isBlank c = false := by
  constructor
  · intro h
    refine ⟨fun c hc => ?_, fun c hc => ?_⟩
    · exact isBlank_of_head?_trim (t := t) (by rw [h]; exact hc)
    · exact isBlank_of_getLast?_trim (t := t) (by rw [h]; exact hc)
  · rintro ⟨hhead, hlast⟩
    have hstart : trimStart t = t := by
      cases t with
      | nil => rfl
      | cons c rest => exact List.dropWhile_cons_of_neg (by simp [hhead c rfl])
    rw [trim, hstart, trimEnd_eq_rdropWhile, List.rdropWhile_eq_self_iff]
    intro hne
    simp [hlast _ (List.getLast?_eq_some_getLast hne)]

@[simp] theorem trim_trim (t : Text) : trim (trim t) = trim t :=
  trim_eq_self_iff.mpr ⟨fun _ => isBlank_of_head?_trim, fun _ => isBlank_of_getLast?_trim⟩

theorem trim_cons_of_isBlank {c : Char} (hc : isBlank c = true) (t : Text) :
    trim (c :: t) = trim t := by
  rw [trim, trimStart, List.dropWhile_cons_of_pos hc, trim, trimStart]

/-- What follows a character other than white space stays when the start is trimmed. -/
theorem trimStart_append_cons {c : Char} (hc : isBlank c = false) (a b : Text) :
    trimStart (a ++ c :: b) = trimStart a ++ c :: b := by
  unfold trimStart
  induction a with
  | nil => exact List.dropWhile_cons_of_neg (by simp [hc])
  | cons d a ih =>
    rw [List.cons_append, List.dropWhile_cons, List.dropWhile_cons, ih]
    split <;> rfl

/-- What stands before a character other than white space stays when the end is trimmed. -/
theorem trimEnd_append_cons {c : Char} (hc : isBlank c = false) (a b : Text) :
    trimEnd (a ++ c :: b) = a ++ c :: trimEnd b := by
  have hreverse := trimStart_append_cons hc b.reverse a.reverse
  unfold trimStart at hreverse
  unfold trimEnd
  rw [List.reverse_append, List.reverse_cons, List.append_assoc, List.singleton_append, hreverse]
  simp

/-- A text is blank exactly if all its characters are white space. -/
theorem isAllBlank_iff {t : Text} : isAllBlank t = true ↔ ∀ c ∈ t, isBlank c = true := by
  rw [isAllBlank, List.isEmpty_iff, trim, trimEnd_eq_rdropWhile, List.rdropWhile_eq_nil_iff]
  constructor
  · intro h
    by_contra hne
    have hstart : trimStart t ≠ [] := by
      rw [trimStart, Ne, List.dropWhile_eq_nil_iff]
      exact hne
    obtain ⟨c, rest, hcons⟩ := List.exists_cons_of_ne_nil hstart
    have hnot := List.head?_dropWhile_not isBlank t
    rw [show t.dropWhile isBlank = trimStart t from rfl, hcons] at hnot
    simp [h c (by simp [hcons])] at hnot
  · intro h c hc
    exact h c ((List.dropWhile_suffix isBlank).subset hc)

/-- What is trimmed from the end of a text is white space. -/
theorem exists_trimEnd_append (t : Text) :
    ∃ gap, (∀ c ∈ gap, isBlank c = true) ∧ t = trimEnd t ++ gap := by
  refine ⟨t.rtakeWhile isBlank, fun c hc => List.mem_rtakeWhile_imp hc, ?_⟩
  rw [trimEnd_eq_rdropWhile, List.rdropWhile_append_rtakeWhile]

/-- White space at the end of a text is trimmed. -/
theorem trimEnd_append_gap (t : Text) {gap : Text} (h : ∀ c ∈ gap, isBlank c = true) :
    trimEnd (t ++ gap) = trimEnd t := by
  induction gap using List.reverseRecOn with
  | nil => rw [List.append_nil]
  | append_singleton gap c ih =>
    rw [List.forall_mem_append] at h
    rw [← List.append_assoc, trimEnd_eq_rdropWhile,
      List.rdropWhile_concat_pos _ _ _ (h.2 c (List.mem_singleton_self c)),
      ← trimEnd_eq_rdropWhile, ih h.1]

/-- White space at the start of a text is at its end too if nothing else follows. -/
theorem trimEnd_cons_of_isBlank {c : Char} (hc : isBlank c = true) (t : Text) :
    trimEnd (c :: t) = if trimEnd t = [] then [] else c :: trimEnd t := by
  by_cases h : ∀ d ∈ t, isBlank d = true
  · have hnil : ∀ {u : Text}, (∀ d ∈ u, isBlank d = true) → trimEnd u = [] := by
      intro u hu
      rw [trimEnd_eq_rdropWhile, List.rdropWhile_eq_nil_iff]
      exact hu
    rw [if_pos (hnil h), hnil (List.forall_mem_cons.mpr ⟨hc, h⟩)]
  · simp only [not_forall, Bool.not_eq_true] at h
    obtain ⟨d, hd, hnot⟩ := h
    obtain ⟨a, b, rfl⟩ := List.append_of_mem hd
    rw [← List.cons_append, trimEnd_append_cons hnot, trimEnd_append_cons hnot, if_neg (by simp),
      List.cons_append]

/-- What one character of white space at either end does not change, trimming does not change. -/
theorem trim_iff {P : Text → Prop} (hcons : ∀ {c}, isBlank c = true → ∀ t, P (c :: t) ↔ P t)
    (hconcat : ∀ {c}, isBlank c = true → ∀ t, P (t ++ [c]) ↔ P t) (t : Text) :
    P (trim t) ↔ P t := by
  have hend : ∀ u, P (trimEnd u) ↔ P u := by
    intro u
    induction u using List.reverseRecOn with
    | nil => exact Iff.rfl
    | append_singleton u c ih =>
      rw [trimEnd_eq_rdropWhile] at ih ⊢
      cases hc : isBlank c with
      | true => rw [List.rdropWhile_concat_pos _ _ _ hc, ih, hconcat hc]
      | false => rw [List.rdropWhile_concat_neg _ _ _ (by simp [hc])]
  have hstart : P (trimStart t) ↔ P t := by
    induction t with
    | nil => exact Iff.rfl
    | cons c t ih =>
      cases hc : isBlank c with
      | true => rw [trimStart, List.dropWhile_cons_of_pos hc, ← trimStart, ih, hcons hc]
      | false => rw [trimStart, List.dropWhile_cons_of_neg (by simp [hc])]
  exact (hend (trimStart t)).trans hstart

end Text

end SchemaIntake
