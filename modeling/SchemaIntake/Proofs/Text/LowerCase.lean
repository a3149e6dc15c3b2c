import SchemaIntake.Proofs.Text.LetterCase

/-!
# Texts whose lower case is plain

Lower case is a large table, but a text whose lower case is plain has been plain before: beyond
ASCII nothing but the Kelvin sign becomes an ASCII character alone, and nothing becomes white space.
So for all words without a `k` it makes no difference whether a text is compared with them in lower
case or up to the case of ASCII letters, and whether it is trimmed before or after.

## Main definitions

* `Text.isPlain c` — ASCII other than the letter `k`, or white space.

## Main results

* `Text.exists_mem_lowerChar` — what is not plain leaves something in lower case that is not.
* `Text.lower_eq_uncased` — **a text whose lower case is plain** loses the case of ASCII letters
  only.
* `Text.lower_eq_iff`, `Text.trim_lower_eq_iff` — comparing the lower case of a text with a word.
-/

namespace SchemaIntake

namespace Text

/-- A property of all white space, checked one by one. -/
theorem forall_blank {P : Char → Prop}
    (h : ∀ r ∈ blankRanges, ∀ n ∈ List.range' r.1 (r.2 + 1 - r.1), P (Char.ofNat n)) {c : Char}
    (hc : isBlank c = true) : P c := by
  rw [isBlank, inRanges, List.any_eq_true] at hc
  obtain ⟨r, hr, hin⟩ := hc
  rw [Bool.and_eq_true, decide_eq_true_eq, decide_eq_true_eq] at hin
  have hn := h r hr c.toNat (List.mem_range'_1.mpr ⟨hin.1, by omega⟩)
  rwa [Char.ofNat_toNat] at hn

/-- ASCII other than the letter `k`, or white space. -/
def isPlain (c : Char) : Bool := decide (c.toNat < 0x80) && c != 'k' || isBlank c

theorem isPlain_of_isBlank {c : Char} (h : isBlank c = true) : isPlain c = true := by
  rw [isPlain, h, Bool.or_true]

theorem not_isPlain {x : Char} (h : 0x80 ≤ x.toNat) (hx : isBlank x = false) :
    isPlain x = false := by
  rw [isPlain, hx, decide_eq_false (by omega), Bool.false_and, Bool.or_false]

/-- White space is its own lower case. -/
theorem lowerChar_of_isBlank {c : Char} (hc : isBlank c = true) :
    c ≠ 'Σ' ∧ lowerChar c = [c.toLower] := by
  refine forall_blank (P := fun c => c ≠ 'Σ' ∧ lowerChar c = [c.toLower]) ?_ hc
  decide +kernel

/-- Whether no image of a run is white space. -/
def CaseRun.missesBlanks (run : CaseRun) : Bool :=
  blankRanges.all fun r => r.2 < run.image || run.image + (run.last - run.first) < r.1

theorem CaseRun.isBlank_image {run : CaseRun} (hbeyond : run.staysBeyond = true)
    (h : run.missesBlanks = true) {n : Nat} (hn : run.first ≤ n ∧ n ≤ run.last) :
    isBlank (Char.ofNat (run.image + (n - run.first))) = false := by
  have hvalid : (Char.ofNat (run.image + (n - run.first))).toNat = run.image + (n - run.first) := by
    simp only [staysBeyond, Bool.and_eq_true, Bool.or_eq_true, decide_eq_true_eq] at hbeyond
    refine toNat_ofNat_of_isValidChar ?_
    rcases hbeyond.2 with hlow | hhigh
    · exact Or.inl (by omega)
    · exact Or.inr ⟨by omega, by omega⟩
  rw [isBlank, inRanges, List.any_eq_false]
  intro r hr
  have hmisses := List.all_eq_true.mp h r hr
  rw [Bool.or_eq_true, decide_eq_true_eq, decide_eq_true_eq] at hmisses
  rw [hvalid, Bool.and_eq_true, decide_eq_true_eq, decide_eq_true_eq]
  omega

/-- **What is not plain leaves something in lower case that is not plain.** -/
theorem exists_mem_lowerChar {c : Char} (hc : 0x80 ≤ c.toNat) (hblank : isBlank c = false) :
    ∃ x ∈ lowerChar c, isPlain x = false := by
  have hlower : lowerChar c = mapCase lowerSeveral lowerRuns c := by
    rw [lowerChar, if_neg (by omega)]
  rw [hlower]
  rcases mapCase_eq lowerSeveral lowerRuns c with ⟨images, hmem, h⟩ | ⟨run, hmem, h1, h2, h⟩ | h
  · have htable : ∀ entry ∈ lowerSeveral,
        (entry.2.map Char.ofNat).any (!isPlain ·) = true := by decide +kernel
    obtain ⟨x, hx, hplain⟩ := List.any_eq_true.mp (htable _ hmem)
    rw [h]
    exact ⟨x, hx, by simpa using hplain⟩
  · have htable : ∀ run ∈ lowerRuns, run.staysBeyond = true ∧ run.missesBlanks = true ∨
        run.first = run.last ∧ Char.ofNat run.image = 'k' := by decide +kernel
    rw [h]
    refine ⟨_, List.mem_singleton_self _, ?_⟩
    -- one run alone comes back into ASCII, and has one character
    rcases htable run hmem with ⟨hbeyond, hmisses⟩ | ⟨hone, hrun⟩
    · exact not_isPlain (CaseRun.toNat_image hbeyond ⟨h1, h2⟩)
        (CaseRun.isBlank_image hbeyond hmisses ⟨h1, h2⟩)
    · have hzero : c.toNat - run.first = 0 := by omega
      rw [hzero, Nat.add_zero, hrun]
      decide
  · exact ⟨c, by rw [h]; exact List.mem_singleton_self c, not_isPlain hc hblank⟩

/-- Every character of a text leaves something in its lower case; a capital sigma leaves one of the
two small ones. -/
theorem exists_mem_lower {c : Char} (h : 0x80 ≤ c.toNat) (hblank : isBlank c = false) {t : Text}
    (hc : c ∈ t) : ∃ x ∈ lower t, isPlain x = false := by
  suffices hafter : ∀ before, ∃ x ∈ lowerAfter before t, isPlain x = false from hafter []
  induction t with
  | nil => exact absurd hc List.not_mem_nil
  | cons d t ih =>
    intro before
    rw [lowerAfter]
    rcases List.mem_cons.mp hc with rfl | hc
    · split
      · split
        · exact ⟨'ς', by simp, by decide⟩
        · exact ⟨'σ', by simp, by decide⟩
      · obtain ⟨x, hx, hplain⟩ := exists_mem_lowerChar h hblank
        exact ⟨x, List.mem_append_left _ hx, hplain⟩
    · obtain ⟨x, hx, hplain⟩ := ih hc (d :: before)
      exact ⟨x, List.mem_append_right _ hx, hplain⟩

/-- ASCII and white space lose the case of letters only. -/
theorem lower_eq_uncased_of_ascii {t : Text} (h : ∀ c ∈ t, c.toNat < 0x80 ∨ isBlank c = true) :
    lower t = uncased t := by
  have hchar : ∀ c ∈ t, c ≠ 'Σ' ∧ lowerChar c = [c.toLower] := by
    intro c hc
    rcases h c hc with hascii | hblank
    · exact ⟨by rintro rfl; exact absurd hascii (by decide), lowerChar_of_ascii hascii⟩
    · exact lowerChar_of_isBlank hblank
  rw [lower_eq_flatMap fun hsigma => (hchar _ hsigma).1 rfl, uncased]
  clear h
  induction t with
  | nil => rfl
  | cons c t ih =>
    rw [List.flatMap_cons, (hchar c List.mem_cons_self).2, List.map_cons,
      ih fun d hd => hchar d (List.mem_cons_of_mem c hd), List.singleton_append]

/-- **A text whose lower case is plain** loses the case of ASCII letters only. -/
theorem lower_eq_uncased {t : Text} (h : ∀ x ∈ lower t, isPlain x = true) :
    lower t = uncased t := by
  refine lower_eq_uncased_of_ascii fun c hc => ?_
  by_contra hcontra
  rw [not_or, Nat.not_lt, Bool.not_eq_true] at hcontra
  obtain ⟨x, hx, hplain⟩ := exists_mem_lower hcontra.1 hcontra.2 hc
  rw [h x hx] at hplain
  exact absurd hplain (by simp)

/-- A character whose lower case is ASCII is ASCII. -/
theorem toNat_of_toLower {c : Char} (h : c.toLower.toNat < 0x80) : c.toNat < 0x80 := by
  by_contra hbeyond
  rw [toLower_of_not_capital (by omega)] at h
  exact hbeyond h

/-- A word that texts are compared with: ASCII without the letter `k`. -/
def IsPlainWord (w : Text) : Prop := ∀ x ∈ w, x.toNat < 0x80 ∧ x ≠ 'k'

instance (w : Text) : Decidable (IsPlainWord w) :=
  decidable_of_iff (w.all (fun x => decide (x.toNat < 0x80) && x != 'k') = true)
    (by simp [IsPlainWord])

theorem IsPlainWord.isPlain {w : Text} (h : IsPlainWord w) {x : Char} (hx : x ∈ w) :
    isPlain x = true := by
  obtain ⟨hascii, hk⟩ := h x hx
  simp [Text.isPlain, hascii, hk]

/-- Comparing the lower case of a text with a word. -/
theorem lower_eq_iff {t w : Text} (hw : IsPlainWord w) : lower t = w ↔ uncased t = w := by
  constructor
  · intro h
    rw [← lower_eq_uncased (t := t) fun x hx => hw.isPlain (h ▸ hx), h]
  · intro h
    rw [← h]
    refine lower_eq_uncased_of_ascii fun c hc => Or.inl (toNat_of_toLower ?_)
    exact (hw _ (h ▸ List.mem_map_of_mem hc)).1

/-- White space is all that trimming takes away. -/
theorem forall_mem_trim_iff {P : Char → Prop} (hP : ∀ c, isBlank c = true → P c) (t : Text) :
    (∀ c ∈ trim t, P c) ↔ ∀ c ∈ t, P c := by
  refine trim_iff (P := fun t => ∀ c ∈ t, P c) ?_ ?_ t
  · intro c hc u
    rw [List.forall_mem_cons]
    exact and_iff_right (hP c hc)
  · intro c hc u
    rw [List.forall_mem_append, List.forall_mem_singleton]
    exact and_iff_left (hP c hc)

/-- **Comparing the trimmed lower case of a text with a word**: the text may be trimmed before. -/
theorem trim_lower_eq_iff {t w : Text} (hw : IsPlainWord w) :
    trim (lower t) = w ↔ uncased (trim t) = w := by
  constructor
  · intro h
    have hplain : ∀ x ∈ lower t, isPlain x = true := by
      rw [← forall_mem_trim_iff (fun _ => isPlain_of_isBlank), h]
      exact fun x hx => hw.isPlain hx
    rw [← trim_uncased, ← lower_eq_uncased hplain, h]
  · intro h
    have hascii : ∀ c ∈ t, c.toNat < 0x80 ∨ isBlank c = true := by
      rw [← forall_mem_trim_iff (fun _ hc => Or.inr hc)]
      exact fun c hc => Or.inl (toNat_of_toLower (hw _ (h ▸ List.mem_map_of_mem hc)).1)
    rw [lower_eq_uncased_of_ascii hascii, trim_uncased, h]

end Text

end SchemaIntake
