import SchemaIntake.Proofs.Text.Cutting
import SchemaIntake.Text.Case

/-!
# Case mappings and ASCII

The case mappings of Unicode take a few characters beyond ASCII to ASCII letters: a long s
becomes `S`, a dotless i becomes `I`, and ligatures fall apart.  What is proved here is how far
that goes.  Nothing but an ASCII character itself becomes an ASCII character that is no letter,
so blanks, parentheses and quotes stay where they are; and an ASCII word without `F`, `I` and `S`
is the upper case of its own spellings alone.

## Main results

* `Text.upperChar_of_not_ascii`, `Text.lowerChar_of_not_ascii` — the images of the characters
  beyond ASCII.
* `Text.exists_of_upper_eq_append_cons` — an upper-case text falls apart at a character that is
  no letter where the text itself does.
* `Text.mem_of_mem_lower` — lower case brings in letters only.
* `Text.sameLetters_of_upper_eq` — equal upper case means equal letters, for most words.
-/

namespace SchemaIntake

namespace Text

/-! ### ASCII -/

/-- A property of all ASCII characters, checked one by one. -/
theorem forall_ascii {P : Char → Prop} (h : ∀ n < 0x80, P (Char.ofNat n)) {c : Char}
    (hc : c.toNat < 0x80) : P c := by
  have hn := h c.toNat hc
  rwa [Char.ofNat_toNat] at hn

theorem toNat_ofNat_of_isValidChar {n : Nat} (h : n.isValidChar) : (Char.ofNat n).toNat = n := by
  rw [Char.ofNat, dif_pos h]
  rfl

theorem toNat_of_isLetter {c : Char} (h : isLetter c = true) : c.toNat < 0x80 := by
  simp only [isLetter, Bool.or_eq_true, Bool.and_eq_true, decide_eq_true_eq] at h
  rcases h with ⟨-, h⟩ | ⟨-, h⟩
  · exact Nat.lt_of_le_of_lt h (by decide)
  · exact Nat.lt_of_le_of_lt h (by decide)

theorem toNat_of_isDigit {c : Char} (h : isDigit c = true) : c.toNat < 0x80 := by
  simp only [isDigit, Bool.and_eq_true, decide_eq_true_eq] at h
  exact Nat.lt_of_le_of_lt h.2 (by decide)

/-- An ASCII character that is no letter is the upper case of itself alone. -/
theorem eq_of_toUpper_eq {c x : Char} (hc : c.toNat < 0x80) (hx : isLetter x = false)
    (h : c.toUpper = x) : c = x := by
  subst h
  revert hx
  exact forall_ascii (P := fun c => isLetter c.toUpper = false → c = c.toUpper)
    (by decide) hc

theorem eq_of_toLower_eq {c x : Char} (hc : c.toNat < 0x80) (hx : isLetter x = false)
    (h : c.toLower = x) : c = x := by
  subst h
  revert hx
  exact forall_ascii (P := fun c => isLetter c.toLower = false → c = c.toLower)
    (by decide) hc

/-! ### Beyond ASCII -/

/-- A case mapping looks a character up in the table of several images, then on the runs, and
otherwise leaves it alone. -/
theorem mapCase_eq (several : List (Nat × List Nat)) (runs : List CaseRun) (c : Char) :
    (∃ images, (c.toNat, images) ∈ several ∧ mapCase several runs c = images.map Char.ofNat) ∨
      (∃ run ∈ runs, run.first ≤ c.toNat ∧ c.toNat ≤ run.last ∧
        mapCase several runs c = [Char.ofNat (run.image + (c.toNat - run.first))]) ∨
      mapCase several runs c = [c] := by
  cases hseveral : several.lookup c.toNat with
  | some images =>
    obtain ⟨before, after, rfl, -⟩ := List.lookup_eq_some_iff.mp hseveral
    exact Or.inl ⟨images, by simp, by rw [mapCase, hseveral]⟩
  | none =>
    right
    cases hrun : runs.findSome? (·.image? c.toNat) with
    | none =>
      refine Or.inr ?_
      rw [mapCase, hseveral, runImage, hrun, Option.getD_none, Char.ofNat_toNat]
    | some image =>
      obtain ⟨run, hmem, himage⟩ := List.exists_of_findSome?_eq_some hrun
      rw [CaseRun.image?] at himage
      split at himage
      · next hin =>
        refine Or.inl ⟨run, hmem, hin.1, hin.2.1, ?_⟩
        rw [mapCase, hseveral, runImage, hrun, Option.getD_some, Option.some.inj himage]
      · exact absurd himage (by simp)

/-- Whether all images of a run are characters beyond ASCII. -/
def CaseRun.staysBeyond (run : CaseRun) : Bool :=
  decide (0x80 ≤ run.image) &&
    (decide (run.image + (run.last - run.first) < 0xd800) ||
      decide (0xdfff < run.image) && decide (run.image + (run.last - run.first) < 0x110000))

theorem CaseRun.toNat_image {run : CaseRun} (h : run.staysBeyond = true) {n : Nat}
    (hn : run.first ≤ n ∧ n ≤ run.last) :
    0x80 ≤ (Char.ofNat (run.image + (n - run.first))).toNat := by
  simp only [staysBeyond, Bool.and_eq_true, Bool.or_eq_true, decide_eq_true_eq] at h
  have hvalid : (run.image + (n - run.first)).isValidChar := by
    rcases h.2 with h2 | h2
    · exact Or.inl (by omega)
    · exact Or.inr ⟨by omega, by omega⟩
  rw [toNat_ofNat_of_isValidChar hvalid]
  omega

/-- The ASCII capitals that occur in the upper case of characters beyond ASCII. -/
def strayCapitals : Text := "AFHIJLNSTWY".toList

/-- A text that may be the upper case of one character beyond ASCII: its ASCII letters are stray
capitals, and if it has no other characters at all, it starts with `F`, `I` or `S`. -/
def isStrayImage (image : Text) : Bool :=
  image.all (fun x => 0x80 ≤ x.toNat || strayCapitals.contains x) &&
    (image.any (fun x => 0x80 ≤ x.toNat) || image.head?.any ("FIS".toList.contains ·))

theorem isStrayImage_singleton {x : Char} (h : 0x80 ≤ x.toNat) : isStrayImage [x] = true := by
  simp [isStrayImage, h]

theorem isStrayImage_upperChar {c : Char} (hc : 0x80 ≤ c.toNat) :
    isStrayImage (upperChar c) = true := by
  have hupper : upperChar c = mapCase upperSeveral upperRuns c := by
    rw [upperChar, if_neg (by omega)]
  rw [hupper]
  rcases mapCase_eq upperSeveral upperRuns c with ⟨images, hmem, h⟩ | ⟨run, hmem, h1, h2, h⟩ | h
  · have htable : ∀ entry ∈ upperSeveral, isStrayImage (entry.2.map Char.ofNat) = true := by
      decide +kernel
    rw [h]
    exact htable _ hmem
  · have htable : ∀ run ∈ upperRuns, run.staysBeyond = true ∨
        run.first = run.last ∧ (Char.ofNat run.image = 'I' ∨ Char.ofNat run.image = 'S') := by
      decide +kernel
    rw [h]
    rcases htable run hmem with hrun | ⟨hone, hrun⟩
    · exact isStrayImage_singleton (CaseRun.toNat_image hrun ⟨h1, h2⟩)
    -- the runs that come back into ASCII have one character each
    · have hzero : c.toNat - run.first = 0 := by omega
      rw [hzero, Nat.add_zero]
      rcases hrun with hI | hS
      · rw [hI]; decide
      · rw [hS]; decide
  · rw [h]
    exact isStrayImage_singleton hc

/-- **The upper case of a character beyond ASCII.**  Its ASCII letters are stray capitals; and if
it has no other characters at all, it starts with `F`, `I` or `S`. -/
theorem upperChar_of_not_ascii {c : Char} (hc : 0x80 ≤ c.toNat) :
    (∀ x ∈ upperChar c, 0x80 ≤ x.toNat ∨ x ∈ strayCapitals) ∧
      ((∃ x ∈ upperChar c, 0x80 ≤ x.toNat) ∨ ∃ x ∈ "FIS".toList, (upperChar c).head? = some x) := by
  have himage := isStrayImage_upperChar hc
  rw [isStrayImage, Bool.and_eq_true, Bool.or_eq_true, List.all_eq_true, List.any_eq_true,
    Option.any_eq_true] at himage
  obtain ⟨hall, hsome⟩ := himage
  refine ⟨fun x hx => by simpa using hall x hx, ?_⟩
  rcases hsome with ⟨x, hx, hbeyond⟩ | ⟨x, hx, hcapital⟩
  · exact Or.inl ⟨x, hx, by simpa using hbeyond⟩
  · exact Or.inr ⟨x, List.contains_iff_mem.mp hcapital, hx⟩

/-- **The lower case of a character beyond ASCII** is one character beyond ASCII, or `k`; or it
is several characters, of which only `i` is ASCII. -/
theorem lowerChar_of_not_ascii {c : Char} (hc : 0x80 ≤ c.toNat) :
    ∀ x ∈ lowerChar c, 0x80 ≤ x.toNat ∨ x = 'k' ∨ x = 'i' := by
  have hlower : lowerChar c = mapCase lowerSeveral lowerRuns c := by
    rw [lowerChar, if_neg (by omega)]
  rw [hlower]
  intro x hx
  rcases mapCase_eq lowerSeveral lowerRuns c with ⟨images, hmem, h⟩ | ⟨run, hmem, h1, h2, h⟩ | h
  · have htable : ∀ entry ∈ lowerSeveral,
        ∀ n ∈ entry.2, 0x80 ≤ (Char.ofNat n).toNat ∨ Char.ofNat n = 'k' ∨ Char.ofNat n = 'i' := by
      decide +kernel
    rw [h] at hx
    obtain ⟨n, hn, rfl⟩ := List.mem_map.mp hx
    exact htable _ hmem n hn
  · have htable : ∀ run ∈ lowerRuns, run.staysBeyond = true ∨
        run.first = run.last ∧ Char.ofNat run.image = 'k' := by
      decide +kernel
    obtain rfl : x = _ := by simpa [h] using hx
    rcases htable run hmem with hrun | ⟨hone, hrun⟩
    · exact Or.inl (CaseRun.toNat_image hrun ⟨h1, h2⟩)
    · have hzero : c.toNat - run.first = 0 := by omega
      rw [hzero, Nat.add_zero]
      exact Or.inr (Or.inl hrun)
  · obtain rfl : x = c := by simpa [h] using hx
    exact Or.inl hc

/-! ### Texts -/

/-- Upper case maps an ASCII text character by character. -/
theorem upper_of_ascii {t : Text} (h : ∀ c ∈ t, c.toNat < 0x80) :
    upper t = t.map Char.toUpper := by
  induction t with
  | nil => rfl
  | cons c t ih =>
    rw [upper, List.flatMap_cons, upperChar_of_ascii (h c (by simp)), ← upper,
      ih fun d hd => h d (by simp [hd])]
    rfl

theorem upper_cons (c : Char) (t : Text) : upper (c :: t) = upperChar c ++ upper t := by
  rw [upper, upper, List.flatMap_cons]

/-- A character that is its own upper case stays in a text. -/
theorem mem_upper_of_mem {c : Char} (hc : upperChar c = [c]) {t : Text} (h : c ∈ t) :
    c ∈ upper t := by
  rw [upper, List.mem_flatMap]
  exact ⟨c, h, by rw [hc]; exact List.mem_singleton_self c⟩

/-- A text is none of some words, in upper case, if a character of it is in none of them. -/
theorem contains_upper_eq_false {c : Char} (hc : upperChar c = [c]) {t : Text} (h : c ∈ t)
    {words : List Text} (hwords : ∀ w ∈ words, c ∉ w) : words.contains (upper t) = false := by
  rw [Bool.eq_false_iff, Ne, List.contains_iff_mem]
  exact fun hmem => hwords _ hmem (mem_upper_of_mem hc h)

/-- Only an ASCII character itself becomes an ASCII character that is no letter. -/
theorem upperChar_of_mem {c x : Char} (h : x ∈ upperChar c) (hx : x.toNat < 0x80)
    (hletter : isLetter x = false) : c = x ∧ upperChar c = [x] := by
  rcases Nat.lt_or_ge c.toNat 0x80 with hc | hc
  · rw [upperChar_of_ascii hc, List.mem_singleton] at h
    refine ⟨eq_of_toUpper_eq hc hletter h.symm, ?_⟩
    rw [upperChar_of_ascii hc, h]
  · rcases (upperChar_of_not_ascii hc).1 x h with hbeyond | hstray
    · omega
    · have hall : strayCapitals.all isLetter = true := by decide
      simp [List.all_eq_true.mp hall x hstray] at hletter

theorem eq_of_mem_lowerChar {c x : Char} (h : x ∈ lowerChar c) (hx : x.toNat < 0x80)
    (hletter : isLetter x = false) : c = x := by
  rcases Nat.lt_or_ge c.toNat 0x80 with hc | hc
  · rw [lowerChar_of_ascii hc, List.mem_singleton] at h
    exact eq_of_toLower_eq hc hletter h.symm
  · rcases lowerChar_of_not_ascii hc x h with hbeyond | rfl | rfl
    · omega
    · simp [isLetter] at hletter
    · simp [isLetter] at hletter

/-- **An upper-case text falls apart at a character that is no letter where the text does.** -/
theorem exists_of_upper_eq_append_cons {t u v : Text} {x : Char} (hx : x.toNat < 0x80)
    (hletter : isLetter x = false) (h : upper t = u ++ x :: v) :
    ∃ a b, t = a ++ x :: b ∧ upper a = u ∧ upper b = v := by
  induction t generalizing u with
  | nil => simp [upper] at h
  | cons c t ih =>
    rw [upper_cons] at h
    rcases List.append_eq_append_iff.mp h with ⟨w, rfl, hw⟩ | ⟨w, hw, hv⟩
    · -- the character comes after the upper case of the first one
      obtain ⟨a, b, rfl, ha, hb⟩ := ih hw
      exact ⟨c :: a, b, rfl, by rw [upper_cons, ha], hb⟩
    · cases w with
      | nil =>
        obtain ⟨a, b, rfl, ha, hb⟩ := ih (u := []) (by simpa using hv.symm)
        refine ⟨c :: a, b, rfl, ?_, hb⟩
        rw [upper_cons, ha, hw]
        simp
      | cons y w =>
        obtain ⟨rfl, hv⟩ := List.cons.inj hv
        obtain ⟨rfl, hone⟩ := upperChar_of_mem (x := x) (by rw [hw]; simp) hx hletter
        -- the first character is the one itself, and nothing stands before it
        obtain ⟨rfl, rfl⟩ : u = [] ∧ w = [] := by
          rw [hone] at hw
          cases u with
          | nil => exact ⟨rfl, by simpa using hw.symm⟩
          | cons z u => simp at hw
        exact ⟨[], t, rfl, rfl, by simpa using hv.symm⟩

/-- An upper-case text that starts with a letter no character beyond ASCII brings in. -/
theorem exists_cons_of_upper_eq_cons {t u : Text} {x : Char} (hx : x.toNat < 0x80)
    (hstray : x ∉ strayCapitals) (h : upper t = x :: u) :
    ∃ c rest, t = c :: rest ∧ c.toNat < 0x80 ∧ c.toUpper = x := by
  cases t with
  | nil => simp [upper] at h
  | cons c rest =>
    rw [upper_cons] at h
    rcases Nat.lt_or_ge c.toNat 0x80 with hc | hc
    · rw [upperChar_of_ascii hc] at h
      exact ⟨c, rest, rfl, hc, (List.cons.inj h).1⟩
    · obtain ⟨hall, hsome⟩ := upperChar_of_not_ascii hc
      obtain ⟨y, ys, himage⟩ : ∃ y ys, upperChar c = y :: ys := by
        refine List.exists_cons_of_ne_nil ?_
        rcases hsome with ⟨y, hy, -⟩ | ⟨y, -, hy⟩
        · exact List.ne_nil_of_mem hy
        · exact List.ne_nil_of_mem (List.mem_of_head? hy)
      rw [himage] at h hall
      obtain rfl := (List.cons.inj h).1
      rcases hall y List.mem_cons_self with hbeyond | hmem
      · omega
      · exact absurd hmem hstray

/-- Lower case takes an ASCII character of a text to its own lower case. -/
theorem toLower_mem_lower {t : Text} {c : Char} (hc : c.toNat < 0x80) (h : c ∈ t) :
    c.toLower ∈ lower t := by
  suffices hafter : ∀ before, c.toLower ∈ lowerAfter before t from hafter []
  induction t with
  | nil => exact absurd h List.not_mem_nil
  | cons d t ih =>
    intro before
    rw [lowerAfter]
    rcases List.mem_cons.mp h with rfl | h
    · have hsigma : c ≠ 'Σ' := by
        rintro rfl
        exact absurd hc (by decide)
      rw [if_neg hsigma, lowerChar_of_ascii hc]
      exact List.mem_cons_self
    · exact List.mem_append_right _ (ih h _)

theorem head?_lowerAfter_cons {c : Char} (hc : c.toNat < 0x80) (before t : Text) :
    (lowerAfter before (c :: t)).head? = some c.toLower := by
  have hsigma : c ≠ 'Σ' := by
    rintro rfl
    exact absurd hc (by decide)
  rw [lowerAfter, if_neg hsigma, lowerChar_of_ascii hc]
  rfl

theorem head?_lower_cons {c : Char} (hc : c.toNat < 0x80) (t : Text) :
    (lower (c :: t)).head? = some c.toLower :=
  head?_lowerAfter_cons hc [] t

/-- Lower case brings no ASCII characters but letters into a text. -/
theorem mem_of_mem_lower {t : Text} {x : Char} (hx : x.toNat < 0x80)
    (hletter : isLetter x = false) (h : x ∈ lower t) : x ∈ t := by
  suffices hafter : ∀ before, x ∈ lowerAfter before t → x ∈ t from hafter [] h
  clear h
  induction t with
  | nil => intro before h; simp [lowerAfter] at h
  | cons c t ih =>
    intro before h
    rw [lowerAfter] at h
    rcases List.mem_append.mp h with h | h
    · split at h
      · -- neither form of the small sigma is ASCII
        split at h <;> obtain rfl := List.mem_singleton.mp h <;> exact absurd hx (by decide)
      · rw [eq_of_mem_lowerChar h hx hletter]
        exact List.mem_cons_self
    · exact List.mem_cons_of_mem c (ih _ h)

/-- The upper case of an ASCII text has its letters. -/
theorem sameLetters_upper_of_ascii {t : Text} (h : ∀ c ∈ t, c.toNat < 0x80) :
    sameLetters t (upper t) = true := by
  have hlower : ∀ c ∈ t, c.toLower = c.toUpper.toLower := fun c hc =>
    forall_ascii (P := fun c => c.toLower = c.toUpper.toLower) (by decide) (h c hc)
  rw [sameLetters, upper_of_ascii h, List.map_map, List.map_congr_left hlower, beq_iff_eq]
  rfl

/-- **Equal upper case means equal letters**, for an ASCII word in which no ligature and neither
a dotless i nor a long s can hide. -/
theorem sameLetters_of_upper_eq {t w : Text}
    (hplain : w.all (fun x => x.toNat < 0x80 && !"FIS".toList.contains x) = true)
    (h : upper t = w) : sameLetters t w = true := by
  have hw : ∀ x ∈ w, x.toNat < 0x80 ∧ x ∉ "FIS".toList := by simpa using hplain
  clear hplain
  suffices hmap : t.map Char.toLower = w.map Char.toLower by
    rw [sameLetters, hmap, beq_self_eq_true]
  subst h
  induction t with
  | nil => rfl
  | cons c t ih =>
    -- every other character would leave a trace in its capitals
    have hc : c.toNat < 0x80 := by
      by_contra hbeyond
      rcases (upperChar_of_not_ascii (c := c) (by omega)).2 with ⟨x, hx, hx'⟩ | ⟨x, hx, hhead⟩
      · have := (hw x (by rw [upper_cons]; simp [hx])).1
        omega
      · exact (hw x (by rw [upper_cons]; simp [List.mem_of_head? hhead])).2 hx
    rw [upper_cons, upperChar_of_ascii hc] at hw ⊢
    have hlower : c.toUpper.toLower = c.toLower :=
      forall_ascii (P := fun c => c.toUpper.toLower = c.toLower) (by decide) hc
    rw [List.map_cons, List.cons_append, List.map_cons, hlower, List.nil_append,
      ih fun x hx => hw x (by simp [hx])]

end Text

end SchemaIntake
