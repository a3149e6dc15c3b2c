import SchemaIntake.Proofs.Text.Casing
import SchemaIntake.Proofs.Text.Cutting
import SchemaIntake.Proofs.Text.Trimming
import SchemaIntake.Text.Quoted

/-!
# The case of ASCII letters

What is left of a text when the case of its ASCII letters is put aside.  Whatever looks at
characters without telling the two cases of a letter apart commutes with that: it may be done
before or after.  The case mappings forget it altogether.

## Main definitions

* `Text.uncased t` — the text with its ASCII letters in lower case.
* `Text.Caseless f` — `f` gives the same for both cases of a letter.

## Main results

* `Text.sameLetters_iff` — two texts have the same letters exactly if nothing else differs.
* `Text.upper_uncased`, `Text.lower_uncased` — the case mappings do not see the case of letters.
* `Text.trim_uncased`, `Text.words_uncased`, `Text.cutWhere_uncased`, `Text.quoted_uncased` —
  trimming, cutting and quoting commute with putting it aside.
-/

namespace SchemaIntake

namespace Text

/-- A text with its ASCII letters in lower case: what is left of it when their case is put
aside. -/
def uncased (t : Text) : Text := t.map Char.toLower

@[simp] theorem uncased_nil : uncased [] = [] := rfl

@[simp] theorem uncased_cons (c : Char) (t : Text) :
    uncased (c :: t) = c.toLower :: uncased t := rfl

@[simp] theorem uncased_append (a b : Text) : uncased (a ++ b) = uncased a ++ uncased b :=
  List.map_append

@[simp] theorem isEmpty_uncased (t : Text) : (uncased t).isEmpty = t.isEmpty := by
  cases t <;> rfl

@[simp] theorem length_uncased (t : Text) : (uncased t).length = t.length := List.length_map _

/-- Two texts have the same letters exactly if nothing but the case of letters differs. -/
theorem sameLetters_iff {a b : Text} : sameLetters a b = true ↔ uncased a = uncased b := by
  rw [sameLetters, beq_iff_eq, uncased, uncased]

/-! ### Characters -/

/-- Only the capital letters of ASCII have another lower case. -/
theorem toLower_of_not_capital {c : Char} (h : c.toNat < 0x41 ∨ 0x5a < c.toNat) :
    c.toLower = c := by
  have hbeyond : ¬ (c.val ≥ 'A'.val ∧ c.val ≤ 'Z'.val) := by
    rintro ⟨hge, hle⟩
    have hge : 'A'.toNat ≤ c.toNat := hge
    have hle : c.toNat ≤ 'Z'.toNat := hle
    have hA : 'A'.toNat = 0x41 := by decide
    have hZ : 'Z'.toNat = 0x5a := by decide
    omega
  exact dif_neg hbeyond

/-- A function of characters gives the same for both cases of an ASCII letter. -/
def Caseless {α : Type} (f : Char → α) : Prop := ∀ c, f c.toLower = f c

/-- Only the letters have to be looked at. -/
theorem caseless_of_letters {α : Type} {f : Char → α}
    (h : ∀ n < 26, f (Char.ofNat (0x61 + n)) = f (Char.ofNat (0x41 + n))) : Caseless f := by
  intro c
  by_cases hc : c.toNat < 0x41 ∨ 0x5a < c.toNat
  · rw [toLower_of_not_capital hc]
  · have hlower : ∀ n < 26, (Char.ofNat (0x41 + n)).toLower = Char.ofNat (0x61 + n) := by decide
    obtain ⟨n, hn⟩ := Nat.exists_eq_add_of_le (show 0x41 ≤ c.toNat by omega)
    have hchar : c = Char.ofNat (0x41 + n) := by rw [← hn, Char.ofNat_toNat]
    rw [hchar, hlower n (by omega), h n (by omega)]

theorem caseless_toLower : Caseless Char.toLower := caseless_of_letters (by decide)

theorem caseless_isBlank : Caseless isBlank := caseless_of_letters (by decide)

/-- A character that is no letter is told apart from all others in either case. -/
theorem caseless_eq {d : Char} (hd : isLetter d = false) (hascii : d.toNat < 0x80) :
    Caseless fun c => decide (c = d) := by
  intro c
  rcases Nat.lt_or_ge c.toNat 0x80 with hc | hc
  · have hiff : c.toLower = d ↔ c = d := by
      constructor
      · exact eq_of_toLower_eq hc hd
      · rintro rfl
        exact forall_ascii (P := fun c => isLetter c = false → c.toLower = c) (by decide) hascii hd
    exact decide_eq_decide.mpr hiff
  · rw [toLower_of_not_capital (by omega)]

@[simp] theorem uncased_uncased (t : Text) : uncased (uncased t) = uncased t := by
  rw [uncased, uncased, List.map_map]
  exact List.map_congr_left fun c _ => caseless_toLower c

@[simp] theorem sameLetters_uncased_left (a b : Text) :
    sameLetters (uncased a) b = sameLetters a b := by
  rw [Bool.eq_iff_iff, sameLetters_iff, sameLetters_iff, uncased_uncased]

/-! ### Looking at the characters one by one -/

variable {p : Char → Bool}

theorem comp_toLower (hp : Caseless p) : p ∘ Char.toLower = p := funext hp

theorem takeWhile_uncased (hp : Caseless p) (t : Text) :
    (uncased t).takeWhile p = uncased (t.takeWhile p) := by
  rw [uncased, List.takeWhile_map, comp_toLower hp, uncased]

theorem dropWhile_uncased (hp : Caseless p) (t : Text) :
    (uncased t).dropWhile p = uncased (t.dropWhile p) := by
  rw [uncased, List.dropWhile_map, comp_toLower hp, uncased]

theorem all_uncased (hp : Caseless p) (t : Text) : (uncased t).all p = t.all p := by
  rw [uncased, List.all_map, comp_toLower hp]

theorem reverse_uncased (t : Text) : (uncased t).reverse = uncased t.reverse := by
  rw [uncased, uncased, List.map_reverse]

theorem trim_uncased (t : Text) : trim (uncased t) = uncased (trim t) := by
  rw [trim, trimStart, dropWhile_uncased caseless_isBlank, trimEnd, reverse_uncased,
    dropWhile_uncased caseless_isBlank, reverse_uncased, trim, trimEnd, trimStart]

theorem isAllBlank_uncased (t : Text) : isAllBlank (uncased t) = isAllBlank t := by
  rw [isAllBlank, trim_uncased, isEmpty_uncased, isAllBlank]

theorem filter_map_uncased (ps : List Text) :
    (ps.map uncased).filter (!·.isEmpty) = (ps.filter (!·.isEmpty)).map uncased := by
  rw [List.filter_map]
  congr 2
  funext p
  exact congrArg (!·) (isEmpty_uncased p)

theorem splitOnP_uncased (hp : Caseless p) (t : Text) :
    (uncased t).splitOnP p = (t.splitOnP p).map uncased := by
  induction t with
  | nil => simp
  | cons c t ih =>
    rw [uncased_cons, List.splitOnP_cons_eq_if_modifyHead, List.splitOnP_cons_eq_if_modifyHead,
      hp c, ih]
    split
    · rfl
    · cases t.splitOnP p <;> rfl

theorem words_uncased (t : Text) : words (uncased t) = (words t).map uncased := by
  rw [words, splitOnP_uncased caseless_isBlank, filter_map_uncased, words]

/-- Cutting at characters that are chosen without regard to case. -/
theorem cutWhere_uncased {σ : Type} {next : σ → Char → σ} {isCut : σ → Char → Bool}
    (hnext : ∀ s, Caseless (next s)) (hcut : ∀ s, Caseless (isCut s)) (s : σ) (t : Text) :
    cutWhere next isCut s (uncased t) = (cutWhere next isCut s t).map uncased := by
  induction t generalizing s with
  | nil => rfl
  | cons c t ih =>
    rw [uncased_cons, cutWhere, cutWhere, hcut s c, hnext s c, ih]
    split
    · rfl
    · cases cutWhere next isCut (next s c) t <;> rfl

theorem join_uncased (separator : Text) (ps : List Text) :
    join (uncased separator) (ps.map uncased) = uncased (join separator ps) := by
  induction ps with
  | nil => rfl
  | cons p ps ih =>
    cases ps with
    | nil => simp [join]
    | cons q qs =>
      rw [List.map_cons] at ih
      rw [List.map_cons, List.map_cons, join_cons_cons, ih, join_cons_cons, uncased_append,
        uncased_append]

/-! ### Looking for one character -/

variable {d : Char}

theorem toLower_eq_iff (hd : Caseless fun c => decide (c = d)) (c : Char) :
    c.toLower = d ↔ c = d :=
  decide_eq_decide.mp (hd c)

theorem mem_uncased (hd : Caseless fun c => decide (c = d)) {t : Text} :
    d ∈ uncased t ↔ d ∈ t := by
  rw [uncased, List.mem_map]
  constructor
  · rintro ⟨c, hc, hlower⟩
    rwa [← (toLower_eq_iff hd c).mp hlower]
  · intro h
    exact ⟨d, h, (toLower_eq_iff hd d).mpr rfl⟩

/-- A text with a character that is no letter has other letters than a text without it. -/
theorem sameLetters_eq_false (hd : Caseless fun c => decide (c = d)) {a b : Text} (ha : d ∈ a)
    (hb : d ∉ b) : sameLetters a b = false := by
  rw [Bool.eq_false_iff, Ne, sameLetters_iff]
  intro hsame
  rw [← mem_uncased hd, hsame, mem_uncased hd] at ha
  exact hb ha

theorem afterFirst?_uncased (hd : Caseless fun c => decide (c = d)) (t : Text) :
    afterFirst? d (uncased t) = (afterFirst? d t).map uncased := by
  induction t with
  | nil => rfl
  | cons c t ih =>
    rw [uncased_cons, afterFirst?, afterFirst?]
    by_cases hc : c = d
    · rw [if_pos ((toLower_eq_iff hd c).mpr hc), if_pos hc, Option.map_some]
    · rw [if_neg (mt (toLower_eq_iff hd c).mp hc), if_neg hc, ih]

theorem afterLast?_uncased (hd : Caseless fun c => decide (c = d)) (t : Text) :
    afterLast? d (uncased t) = (afterLast? d t).map uncased := by
  induction t with
  | nil => rfl
  | cons c t ih =>
    rw [uncased_cons, afterLast?, afterLast?, ih]
    cases afterLast? d t with
    | some after => rfl
    | none =>
      by_cases hc : c = d
      · simp [hc, (toLower_eq_iff hd d).mpr rfl]
      · simp [hc, mt (toLower_eq_iff hd c).mp hc]

theorem beforeLast?_uncased (hd : Caseless fun c => decide (c = d)) (t : Text) :
    beforeLast? d (uncased t) = (beforeLast? d t).map uncased := by
  induction t with
  | nil => rfl
  | cons c t ih =>
    rw [uncased_cons, beforeLast?, beforeLast?, ih]
    cases beforeLast? d t with
    | some before => rfl
    | none =>
      by_cases hc : c = d
      · simp [hc, (toLower_eq_iff hd d).mpr rfl]
      · simp [hc, mt (toLower_eq_iff hd c).mp hc]

theorem throughFirst?_uncased (hd : Caseless fun c => decide (c = d)) (t : Text) :
    throughFirst? d (uncased t) =
      (throughFirst? d t).map fun parts => (uncased parts.1, uncased parts.2) := by
  induction t with
  | nil => rfl
  | cons c t ih =>
    rw [uncased_cons, throughFirst?, throughFirst?, ih]
    by_cases hc : c = d
    · simp [hc, (toLower_eq_iff hd d).mpr rfl]
    · rw [if_neg (mt (toLower_eq_iff hd c).mp hc), if_neg hc, Option.map_map, Option.map_map]
      rfl

/-! ### Case mappings -/

theorem caseless_upperChar : Caseless upperChar := caseless_of_letters (by decide)

theorem caseless_lowerChar : Caseless lowerChar := caseless_of_letters (by decide)

/-- **Upper case does not see the case of letters.** -/
@[simp] theorem upper_uncased (t : Text) : upper (uncased t) = upper t := by
  rw [upper, uncased, List.flatMap_map, upper]
  exact List.flatMap_congr fun c _ => caseless_upperChar c

/-- What a table of code points says of ASCII characters stands in the intervals that start with
one. -/
theorem inRanges_of_ascii (ranges : List (Nat × Nat)) {c : Char} (hc : c.toNat < 0x80) :
    inRanges ranges c = inRanges (ranges.filter (·.1 < 0x80)) c := by
  induction ranges with
  | nil => rfl
  | cons r ranges ih =>
    rw [inRanges, List.any_cons, ← inRanges, ih]
    by_cases hr : r.1 < 0x80
    · rw [List.filter_cons_of_pos (by simp [hr]), inRanges, inRanges, List.any_cons]
    · have hout : ¬ r.1 ≤ c.toNat := by omega
      rw [List.filter_cons_of_neg (by simp [hr])]
      simp [hout]

theorem caseless_inRanges {ranges few : List (Nat × Nat)}
    (hfew : ranges.filter (·.1 < 0x80) = few) (h : Caseless (inRanges few)) :
    Caseless (inRanges ranges) := by
  intro c
  rcases Nat.lt_or_ge c.toNat 0x80 with hc | hc
  · have hlower : c.toLower.toNat < 0x80 :=
      forall_ascii (P := fun c => c.toLower.toNat < 0x80) (by decide) hc
    rw [inRanges_of_ascii ranges hlower, inRanges_of_ascii ranges hc, hfew, h c]
  · rw [toLower_of_not_capital (by omega)]

theorem caseless_isCaseIgnorable : Caseless isCaseIgnorable := by
  have hfew : caseIgnorableRanges.filter (·.1 < 0x80) =
      [(0x27, 0x27), (0x2e, 0x2e), (0x3a, 0x3a), (0x5e, 0x5e), (0x60, 0x60)] := by
    decide +kernel
  exact caseless_inRanges hfew (caseless_of_letters (by decide))

theorem caseless_isCased : Caseless isCased := by
  have hfew : casedRanges.filter (·.1 < 0x80) = [(0x41, 0x5a), (0x61, 0x7a)] := by
    decide +kernel
  exact caseless_inRanges hfew (caseless_of_letters (by decide))

/-- A letter of either case is a letter next to a capital sigma. -/
theorem startsCased_uncased (t : Text) : startsCased (uncased t) = startsCased t := by
  rw [startsCased, dropWhile_uncased caseless_isCaseIgnorable, startsCased]
  cases t.dropWhile isCaseIgnorable with
  | nil => rfl
  | cons c rest => exact caseless_isCased c

/-- **Lower case does not see the case of letters**, not even where it looks at neighbours. -/
@[simp] theorem lower_uncased (t : Text) : lower (uncased t) = lower t := by
  -- a capital sigma looks at what comes before it, so the case of that is put aside as well
  suffices h : ∀ before, lowerAfter (uncased before) (uncased t) = lowerAfter before t from h []
  have hsigma : Caseless fun c => decide (c = 'Σ') := by
    intro c
    rcases Nat.lt_or_ge c.toNat 0x80 with hc | hc
    · exact forall_ascii (P := fun c => decide (c.toLower = 'Σ') = decide (c = 'Σ')) (by decide) hc
    · rw [toLower_of_not_capital (by omega)]
  induction t with
  | nil => intro before; rfl
  | cons c t ih =>
    intro before
    have hrest := ih (c :: before)
    rw [uncased_cons] at hrest
    rw [uncased_cons, lowerAfter, lowerAfter, hrest, startsCased_uncased, startsCased_uncased,
      caseless_lowerChar c]
    by_cases hc : c = 'Σ'
    · rw [if_pos ((toLower_eq_iff hsigma c).mpr hc), if_pos hc]
    · rw [if_neg (mt (toLower_eq_iff hsigma c).mp hc), if_neg hc]

/-- Texts with the same letters have the same lower case. -/
theorem lower_eq_of_sameLetters {a b : Text} (h : sameLetters a b = true) : lower a = lower b := by
  rw [← lower_uncased a, sameLetters_iff.mp h, lower_uncased]

/-- A text in lower case has no letters in upper case. -/
@[simp] theorem uncased_lower (t : Text) : uncased (lower t) = lower t := by
  have hchar : ∀ c, ∀ x ∈ lowerChar c, x.toLower = x := by
    intro c x hx
    rcases Nat.lt_or_ge c.toNat 0x80 with hc | hc
    · rw [lowerChar_of_ascii hc, List.mem_singleton] at hx
      rw [hx]
      exact caseless_toLower c
    · rcases lowerChar_of_not_ascii hc x hx with hbeyond | rfl | rfl
      · exact toLower_of_not_capital (by omega)
      · rfl
      · rfl
  -- the sigma is written by what stands before it, so the induction is over every text before
  suffices h : ∀ before, ∀ x ∈ lowerAfter before t, x.toLower = x by
    rw [lower, uncased, List.map_congr_left (h []), List.map_id']
  induction t with
  | nil => intro before x hx; exact absurd hx List.not_mem_nil
  | cons c t ih =>
    intro before x hx
    rw [lowerAfter] at hx
    rcases List.mem_append.mp hx with hx | hx
    · split at hx
      · split at hx <;> obtain rfl := List.mem_singleton.mp hx <;> rfl
      · exact hchar c x hx
    · exact ih _ x hx

/-! ### Quoting -/

/-- Hexadecimal digits are written in lower case. -/
theorem uncased_toDigits (n : Nat) : uncased (Nat.toDigits 16 n) = Nat.toDigits 16 n := by
  have hdigit : ∀ d < 16, d.digitChar.toLower = d.digitChar := by decide
  induction n using Nat.strongRecOn with
  | ind n ih =>
    rcases Nat.lt_or_ge n 16 with hn | hn
    · rw [Nat.toDigits_of_lt_base hn, uncased_cons, uncased_nil, hdigit n hn]
    · have hquotient : n / 16 < n := Nat.div_lt_self (by omega) (by omega)
      rw [Nat.toDigits_of_base_le (by omega) hn, uncased_append, ih _ hquotient, uncased_cons,
        uncased_nil, hdigit _ (Nat.mod_lt n (by omega))]

/-- What is written for a character beyond ASCII has no letters in upper case. -/
theorem uncased_escaped {c : Char} (hc : 0x80 ≤ c.toNat) : uncased (escaped c) = escaped c := by
  have hne : ∀ d : Char, d.toNat < 0x80 → c ≠ d := by
    rintro d hd rfl
    omega
  have hplain : escaped c =
      if isGraphic c then [c] else ['\\', 'u', '{'] ++ hexCode c ++ ['}'] := by
    rw [escaped, if_neg (hne _ (by decide)), if_neg (hne _ (by decide)), if_neg (hne _ (by decide)),
      if_neg (hne _ (by decide)), if_neg (hne _ (by decide)), if_neg (hne _ (by decide))]
  rw [hplain]
  split
  · rw [uncased_cons, uncased_nil, toLower_of_not_capital (by omega)]
  · rw [uncased_append, uncased_append, hexCode, uncased_toDigits]
    rfl

/-- **Quoting a text** and putting its case aside may be done in either order. -/
theorem quoted_uncased (t : Text) : quoted (uncased t) = uncased (quoted t) := by
  have hchar : ∀ c : Char, escaped c.toLower = uncased (escaped c) := by
    intro c
    rcases Nat.lt_or_ge c.toNat 0x80 with hc | hc
    · exact forall_ascii (P := fun c => escaped c.toLower = uncased (escaped c)) (by decide) hc
    · rw [toLower_of_not_capital (by omega), uncased_escaped hc]
  have hflat : (uncased t).flatMap escaped = uncased (t.flatMap escaped) := by
    rw [uncased, uncased, List.flatMap_map, List.map_flatMap]
    exact List.flatMap_congr fun c _ => hchar c
  rw [quoted, hflat, quoted, uncased_append]
  rfl

theorem uncased_quoted_uncased (t : Text) : uncased (quoted (uncased t)) = uncased (quoted t) := by
  rw [quoted_uncased, uncased_uncased]

/-- A text put together from pieces that differ in the case of letters only. -/
theorem uncased_append_congr {a a' b b' : Text} (ha : uncased a = uncased a')
    (hb : uncased b = uncased b') : uncased (a ++ b) = uncased (a' ++ b') := by
  rw [uncased_append, ha, hb, uncased_append]

end Text

end SchemaIntake
