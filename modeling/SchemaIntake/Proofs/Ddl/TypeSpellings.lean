import SchemaIntake.Proofs.Ddl.Cropping
import SchemaIntake.Proofs.Text.LowerCase

/-!
# How types are spelled

A type is spelled as a name of the catalog in any letter case, a parenthesised group if it has one,
and an array suffix if it has one.  All that is spelled like this is known.  The lookup is wider
than the grammar, and in one place only: once a parenthesis is opened, neither what follows it nor
white space before the name is looked at.

## Main definitions

* `DataType.IsBalanced t` — parentheses that are opened and closed in pairs.
* `DataType.IsSpelled t` — the grammar of type texts.
* `DataType.ClosesOff rest` — what may follow an opening parenthesis in a spelled type.

## Main results

* `DataType.isKnown_append_open_iff`, `DataType.isKnown_iff_of_not_mem` — which types are known.
* `DataType.isSpelled_append_open_iff`, `DataType.isSpelled_iff_of_not_mem` — which are spelled.
* `DataType.known_types_iff` — **where the lookup and the grammar agree.**
-/

namespace SchemaIntake

open Text

namespace DataType

/-! ### The grammar -/

/-- Texts whose parentheses are opened and closed in pairs. -/
inductive IsBalanced : Text → Prop
  /-- Nothing is opened. -/
  | nil : IsBalanced []
  /-- A character that is no parenthesis makes no difference. -/
  | char {c : Char} {t : Text} (hopen : c ≠ '(') (hclose : c ≠ ')') (h : IsBalanced t) :
      IsBalanced (c :: t)
  /-- A pair stands around a balanced text. -/
  | pair {inner t : Text} (hinner : IsBalanced inner) (h : IsBalanced t) :
      IsBalanced ('(' :: inner ++ ')' :: t)

/-- A name of the catalog in any letter case. -/
def IsName (t : Text) : Prop := ∃ entry ∈ catalog, sameLetters t entry.1 = true

/-- White space and one group in balanced parentheses. -/
def IsGroup (t : Text) : Prop :=
  ∃ gap inner, t = gap ++ '(' :: (inner ++ [')']) ∧ (∀ c ∈ gap, isBlank c = true) ∧
    IsBalanced inner

/-- An array suffix, or nothing. -/
def IsArraySuffix (t : Text) : Prop := t = [] ∨ t = "[]".toList

/-- **The grammar of type texts**: a name, a group if there is one, an array suffix if there is one,
and nothing before, between or after them. -/
def IsSpelled (t : Text) : Prop :=
  ∃ name group suffix, t = name ++ group ++ suffix ∧ IsName name ∧ (group = [] ∨ IsGroup group) ∧
    IsArraySuffix suffix

/-- What may follow an opening parenthesis in a spelled type: the rest of its group, and an array
suffix if there is one. -/
def ClosesOff (rest : Text) : Prop :=
  ∃ inner suffix, rest = inner ++ ')' :: suffix ∧ IsBalanced inner ∧ IsArraySuffix suffix

/-! ### Names -/

/-- What the names of the catalog have in common. -/
theorem catalog_spec {entry : Text × Category} (h : entry ∈ catalog) :
    IsPlainWord entry.1 ∧ uncased entry.1 = entry.1 ∧ trim entry.1 = entry.1 ∧ entry.1 ≠ [] ∧
      '(' ∉ entry.1 ∧ '[' ∉ entry.1 := by
  have hall : ∀ entry ∈ catalog,
      IsPlainWord entry.1 ∧ uncased entry.1 = entry.1 ∧ trim entry.1 = entry.1 ∧ entry.1 ≠ [] ∧
        '(' ∉ entry.1 ∧ '[' ∉ entry.1 := by
    decide +kernel
  exact hall entry h

theorem isName_iff {t : Text} : IsName t ↔ ∃ entry ∈ catalog, uncased t = entry.1 := by
  refine exists_congr fun entry => and_congr_right fun h => ?_
  rw [sameLetters_iff, (catalog_spec h).2.1]

/-- A name has no parenthesis, and no white space at its ends. -/
theorem IsName.spec {t : Text} (h : IsName t) : '(' ∉ t ∧ t ≠ [] ∧ trim t = t := by
  obtain ⟨entry, hentry, ht⟩ := isName_iff.mp h
  obtain ⟨-, -, htrim, hne, hopen, -⟩ := catalog_spec hentry
  have hblank : ∀ c : Char, isBlank c = isBlank c.toLower := fun c => (caseless_isBlank c).symm
  obtain ⟨hhead, hlast⟩ := trim_eq_self_iff.mp htrim
  rw [← ht] at hne hopen hhead hlast
  refine ⟨fun hmem => hopen ((mem_uncased (caseless_eq rfl (by decide))).mpr hmem), ?_,
    trim_eq_self_iff.mpr ⟨fun c hc => ?_, fun c hc => ?_⟩⟩
  · rintro rfl
    exact hne rfl
  · rw [hblank]
    exact hhead _ (by rw [uncased, List.head?_map, hc]; rfl)
  · rw [hblank]
    exact hlast _ (by rw [uncased, List.getLast?_map, hc]; rfl)

/-- A name is what is left before a parenthesis if no white space stands in front of it. -/
theorem isName_trimEnd_iff (a : Text) : IsName (trimEnd a) ↔ IsName (trim a) ∧ trimStart a = a := by
  constructor
  · intro h
    have hstart : trimStart a = a := by
      obtain ⟨gap, -, hgap⟩ := exists_trimEnd_append a
      obtain ⟨-, hne, htrim⟩ := h.spec
      obtain ⟨c, rest, hcons⟩ := List.exists_cons_of_ne_nil hne
      have hc : isBlank c = false := (trim_eq_self_iff.mp htrim).1 c (by rw [hcons]; rfl)
      rw [hgap, hcons, List.cons_append, trimStart, List.dropWhile_cons_of_neg (by simp [hc])]
    refine ⟨?_, hstart⟩
    rw [trim, hstart]
    exact h
  · rintro ⟨h, hstart⟩
    rw [trim, hstart] at h
    exact h

/-! ### Which types are known -/

/-- A type is known if its base name is in the catalog. -/
theorem isKnown_iff {written : Text} :
    isKnown written = true ↔ ∃ entry ∈ catalog, normalize written = entry.1 := by
  rw [isKnown, Bool.and_eq_true, category?, List.lookup_isSome_iff]
  constructor
  · rintro ⟨-, entry, hentry, h⟩
    exact ⟨entry, hentry, beq_iff_eq.mp h⟩
  · rintro ⟨entry, hentry, h⟩
    refine ⟨?_, entry, hentry, beq_iff_eq.mpr h⟩
    cases written with
    | nil =>
      obtain ⟨-, -, -, hne, -⟩ := catalog_spec hentry
      exact absurd h.symm hne
    | cons c rest => rfl

/-- **With a parenthesis** a type is known by what stands before it, white space left aside. -/
theorem isKnown_append_open_iff {a : Text} (h : '(' ∉ a) (b : Text) :
    isKnown (a ++ '(' :: b) = true ↔ IsName (trim a) := by
  rw [isKnown_iff, isName_iff, normalize_append_open h]
  exact exists_congr fun entry => and_congr_right fun hentry =>
    trim_lower_eq_iff (catalog_spec hentry).1

theorem IsArraySuffix.not_mem {t : Text} (h : IsArraySuffix t) : '(' ∉ t := by
  rcases h with rfl | rfl
  · exact List.not_mem_nil
  · decide

theorem isPlainWord_append {w suffix : Text} (hw : IsPlainWord w)
    (hsuffix : IsArraySuffix suffix) : IsPlainWord (w ++ suffix) := by
  have hbrackets : IsPlainWord "[]".toList := by decide
  rcases hsuffix with rfl | rfl
  · rwa [List.append_nil]
  · exact List.forall_mem_append.mpr ⟨hw, hbrackets⟩

/-- An array suffix has one spelling. -/
theorem isArraySuffix_uncased_iff {t : Text} : IsArraySuffix (uncased t) ↔ IsArraySuffix t := by
  have hopen : Caseless fun c => decide (c = '[') := caseless_eq (by decide) (by decide)
  have hclose : Caseless fun c => decide (c = ']') := caseless_eq (by decide) (by decide)
  constructor
  · rintro (h | h)
    · exact Or.inl (List.map_eq_nil_iff.mp h)
    · obtain ⟨c, rest, rfl, hc, hrest⟩ := List.map_eq_cons_iff.mp h
      obtain ⟨d, rest, rfl, hd, hnil⟩ := List.map_eq_cons_iff.mp hrest
      obtain rfl := List.map_eq_nil_iff.mp hnil
      rw [(toLower_eq_iff hopen c).mp hc, (toLower_eq_iff hclose d).mp hd]
      exact Or.inr rfl
  · rintro (rfl | rfl)
    · exact Or.inl rfl
    · exact Or.inr rfl

/-- Only an array suffix is dropped. -/
theorem dropArraySuffix_eq_iff {t name : Text} (h : '[' ∉ name) :
    dropArraySuffix t = name ↔ ∃ suffix, t = name ++ suffix ∧ IsArraySuffix suffix := by
  rw [dropArraySuffix]
  split
  · next hsuffix =>
    obtain ⟨r, rfl⟩ := List.isSuffixOf_iff_suffix.mp hsuffix
    have hlength : (r ++ "[]".toList).length - 2 = r.length := by simp
    rw [hlength, List.take_left]
    constructor
    · rintro rfl
      exact ⟨"[]".toList, rfl, Or.inr rfl⟩
    · rintro ⟨suffix, hsplit, rfl | rfl⟩
      -- the name would end with the suffix
      · rw [List.append_nil] at hsplit
        exact absurd (by rw [← hsplit]; simp) h
      · exact List.append_cancel_right hsplit
  · next hsuffix =>
    constructor
    · rintro rfl
      exact ⟨[], (List.append_nil t).symm, Or.inl rfl⟩
    · rintro ⟨suffix, rfl, rfl | rfl⟩
      · exact List.append_nil name
      · exact absurd (List.isSuffixOf_iff_suffix.mpr (List.suffix_append name _)) hsuffix

/-- **Without a parenthesis** a type is known if it is a name, with an array suffix or without. -/
theorem isKnown_iff_of_not_mem {written : Text} (h : '(' ∉ written) : isKnown written = true ↔
    ∃ name suffix, written = name ++ suffix ∧ IsName name ∧ IsArraySuffix suffix := by
  rw [isKnown_iff, normalize_eq_of_not_mem h]
  constructor
  -- where the letters have no other case forms, only their case is given up
  · rintro ⟨entry, hentry, hdrop⟩
    obtain ⟨hplain, -, -, -, -, hopen⟩ := catalog_spec hentry
    obtain ⟨suffix, hlower, hsuffix⟩ := (dropArraySuffix_eq_iff hopen).mp hdrop
    rw [lower_eq_iff (isPlainWord_append hplain hsuffix)] at hlower
    obtain ⟨name, suffix, rfl, hname, rfl⟩ := List.map_eq_append_iff.mp hlower
    exact ⟨name, suffix, rfl, isName_iff.mpr ⟨entry, hentry, hname⟩,
      isArraySuffix_uncased_iff.mp hsuffix⟩
  · rintro ⟨name, suffix, rfl, hname, hsuffix⟩
    obtain ⟨entry, hentry, hname⟩ := isName_iff.mp hname
    obtain ⟨hplain, -, -, -, -, hopen⟩ := catalog_spec hentry
    have hlower := isArraySuffix_uncased_iff.mpr hsuffix
    refine ⟨entry, hentry, (dropArraySuffix_eq_iff hopen).mpr ⟨uncased suffix, ?_, hlower⟩⟩
    rw [lower_eq_iff (isPlainWord_append hplain hlower), uncased_append, hname]

/-! ### Which types are spelled -/

theorem isSpelled_iff_of_not_mem {written : Text} (h : '(' ∉ written) : IsSpelled written ↔
    ∃ name suffix, written = name ++ suffix ∧ IsName name ∧ IsArraySuffix suffix := by
  constructor
  · rintro ⟨name, group, suffix, rfl, hname, rfl | ⟨gap, inner, rfl, -⟩, hsuffix⟩
    · exact ⟨name, suffix, by rw [List.append_nil], hname, hsuffix⟩
    · exact absurd (by simp) h
  · rintro ⟨name, suffix, rfl, hname, hsuffix⟩
    exact ⟨name, [], suffix, by rw [List.append_nil], hname, Or.inl rfl, hsuffix⟩

/-- **With a parenthesis** a type is spelled if a name stands before it, up to white space behind
the name, and what follows closes it off. -/
theorem isSpelled_append_open_iff {a : Text} (h : '(' ∉ a) (b : Text) :
    IsSpelled (a ++ '(' :: b) ↔ IsName (trimEnd a) ∧ ClosesOff b := by
  constructor
  · rintro ⟨name, group, suffix, hsplit, hname, rfl | ⟨gap, inner, rfl, hgap, hinner⟩, hsuffix⟩
    · have hmem : '(' ∈ name ++ [] ++ suffix := by rw [← hsplit]; simp
      rw [List.append_nil, List.mem_append] at hmem
      exact absurd hmem (not_or.mpr ⟨hname.spec.1, hsuffix.not_mem⟩)
    · have hopen : '(' ∉ name ++ gap := by
        rw [List.mem_append, not_or]
        exact ⟨hname.spec.1, fun hmem => absurd (hgap _ hmem) (by decide)⟩
      have hparts : a ++ '(' :: b = (name ++ gap) ++ '(' :: (inner ++ ')' :: suffix) := by
        rw [hsplit]
        simp
      obtain ⟨rfl, rfl⟩ := eq_of_append_cons h hopen hparts
      have hend : trimEnd name = name := by
        rw [trimEnd_eq_rdropWhile, List.rdropWhile_eq_self_iff]
        intro hne
        have hlast := (trim_eq_self_iff.mp hname.spec.2.2).2 _ (List.getLast?_eq_some_getLast hne)
        simp [hlast]
      rw [trimEnd_append_gap name hgap, hend]
      exact ⟨hname, inner, suffix, rfl, hinner, hsuffix⟩
  · rintro ⟨hname, inner, suffix, rfl, hinner, hsuffix⟩
    obtain ⟨gap, hgap, ha⟩ := exists_trimEnd_append a
    refine ⟨trimEnd a, gap ++ '(' :: (inner ++ [')']), suffix, ?_, hname,
      Or.inr ⟨gap, inner, rfl, hgap, hinner⟩, hsuffix⟩
    conv_lhs => rw [ha]
    simp

/-- Balanced parentheses leave the depth as it is. -/
theorem IsBalanced.depthAfter_eq {t : Text} (h : IsBalanced t) (depth : Int) :
    depthAfter depth t = depth := by
  induction h generalizing depth with
  | nil => rfl
  | @char c t hopen hclose _ ih =>
    have hstep : depthAfter depth (c :: t) = depthAfter (depth + parenStep c) t := rfl
    rw [hstep, parenStep, if_neg hopen, if_neg hclose, Int.add_zero, ih]
  | @pair inner t _ _ ihinner iht =>
    have hstep : depthAfter depth ('(' :: inner ++ ')' :: t) =
        depthAfter (depthAfter (depth + 1) inner - 1) t := depthAfter_append (depth + 1) inner _
    rw [hstep, ihinner, Int.add_sub_cancel, iht]

/-- What closes a parenthesis off ends one level lower. -/
theorem ClosesOff.depthAfter_eq {rest : Text} (h : ClosesOff rest) : depthAfter 0 rest = -1 := by
  obtain ⟨inner, suffix, rfl, hinner, hsuffix⟩ := h
  have hclose : depthAfter 0 (inner ++ ')' :: suffix) =
      depthAfter (depthAfter 0 inner - 1) suffix := depthAfter_append 0 inner _
  rw [hclose, hinner.depthAfter_eq]
  rcases hsuffix with rfl | rfl <;> rfl

/-! ### Where the two agree -/

/-- **Where the lookup and the grammar agree.**  All that is spelled by the grammar is known.  A
type is known exactly if it is a name, with an array suffix or without, or if a name stands before a
parenthesis, up to white space on either side.  So the two agree on a type unless it has a name
before its first parenthesis and either white space in front of the name, or something other than
the rest of one balanced group and an array suffix behind the parenthesis. -/
theorem known_types_iff (written : Text) :
    (IsSpelled written → isKnown written = true) ∧
    (isKnown written = true ↔
      (∃ name suffix, written = name ++ suffix ∧ IsName name ∧ IsArraySuffix suffix) ∨
        ∃ before rest, written = before ++ '(' :: rest ∧ '(' ∉ before ∧ IsName (trim before)) ∧
    ((isKnown written = true ↔ IsSpelled written) ↔
      ∀ before rest, written = before ++ '(' :: rest → '(' ∉ before → IsName (trim before) →
        trimStart before = before ∧ ClosesOff rest) := by
  by_cases hmem : '(' ∈ written
  · obtain ⟨a, b, rfl, ha⟩ := List.eq_append_cons_of_mem hmem
    have hknown := isKnown_append_open_iff ha b
    have hspelled := isSpelled_append_open_iff ha b
    rw [isName_trimEnd_iff] at hspelled
    refine ⟨fun h => hknown.mpr (hspelled.mp h).1.1, hknown.trans ⟨fun h => ?_, ?_⟩, ?_⟩
    · exact Or.inr ⟨a, b, rfl, ha, h⟩
    · rintro (⟨name, suffix, hsplit, hname, hsuffix⟩ | ⟨a', b', hsplit, ha', hname⟩)
      · rw [hsplit, List.mem_append] at hmem
        exact absurd hmem (not_or.mpr ⟨hname.spec.1, hsuffix.not_mem⟩)
      · obtain ⟨rfl, rfl⟩ := eq_of_append_cons ha ha' hsplit
        exact hname
    · rw [hknown, hspelled]
      constructor
      · intro hagree a' b' hsplit ha' hname
        obtain ⟨rfl, rfl⟩ := eq_of_append_cons ha ha' hsplit
        obtain ⟨⟨-, hstart⟩, hcloses⟩ := hagree.mp hname
        exact ⟨hstart, hcloses⟩
      · intro hagree
        refine ⟨fun hname => ?_, fun h => h.1.1⟩
        obtain ⟨hstart, hcloses⟩ := hagree a b rfl ha hname
        exact ⟨⟨hname, hstart⟩, hcloses⟩
  · have hknown := isKnown_iff_of_not_mem hmem
    have hspelled := isSpelled_iff_of_not_mem hmem
    have hnone : ∀ before rest, written ≠ before ++ '(' :: rest := by
      rintro before rest rfl
      exact hmem (by simp)
    refine ⟨fun h => hknown.mpr (hspelled.mp h), hknown.trans (or_iff_left ?_).symm, ?_⟩
    · rintro ⟨before, rest, hsplit, -⟩
      exact hnone before rest hsplit
    · rw [hknown, hspelled]
      exact iff_of_true Iff.rfl fun before rest hsplit => absurd hsplit (hnone before rest)

/-- A type with all its parts. -/
theorem known_types_numeric :
    let written := "Numeric (10, 2)[]".toList
    IsSpelled written ∧ isKnown written = true := by
  intro written
  have hinner : IsBalanced "10, 2".toList := by
    refine .char ?_ ?_ (.char ?_ ?_ (.char ?_ ?_ (.char ?_ ?_ (.char ?_ ?_ .nil)))) <;> decide
  have hgap : ∀ c ∈ " ".toList, isBlank c = true := List.all_eq_true.mp (by decide)
  have hspelled : IsSpelled written :=
    ⟨"Numeric".toList, " (10, 2)".toList, "[]".toList, rfl,
      ⟨("numeric".toList, .numeric), by decide +kernel, by decide⟩,
      Or.inr ⟨" ".toList, "10, 2".toList, rfl, hgap, hinner⟩, Or.inr rfl⟩
  exact ⟨hspelled, (known_types_iff written).1 hspelled⟩

/-- Types that are known although nothing closes their parenthesis, although more follows than one
array suffix, or although white space stands in front of them; without a parenthesis the last two
are turned down. -/
theorem unspelled_types_known :
    (isKnown "VARCHAR((20)".toList = true ∧ ¬ IsSpelled "VARCHAR((20)".toList) ∧
    (isKnown "INT(3)[][]".toList = true ∧ ¬ IsSpelled "INT(3)[][]".toList ∧
      isKnown "INT[][]".toList = false) ∧
    (isKnown " INT(3)".toList = true ∧ ¬ IsSpelled " INT(3)".toList ∧
      isKnown " INT".toList = false) := by
  refine ⟨⟨by decide +kernel, fun h => ?_⟩, ⟨by decide +kernel, fun h => ?_, by decide +kernel⟩,
    by decide +kernel, fun h => ?_, by decide +kernel⟩
  · obtain ⟨-, hcloses⟩ :=
      (isSpelled_append_open_iff (a := "VARCHAR".toList) (by decide) "(20)".toList).mp h
    exact absurd hcloses.depthAfter_eq (by decide)
  · obtain ⟨-, inner, suffix, hrest, -, hsuffix⟩ :=
      (isSpelled_append_open_iff (a := "INT".toList) (by decide) "3)[][]".toList).mp h
    have hend : ')' :: suffix <:+ "3)[][]".toList := ⟨inner, hrest.symm⟩
    rcases hsuffix with rfl | rfl <;> exact absurd hend (by decide)
  · obtain ⟨hname, -⟩ :=
      (isSpelled_append_open_iff (a := " INT".toList) (by decide) "3)".toList).mp h
    exact absurd ((isName_trimEnd_iff _).mp hname).2 (by decide)

end DataType

end SchemaIntake
