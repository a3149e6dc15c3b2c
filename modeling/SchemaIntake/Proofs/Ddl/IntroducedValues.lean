import SchemaIntake.Proofs.Ddl.BareWords
import SchemaIntake.Proofs.Ddl.ColumnFaults
import SchemaIntake.Proofs.Ddl.QuotedTokens
import SchemaIntake.Proofs.Text.LowerCase

/-!
# Values behind the words that introduce them

Behind `REFERENCES`, `DEFAULT` or `COLLATE` any name may stand, but for three words: what `KEY` must
follow, and what must follow `PRIMARY` and `NOT`, is looked at before what stands in front of them.
Where the type leaves a parenthesis open nothing is looked at, for then word and name are part of
the type.

## Main definitions

* `withValue name type introducer value` — a column with a value.
* `tiedWords` — the words that may stand beside one of their neighbours only.

## Main results

* `mayStand_introduced` — a name may stand behind a word that introduces it, if it is no tied word.
* `tokens_withValue` — the tokens of a column with a value.
* `ColumnDefinition.introduced_value_free_iff` — **which values are free.**
-/

namespace SchemaIntake

open Text

/-- A column with a word that introduces a value, and the value. -/
def withValue (name type introducer value : Text) : Text :=
  name ++ ' ' :: (type ++ ' ' :: (introducer ++ ' ' :: value))

/-- The words that may stand beside one of their neighbours only. -/
def tiedWords : List Text := ["KEY", "PRIMARY", "NOT"].map String.toList

variable {name type introducer value : Text}

/-! ### Neighbours -/

/-- A valid name is no operand. -/
theorem Identifier.isOperand_eq_false (h : isValid name = true) : isOperand name = false := by
  have hopen : '(' ∉ name := (isBareWord h).not_mem (Or.inr (by decide))
  cases name with
  | nil => exact absurd h (by decide)
  | cons c rest =>
    rw [isValid, Bool.and_eq_true, Bool.and_eq_true] at h
    have hstart := h.1.2
    have hascii := (isContinuation_spec (isContinuation_of_isStart hstart)).1
    have hother : (c == '\x27' || c == '-' || isDigit c) = false := by
      revert hstart
      exact forall_ascii
        (P := fun c => isStart c = true → (c == '\x27' || c == '-' || isDigit c) = false)
        (by decide) hascii
    rw [isOperand, decide_eq_false hopen, Bool.false_or]
    exact hother

/-- **A name may stand behind a word that introduces it**, if it is no tied word. -/
theorem mayStand_introduced (hintroducer : upper introducer ∈ valueIntroducers)
    (hvalue : isOperand value = false) :
    mayStand (some introducer) value none = !tiedWords.contains (upper value) := by
  by_cases hkey : upper value = "KEY".toList
  -- `KEY` would have to follow `PRIMARY`, which introduces no value
  · have hprimary : sameLetters introducer "PRIMARY".toList = false := by
      rw [Bool.eq_false_iff, Ne, sameLetters_iff]
      intro hsame
      have hupper := congrArg upper hsame
      rw [upper_uncased, upper_uncased] at hupper
      rw [hupper] at hintroducer
      exact absurd hintroducer (by decide)
    rw [mayStand_key hvalue hkey, hkey, Option.any_some, hprimary]
    rfl
  · by_cases hprimary : upper value = "PRIMARY".toList
    · rw [mayStand_primary hvalue hprimary, hprimary]
      rfl
    · by_cases hnot : upper value = "NOT".toList
      · rw [mayStand_not hvalue hnot, hnot]
        rfl
      · have htied : tiedWords.contains (upper value) = false := by
          simpa [tiedWords] using ⟨hkey, hprimary, hnot⟩
        rw [htied]
        by_cases hmem : upper value ∈ modifierWords
        · exact mayStand_word hmem hprimary hnot (some introducer) none
        · rw [mayStand_value hvalue hkey hmem, Option.any_some,
            List.contains_iff_mem.mpr hintroducer]
          rfl

/-- The scan over a word that introduces a value, and the value. -/
theorem firstMisplacedAfter?_introduced (hintroducer : upper introducer ∈ valueIntroducers)
    (hvalue : isOperand value = false) : firstMisplacedAfter? none [introducer, value] =
      if upper value ∈ tiedWords then some value else none := by
  have hfirst : mayStand none introducer (some value) = true := by
    have hwords : ∀ w ∈ valueIntroducers,
        w ∈ modifierWords ∧ w ≠ "PRIMARY".toList ∧ w ≠ "NOT".toList := by decide
    obtain ⟨hmem, hprimary, hnot⟩ := hwords _ hintroducer
    exact mayStand_word hmem hprimary hnot none (some value)
  rw [firstMisplacedAfter?, List.head?_cons, hfirst, if_pos rfl, firstMisplacedAfter?,
    List.head?_nil, mayStand_introduced hintroducer hvalue, firstMisplacedAfter?]
  by_cases htied : upper value ∈ tiedWords
  · rw [if_pos htied, List.contains_iff_mem.mpr htied]
    rfl
  · rw [if_neg htied, Bool.eq_false_iff.mpr (mt List.contains_iff_mem.mp htied)]
    rfl

/-! ### Tokens -/

/-- White space and parentheses are their own upper case. -/
theorem upperChar_of_not_plain {c : Char} (h : ¬ (isBlank c = false ∧ parenStep c = 0)) :
    upperChar c = [c] := by
  by_cases hblank : isBlank c = true
  · exact forall_blank (P := fun c => upperChar c = [c]) (by decide +kernel) hblank
  · have hstep : parenStep c ≠ 0 := fun hstep => h ⟨Bool.eq_false_iff.mpr hblank, hstep⟩
    rw [parenStep] at hstep
    split at hstep
    · next hopen =>
      subst hopen
      decide
    · split at hstep
      · next hclose =>
        subst hclose
        decide
      · exact absurd rfl hstep

/-- A word that introduces a value is a bare word. -/
theorem isBareWord_of_introducer (h : upper introducer ∈ valueIntroducers) :
    IsBareWord introducer := by
  have hwords : ∀ w ∈ valueIntroducers, IsBareWord w := by decide
  have hupper := hwords _ h
  refine ⟨ne_nil_of_upper_ne_nil hupper.ne_nil, fun c hc => ?_⟩
  by_contra hnot
  exact hnot (hupper.plain c (mem_upper_of_mem (upperChar_of_not_plain hnot) hc))

/-- A type that is its only token has no white space at its ends. -/
theorem trim_eq_self_of_tokens (h : tokens type = [type]) : trim type = type := by
  have htrim : tokens (trim type) = [type] := by
    rw [tokens, trim_trim]
    exact h
  obtain ⟨after, hafter, -⟩ := exists_eq_append_of_tokens (trim_trim type) htrim
  have hlength : (trim type).length ≤ type.length :=
    (List.rdropWhile_prefix isBlank (trimStart type)).length_le.trans
      (List.dropWhile_suffix isBlank).length_le
  rw [hafter, List.length_append] at hlength
  rw [hafter, List.eq_nil_of_length_eq_zero (by omega : after.length = 0), List.append_nil]

/-- **The tokens of a column with a value**, if the type is one token. -/
theorem tokens_withValue (hname : IsBareWord name) (htype : tokens type = [type])
    (hintroducer : IsBareWord introducer) (hvalue : IsBareWord value) :
    tokens (withValue name type introducer value) =
      if depthAfter 0 type ≤ 0 then [name, type, introducer, value]
      else [name, type ++ ' ' :: (introducer ++ ' ' :: value)] := by
  have hend : trimEnd (type ++ ' ' :: (introducer ++ ' ' :: value)) =
      type ++ ' ' :: (introducer ++ ' ' :: value) := by
    have hlast := hvalue.trimEnd_append (type ++ ' ' :: (introducer ++ [' '])) []
    simpa [trimEnd] using hlast
  obtain ⟨ps, p, q, qs, hpieces, hrest, hwhole⟩ :=
    exists_tokenPieces_around_space 0 type (introducer ++ ' ' :: value)
  rw [tokens_eq (trim_eq_self_of_tokens htype), hpieces] at htype
  rw [tokenPieces_bareWords hintroducer hvalue] at hrest
  rw [withValue, hname.tokens_append, hend, hwhole]
  by_cases hdepth : depthAfter 0 type ≤ 0
  · have hwords : [introducer, value].filter (!·.isEmpty) = [introducer, value] := by
      simp [hintroducer.ne_nil, hvalue.ne_nil]
    rw [if_pos hdepth] at hrest
    rw [if_pos hdepth, if_pos hdepth, ← hrest, List.append_cons, List.filter_append, htype, hwords]
    rfl
  · rw [if_neg hdepth] at hrest
    obtain ⟨rfl, rfl⟩ := List.cons.inj hrest
    -- the piece in which the parenthesis is opened is the type
    have hopen : '(' ∈ p := paren_mem_last_piece (Int.le_refl 0) (Int.not_le.mp hdepth) hpieces
    have hkept : [p].filter (!·.isEmpty) = [p] := by simpa using List.ne_nil_of_mem hopen
    rw [List.filter_append, hkept, ← List.nil_append [type]] at htype
    obtain ⟨hbefore, hlast⟩ := List.append_inj' htype rfl
    obtain ⟨rfl, -⟩ := List.cons.inj hlast
    rw [if_neg hdepth, if_neg hdepth, List.filter_append, hbefore, List.nil_append]
    exact congrArg (name :: ·) (List.filter_cons_of_pos (by simp))

/-! ### Types -/

/-- The second words of the type names that have more than one start with `p`, `v` or `w`. -/
theorem exists_of_mem_twoWordOpenings {opening : Text} (h : opening ∈ DataType.twoWordOpenings) :
    ∃ first c second, opening = first ++ ' ' :: c :: second ∧ ' ' ∉ first ∧ c ∈ "pvw".toList := by
  have hall : ∀ opening ∈ DataType.twoWordOpenings, (opening.dropWhile (· != ' ')).take 2 ∈
      "pvw".toList.map fun c => [' ', c] := by decide
  obtain ⟨c, hc, htake⟩ := List.mem_map.mp (hall opening h)
  refine ⟨opening.takeWhile (· != ' '), c, (opening.dropWhile (· != ' ')).drop 2, ?_, ?_, hc⟩
  · have hrest := List.take_append_drop 2 (opening.dropWhile (· != ' '))
    rw [← htake] at hrest
    conv_lhs => rw [← List.takeWhile_append_dropWhile (p := (· != ' ')) (l := opening), ← hrest]
    rfl
  · intro hmem
    exact absurd (List.mem_takeWhile_imp hmem) (by simp)

/-- Two tokens are no type of two words if the second one starts with another letter. -/
theorem ofTwoWords?_eq_none {first rest : Text} {c : Char} (hspace : ' ' ∉ first)
    (hascii : c.toNat < 0x80) (hc : c.toLower ∉ "pvw".toList) :
    DeclaredType.ofTwoWords? first (c :: rest) = none := by
  rw [DeclaredType.ofTwoWords?, if_neg]
  rw [Bool.not_eq_true, List.any_eq_false]
  intro opening hopening hprefix
  obtain ⟨w, d, s, rfl, hw, hd⟩ := exists_of_mem_twoWordOpenings hopening
  obtain ⟨r, hr⟩ := List.isPrefixOf_iff_prefix.mp hprefix
  rw [lower_append_space, List.append_assoc, List.cons_append] at hr
  obtain ⟨-, hsecond⟩ := eq_of_append_cons hw (space_not_mem_lower hspace) hr
  have hhead : (lower (c :: rest)).head? = some c.toLower := head?_lowerAfter_cons hascii [] rest
  rw [← hsecond, List.cons_append, List.head?_cons] at hhead
  rw [Option.some.inj hhead] at hd
  exact hc hd

/-- The words that introduce values start with other letters. -/
theorem exists_cons_of_introducer (h : upper introducer ∈ valueIntroducers) :
    ∃ c rest, introducer = c :: rest ∧ c.toNat < 0x80 ∧ c.toLower ∉ "pvw".toList := by
  have hheads : ∀ w ∈ valueIntroducers, w.head? ∈ "RDC".toList.map some := by decide
  have hcapitals : "RDC".toList.all
      (fun x => decide (x.toNat < 0x80) && !strayCapitals.contains x) = true := by decide
  obtain ⟨x, hx, hhead⟩ := List.mem_map.mp (hheads _ h)
  obtain ⟨u, hu⟩ := List.head?_eq_some_iff.mp hhead.symm
  have hcapital := List.all_eq_true.mp hcapitals x hx
  simp only [Bool.and_eq_true, decide_eq_true_eq, Bool.not_eq_true', List.contains_eq_mem,
    decide_eq_false_iff_not] at hcapital
  obtain ⟨c, rest, rfl, hascii, rfl⟩ := exists_cons_of_upper_eq_cons hcapital.1 hcapital.2 hu
  refine ⟨c, rest, rfl, hascii, ?_⟩
  revert hx
  exact forall_ascii (P := fun c => c.toUpper ∈ "RDC".toList → c.toLower ∉ "pvw".toList)
    (by decide) hascii

/-- A type that is one token has no second word in a word that introduces a value. -/
theorem ofTwoWords?_introducer (htype : tokens type = [type])
    (hintroducer : upper introducer ∈ valueIntroducers) :
    DeclaredType.ofTwoWords? type introducer = none := by
  have hspaces : ∀ u v, type = u ++ ' ' :: v → '(' ∈ u := by
    rintro u v rfl
    exact open_mem_of_mem_tokens (by rw [htype]; exact List.mem_singleton_self _) rfl
  by_cases hopen : '(' ∈ type
  · obtain ⟨a, b, rfl, ha⟩ := List.eq_append_cons_of_mem hopen
    refine DeclaredType.ofTwoWords?_of_open (fun hspace => ha ?_) b introducer
    obtain ⟨u, v, rfl⟩ := List.append_of_mem hspace
    exact List.mem_append_left _ (hspaces u (v ++ '(' :: b) (by simp))
  · obtain ⟨c, rest, rfl, hascii, hlower⟩ := exists_cons_of_introducer hintroducer
    refine ofTwoWords?_eq_none (fun hspace => hopen ?_) hascii hlower
    obtain ⟨u, v, hsplit⟩ := List.append_of_mem hspace
    rw [hsplit]
    exact List.mem_append_left _ (hspaces u v hsplit)

/-! ### Columns -/

namespace ColumnDefinition

section WithValue

variable (hname : Identifier.isValid name = true) (hknown : DataType.isKnown type = true)
  (htype : tokens type = [type]) (hintroducer : upper introducer ∈ valueIntroducers)
  (hvalue : Identifier.isValid value = true)

include hname hknown htype hintroducer hvalue

/-- With all parentheses of the type closed, the value may stand if it is no tied word. -/
theorem read_withValue (hdepth : depthAfter 0 type ≤ 0) :
    read (withValue name type introducer value) =
      if upper value ∈ tiedWords then .error (.misplacedToken name value)
      else .ok ⟨name, ⟨type, 1⟩⟩ := by
  have hunquote := Identifier.unquote_of_isValid hname
  have hname' : Identifier.isValid (Identifier.unquote name) = true := by rwa [hunquote]
  have hdeclared : DeclaredType.ofTokens? [type, introducer, value] = some ⟨type, 1⟩ := by
    rw [DeclaredType.ofTokens?, ofTwoWords?_introducer htype hintroducer, Option.none_or]
  have hscan : firstMisplacedAfter? none ([type, introducer, value].drop 1) =
      if upper value ∈ tiedWords then some value else none :=
    firstMisplacedAfter?_introduced hintroducer (Identifier.isOperand_eq_false hvalue)
  rw [read, tokens_withValue (Identifier.isBareWord hname) htype
    (isBareWord_of_introducer hintroducer) (Identifier.isBareWord hvalue), if_pos hdepth]
  split
  · next htied =>
    rw [if_pos htied] at hscan
    obtain ⟨i, htoken, hbreaks, hearlier⟩ := firstMisplacedAfter?_eq_some_iff.mp hscan
    have hread := IsReadAs.misplacedToken hdeclared hknown hname' htoken hbreaks hearlier
    rw [hread.ofTokens_eq, hunquote]
  · next hfree =>
    rw [if_neg hfree] at hscan
    have hread := IsReadAs.accepted hdeclared hknown hname'
      (firstMisplacedAfter?_eq_none_iff.mp hscan)
    rw [hread.ofTokens_eq, hunquote]

/-- Within a parenthesis of the type, word and value are part of the type. -/
theorem exists_read_withValue_open (hdepth : 0 < depthAfter 0 type) :
    ∃ declared, read (withValue name type introducer value) = .ok ⟨name, declared⟩ ∧
      declared.baseName = DataType.normalize type := by
  have hopen : '(' ∈ type := by
    by_contra hopen
    have hle := depthAfter_le hopen 0
    omega
  have hunquote := Identifier.unquote_of_isValid hname
  have hname' : Identifier.isValid (Identifier.unquote name) = true := by rwa [hunquote]
  -- with a parenthesis open, all that follows is one token with the type
  let whole := type ++ ' ' :: (introducer ++ ' ' :: value)
  have hdeclared : DeclaredType.ofTokens? [whole] = some ⟨whole, 1⟩ := rfl
  have hcropped : cropped whole = cropped type := cropped_append hopen _
  have hknown' : (⟨whole, 1⟩ : DeclaredType).isKnown = true := by
    rw [DeclaredType.isKnown, ← DataType.isKnown_cropped, hcropped, DataType.isKnown_cropped,
      hknown]
  have hscan : firstMisplacedAfter? none ([whole].drop 1) = none := rfl
  have hread := IsReadAs.accepted hdeclared hknown' hname'
    (firstMisplacedAfter?_eq_none_iff.mp hscan)
  refine ⟨⟨whole, 1⟩, ?_, ?_⟩
  · rw [read, tokens_withValue (Identifier.isBareWord hname) htype
      (isBareWord_of_introducer hintroducer) (Identifier.isBareWord hvalue),
      if_neg (Int.not_le.mpr hdepth), hread.ofTokens_eq, hunquote]
  · rw [DeclaredType.baseName, ← DataType.normalize_cropped, hcropped, DataType.normalize_cropped]

end WithValue

/-- **Which values are free.**  Behind a valid name, a known type that is one token and a word that
introduces a value, every valid name may stand, and the column has its name and the base name of its
type, exactly if the value is none of `KEY`, `PRIMARY` and `NOT` in any case, or else the type
leaves a parenthesis open.  Otherwise the value is told to be misplaced. -/
theorem introduced_value_free_iff (hname : Identifier.isValid name = true)
    (hknown : DataType.isKnown type = true) (htype : tokens type = [type])
    (hintroducer : upper introducer ∈ valueIntroducers) (hvalue : Identifier.isValid value = true) :
    ((∃ declared, read (withValue name type introducer value) = .ok ⟨name, declared⟩ ∧
      declared.baseName = DataType.normalize type) ↔
        upper value ∉ tiedWords ∨ type.count ')' < type.count '(') ∧
    (upper value ∈ tiedWords → type.count '(' ≤ type.count ')' →
      read (withValue name type introducer value) = .error (.misplacedToken name value)) := by
  have hcount := depthAfter_eq_count 0 type
  -- whether the blanks after the type separate
  by_cases hdepth : depthAfter 0 type ≤ 0
  · have hclosed : ¬ type.count ')' < type.count '(' := by omega
    rw [read_withValue hname hknown htype hintroducer hvalue hdepth]
    by_cases htied : upper value ∈ tiedWords
    · rw [if_pos htied]
      refine ⟨⟨?_, ?_⟩, fun _ _ => rfl⟩
      · rintro ⟨declared, hread, -⟩
        exact absurd hread (by simp)
      · rintro (hfree | hopen)
        · exact absurd htied hfree
        · exact absurd hopen hclosed
    · rw [if_neg htied]
      exact ⟨⟨fun _ => Or.inl htied, fun _ => ⟨⟨type, 1⟩, rfl, rfl⟩⟩, fun h => absurd h htied⟩
  · have hopen : type.count ')' < type.count '(' := by omega
    have hread := exists_read_withValue_open hname hknown htype hintroducer hvalue
      (Int.not_le.mp hdepth)
    exact ⟨⟨fun _ => Or.inr hopen, fun _ => hread⟩, fun _ hle => absurd hopen (Nat.not_lt.mpr hle)⟩

/-- Of two defaults that start with the same letters one is free. -/
theorem introduced_value_free_note :
    let note := "note".toList
    let type := "VARCHAR(20)".toList
    let introducer := "Default".toList
    (∃ declared, read (withValue note type introducer "key_of_x".toList) = .ok ⟨note, declared⟩ ∧
      declared.baseName = DataType.normalize type) ∧
    read (withValue note type introducer "Key".toList) =
      .error (.misplacedToken note "Key".toList) := by
  intro note type introducer
  have hname : Identifier.isValid note = true := by decide
  have hknown : DataType.isKnown type = true := by decide +kernel
  have htype : tokens type = [type] := by decide +kernel
  have hintroducer : upper introducer ∈ valueIntroducers := by decide
  have hvalue : Identifier.isValid "key_of_x".toList = true := by decide
  have hkey : Identifier.isValid "Key".toList = true := by decide
  have hfree := introduced_value_free_iff hname hknown htype hintroducer hvalue
  have htied := introduced_value_free_iff hname hknown htype hintroducer hkey
  exact ⟨hfree.1.mpr (Or.inl (by decide)), htied.2 (by decide) (by decide)⟩

/-- A default, a reference and a collation that are valid names, and yet turned down. -/
theorem introduced_names_turned_down :
    let note := "note".toList
    let text := "TEXT".toList
    (Identifier.isValid note = true ∧ upper note ∉ modifierWords ∧ DataType.isKnown text = true ∧
      tokens text = [text]) ∧
    withValue note text "DEFAULT".toList "key".toList = "note TEXT DEFAULT key".toList ∧
    ∀ introducer ∈ valueIntroducers, ∀ value ∈ ["key", "primary", "not"].map String.toList,
      Identifier.isValid value = true ∧
        read (withValue note text introducer value) = .error (.misplacedToken note value) := by
  decide +kernel

end ColumnDefinition

end SchemaIntake
