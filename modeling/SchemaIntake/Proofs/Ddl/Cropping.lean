import SchemaIntake.Proofs.Ddl.Columns
import SchemaIntake.Proofs.Text.LetterCase
import SchemaIntake.Schema.Check

/-!
# What follows a parenthesis

Once a parenthesis has been opened in a token, nothing that follows it decides anything: a type is
looked up by what stands before it, a modifier may stand wherever it stands, and no name has one.
So the tokens of a column can be cropped after their first parenthesis, and the column is read all
the same.

## Main definitions

* `cropped t` — the text up to its first opening parenthesis.
* `ColumnDefinition.gist` — what a column is found to be: its name and its base type, or the code of
  its fault.

## Main results

* `DataType.normalize_cropped` — a type is looked up by what stands before its parenthesis.
* `mayStand_cropped` — so does a modifier.
* `ColumnDefinition.gist_cropped` — **a column is read from its cropped tokens**.
-/

namespace SchemaIntake

open Text

/-- A text up to its first opening parenthesis, or the whole text if there is none. -/
def cropped : Text → Text
  | [] => []
  | c :: rest => if c = '(' then ['('] else c :: cropped rest

variable {t a b : Text}

theorem cropped_append_open (h : '(' ∉ a) (b : Text) : cropped (a ++ '(' :: b) = a ++ ['('] := by
  induction a with
  | nil => rfl
  | cons c a ih =>
    rw [List.mem_cons, not_or] at h
    rw [List.cons_append, cropped, if_neg (Ne.symm h.1), ih h.2, List.cons_append]

theorem cropped_eq_self (h : '(' ∉ t) : cropped t = t := by
  induction t with
  | nil => rfl
  | cons c t ih =>
    rw [List.mem_cons, not_or] at h
    rw [cropped, if_neg (Ne.symm h.1), ih h.2]

/-- What comes behind a parenthesis is cropped. -/
theorem cropped_append (h : '(' ∈ t) (more : Text) : cropped (t ++ more) = cropped t := by
  obtain ⟨a, b, rfl, ha⟩ := List.eq_append_cons_of_mem h
  rw [List.append_assoc, List.cons_append, cropped_append_open ha, cropped_append_open ha]

/-- Either there is no parenthesis, or it is known what is cropped. -/
theorem cropped_cases (t : Text) : ('(' ∉ t ∧ cropped t = t) ∨
    ∃ a b, t = a ++ '(' :: b ∧ '(' ∉ a ∧ cropped t = a ++ ['('] := by
  by_cases h : '(' ∈ t
  · obtain ⟨a, b, rfl, ha⟩ := List.eq_append_cons_of_mem h
    exact Or.inr ⟨a, b, rfl, ha, cropped_append_open ha b⟩
  · exact Or.inl ⟨h, cropped_eq_self h⟩

@[simp] theorem open_mem_cropped_iff : '(' ∈ cropped t ↔ '(' ∈ t := by
  rcases cropped_cases t with ⟨-, h⟩ | ⟨a, b, rfl, -, h⟩
  · rw [h]
  · simp [h]

theorem cropped_cropped (t : Text) : cropped (cropped t) = cropped t := by
  rcases cropped_cases t with ⟨-, h⟩ | ⟨a, b, rfl, ha, h⟩
  · rw [h, h]
  · rw [h]
    exact cropped_append_open ha []

@[simp] theorem isEmpty_cropped (t : Text) : (cropped t).isEmpty = t.isEmpty := by
  rcases cropped_cases t with ⟨-, h⟩ | ⟨a, b, rfl, -, h⟩
  · rw [h]
  · rw [h]
    cases a <;> rfl

/-- A word without a parenthesis that starts a text starts what is cropped. -/
theorem prefix_cropped_iff {w : Text} (hw : '(' ∉ w) : w <+: cropped t ↔ w <+: t := by
  rcases cropped_cases t with ⟨-, h⟩ | ⟨a, b, rfl, -, h⟩
  · rw [h]
  · rw [h]
    exact ⟨fun hprefix => (prefix_of_prefix_append_cons hw hprefix).trans (List.prefix_append _ _),
      fun hprefix => (prefix_of_prefix_append_cons hw hprefix).trans (List.prefix_append _ _)⟩

/-- What is compared with words without a parenthesis can be cropped before. -/
theorem any_cropped {f : Text → Bool} (hf : ∀ t, '(' ∈ t → f t = false) (o : Option Text) :
    (o.map cropped).any f = o.any f := by
  cases o with
  | none => rfl
  | some t =>
    by_cases h : '(' ∈ t
    · exact (hf _ (open_mem_cropped_iff.mpr h)).trans (hf t h).symm
    · rw [Option.map_some, cropped_eq_self h]

/-! ### Lower case -/

theorem startsCased_cons (c : Char) (t : Text) :
    startsCased (c :: t) = if isCaseIgnorable c then startsCased t else isCased c := by
  rw [startsCased, List.dropWhile_cons]
  cases isCaseIgnorable c <;> rfl

/-- A character without case that the search does not pass over is like the end of the text to a
capital sigma. -/
theorem startsCased_append_cons {c : Char} (hignorable : isCaseIgnorable c = false)
    (hcased : isCased c = false) (a b : Text) : startsCased (a ++ c :: b) = startsCased a := by
  induction a with
  | nil =>
    rw [List.nil_append, startsCased_cons, if_neg (by simp [hignorable]), hcased]
    rfl
  | cons d a ih => rw [List.cons_append, startsCased_cons, startsCased_cons, ih]

/-- What follows such a character does not change the lower case of what stands before it. -/
theorem lowerAfter_append_cons {c : Char} (hascii : c.toNat < 0x80)
    (hignorable : isCaseIgnorable c = false) (hcased : isCased c = false) (before a b : Text) :
    lowerAfter before (a ++ c :: b) =
      lowerAfter before a ++ c.toLower :: lowerAfter (c :: (a.reverse ++ before)) b := by
  induction a generalizing before with
  | nil =>
    have hsigma : c ≠ 'Σ' := by
      rintro rfl
      exact absurd hascii (by decide)
    have hhead : lowerAfter before (c :: b) = c.toLower :: lowerAfter (c :: before) b := by
      rw [lowerAfter, if_neg hsigma, lowerChar_of_ascii hascii, List.singleton_append]
    exact hhead
  | cons d a ih =>
    rw [List.cons_append, lowerAfter, lowerAfter, ih, startsCased_append_cons hignorable hcased,
      List.append_assoc, List.reverse_cons, List.append_assoc, List.singleton_append]

/-- What stands before such a character is not looked at. -/
theorem lowerAfter_append_cons_before {c : Char} (hignorable : isCaseIgnorable c = false)
    (hcased : isCased c = false) (near far t : Text) :
    lowerAfter (near ++ c :: far) t = lowerAfter near t := by
  induction t generalizing near with
  | nil => rfl
  | cons d t ih =>
    rw [lowerAfter, lowerAfter, startsCased_append_cons hignorable hcased, ← List.cons_append, ih]

/-- Parts of a text that such a character stands between are apart in lower case. -/
theorem lower_append_cons {c : Char} (hascii : c.toNat < 0x80)
    (hignorable : isCaseIgnorable c = false) (hcased : isCased c = false) (a b : Text) :
    lower (a ++ c :: b) = lower a ++ c.toLower :: lower b := by
  have hbefore := lowerAfter_append_cons_before hignorable hcased [] (a.reverse ++ []) b
  rw [lower, lowerAfter_append_cons hascii hignorable hcased, ← List.nil_append (c :: _), hbefore]
  rfl

theorem lower_append_space (a b : Text) : lower (a ++ ' ' :: b) = lower a ++ ' ' :: lower b :=
  lower_append_cons (by decide) (by decide +kernel) (by decide +kernel) a b

theorem lower_append_open (a b : Text) : lower (a ++ '(' :: b) = lower a ++ '(' :: lower b :=
  lower_append_cons (by decide) (by decide +kernel) (by decide +kernel) a b

theorem open_not_mem_lower (h : '(' ∉ t) : '(' ∉ lower t :=
  fun hmem => h (mem_of_mem_lower (by decide) (by decide) hmem)

theorem space_not_mem_lower (h : ' ' ∉ t) : ' ' ∉ lower t :=
  fun hmem => h (mem_of_mem_lower (by decide) (by decide) hmem)

/-- Cropping before or after lowering is the same. -/
theorem cropped_lower (t : Text) : cropped (lower t) = cropped (lower (cropped t)) := by
  rcases cropped_cases t with ⟨-, h⟩ | ⟨a, b, rfl, ha, h⟩
  · rw [h]
  · have hlower := open_not_mem_lower ha
    rw [h, lower_append_open, lower_append_open, cropped_append_open hlower,
      cropped_append_open hlower]

/-! ### Types -/

namespace DataType

/-- A text is not shorter by an array suffix where a parenthesis is opened. -/
theorem exists_dropArraySuffix_append_open (a b : Text) :
    ∃ r, dropArraySuffix (a ++ '(' :: b) = a ++ '(' :: r := by
  rw [dropArraySuffix]
  split
  · next hsuffix =>
    obtain ⟨r, rfl⟩ :=
      suffix_of_suffix_append_cons (by decide) (List.isSuffixOf_iff_suffix.mp hsuffix)
    refine ⟨r, ?_⟩
    have hlength : (a ++ '(' :: (r ++ "[]".toList)).length - 2 = (a ++ '(' :: r).length := by
      simp
      omega
    have hsplit : a ++ '(' :: (r ++ "[]".toList) = (a ++ '(' :: r) ++ "[]".toList := by simp
    rw [hlength, hsplit, List.take_left]
  · exact ⟨b, rfl⟩

/-- A type is looked up by what stands before its parenthesis. -/
theorem normalize_append_open (h : '(' ∉ a) (b : Text) :
    normalize (a ++ '(' :: b) = trim (lower a) := by
  obtain ⟨r, hr⟩ := exists_dropArraySuffix_append_open (lower a) (lower b)
  have hnone := open_not_mem_lower h
  have hall : ∀ c ∈ lower a, (c != '(') = true := by
    intro c hc
    rw [bne_iff_ne]
    rintro rfl
    exact hnone hc
  have htake : (lower a ++ '(' :: r).takeWhile (· != '(') = lower a := by
    rw [List.takeWhile_append_of_pos hall]
    simp
  rw [normalize, lower_append_open, hr, if_pos (by simp), htake]

theorem normalize_cropped (written : Text) : normalize (cropped written) = normalize written := by
  rcases cropped_cases written with ⟨-, h⟩ | ⟨a, b, rfl, ha, h⟩
  · rw [h]
  · rw [h, normalize_append_open ha, normalize_append_open ha]

theorem isKnown_cropped (written : Text) : isKnown (cropped written) = isKnown written := by
  rw [isKnown, isEmpty_cropped, category?, normalize_cropped, isKnown, category?]

end DataType

/-- A declared type whose writing is cropped. -/
def DeclaredType.cropped (type : DeclaredType) : DeclaredType :=
  { type with raw := SchemaIntake.cropped type.raw }

namespace DeclaredType

theorem baseName_cropped (type : DeclaredType) : type.cropped.baseName = type.baseName :=
  DataType.normalize_cropped type.raw

theorem isKnown_cropped (type : DeclaredType) : type.cropped.isKnown = type.isKnown :=
  DataType.isKnown_cropped type.raw

/-- Two tokens are cropped together if they are cropped one by one before. -/
theorem cropped_append_space (first second : Text) :
    SchemaIntake.cropped (SchemaIntake.cropped first ++ ' ' :: SchemaIntake.cropped second) =
      SchemaIntake.cropped (first ++ ' ' :: second) := by
  rcases cropped_cases first with ⟨hfirst, h⟩ | ⟨a, b, rfl, ha, h⟩
  · rw [h]
    rcases cropped_cases second with ⟨-, h'⟩ | ⟨a, b, rfl, ha, h'⟩
    · rw [h']
    · have hnone : '(' ∉ first ++ ' ' :: a := by simp [hfirst, ha]
      have hleft := cropped_append_open hnone []
      have hright := cropped_append_open hnone b
      rw [List.append_assoc, List.cons_append] at hleft hright
      rw [h', hleft, hright, List.append_assoc, List.cons_append]
  · have hleft := cropped_append_open ha (' ' :: SchemaIntake.cropped second)
    have hright := cropped_append_open ha (b ++ ' ' :: second)
    rw [h, List.append_assoc, List.singleton_append, hleft, List.append_assoc, List.cons_append,
      hright]

theorem ofTwoWords?_cropped (first second : Text) :
    (ofTwoWords? (SchemaIntake.cropped first) (SchemaIntake.cropped second)).map cropped =
      (ofTwoWords? first second).map cropped := by
  have hjoined : SchemaIntake.cropped
      (lower (SchemaIntake.cropped first ++ ' ' :: SchemaIntake.cropped second)) =
        SchemaIntake.cropped (lower (first ++ ' ' :: second)) := by
    rw [cropped_lower, cropped_append_space, ← cropped_lower]
  -- no opening has a parenthesis, so none sees what is cropped
  have hopenings : ∀ w ∈ DataType.twoWordOpenings, '(' ∉ w := by decide
  have hany : DataType.twoWordOpenings.any (·.isPrefixOf
      (lower (SchemaIntake.cropped first ++ ' ' :: SchemaIntake.cropped second))) =
        DataType.twoWordOpenings.any (·.isPrefixOf (lower (first ++ ' ' :: second))) := by
    rw [Bool.eq_iff_iff, List.any_eq_true, List.any_eq_true]
    refine exists_congr fun w => and_congr_right fun hw => ?_
    rw [List.isPrefixOf_iff_prefix, List.isPrefixOf_iff_prefix,
      ← prefix_cropped_iff (hopenings w hw), hjoined, prefix_cropped_iff (hopenings w hw)]
  rw [ofTwoWords?, ofTwoWords?, hany]
  split
  · exact congrArg (fun raw => some (DeclaredType.mk raw 2)) hjoined
  · rfl

theorem ofTokens?_cropped (ts : List Text) :
    (ofTokens? (ts.map SchemaIntake.cropped)).map cropped = (ofTokens? ts).map cropped := by
  have hone (first : Text) : cropped ⟨SchemaIntake.cropped first, 1⟩ = cropped ⟨first, 1⟩ :=
    congrArg (DeclaredType.mk · 1) (cropped_cropped first)
  match ts with
  | [] => rfl
  | [first] => exact congrArg some (hone first)
  | first :: second :: rest =>
    have htwo := ofTwoWords?_cropped first second
    rw [List.map_cons, List.map_cons, ofTokens?, ofTokens?]
    cases h : ofTwoWords? first second with
    | none =>
      rw [h] at htwo
      rw [Option.map_eq_none_iff.mp htwo]
      exact congrArg some (hone first)
    | some type =>
      rw [h] at htwo
      obtain ⟨type', htype', hcropped⟩ := Option.map_eq_some_iff.mp htwo
      rw [htype']
      exact congrArg some hcropped

end DeclaredType

/-! ### Columns -/

theorem isOperand_of_open_mem (h : '(' ∈ t) : isOperand t = true := by
  simp [isOperand, h]

/-- The words that are asked for after a word have letters only. -/
theorem not_mem_of_requiredAfter? {word w : Text} {allowed : List Text}
    (h : requiredAfter? word = some allowed) (hw : w ∈ allowed) {c : Char}
    (hc : isLetter c = false) : c ∉ w := by
  have hletters : w.all isLetter = true := by
    rw [requiredAfter?] at h
    split at h
    · obtain rfl := Option.some.inj h
      revert w
      decide
    · split at h
      · obtain rfl := Option.some.inj h
        revert w
        decide
      · exact absurd h (by simp)
  intro hmem
  rw [List.all_eq_true.mp hletters c hmem] at hc
  exact absurd hc (by simp)

/-- A modifier may stand between its neighbours if it may between what is cropped of them. -/
theorem mayStand_cropped (before? : Option Text) (token : Text) (after? : Option Text) :
    mayStand (before?.map cropped) (cropped token) (after?.map cropped) =
      mayStand before? token after? := by
  by_cases htoken : '(' ∈ token
  · have hcropped : isOperand (cropped token) = true :=
      isOperand_of_open_mem (open_mem_cropped_iff.mpr htoken)
    simp only [mayStand, hcropped, isOperand_of_open_mem htoken, if_true]
  -- the words that the rules ask for have letters only, and so no parenthesis
  · have hopen : Caseless fun c => decide (c = '(') := caseless_eq (by decide) (by decide)
    have hbefore : ∀ required, requiredBefore? (upper token) = some required →
        (before?.map cropped).any (sameLetters · required) =
          before?.any (sameLetters · required) := by
      intro required hrequired
      refine any_cropped (fun t ht => sameLetters_eq_false hopen ht ?_) before?
      rw [requiredBefore?] at hrequired
      split at hrequired
      · obtain rfl := Option.some.inj hrequired
        decide
      · exact absurd hrequired (by simp)
    have hafter : ∀ allowed, requiredAfter? (upper token) = some allowed →
        (after?.map cropped).any (fun after => allowed.any (sameLetters after ·)) =
          after?.any fun after => allowed.any (sameLetters after ·) := by
      intro allowed hallowed
      refine any_cropped (fun t ht => List.any_eq_false.mpr fun w hw => ?_) after?
      simp [sameLetters_eq_false hopen ht (not_mem_of_requiredAfter? hallowed hw rfl)]
    have hvalue :
        (before?.map cropped).any (fun before => valueIntroducers.contains (upper before)) =
          before?.any fun before => valueIntroducers.contains (upper before) := by
      exact any_cropped (fun t ht => contains_upper_eq_false (by decide) ht (by decide)) before?
    rw [cropped_eq_self htoken, mayStand, mayStand, hvalue]
    cases hrequired : requiredBefore? (upper token) with
    | some required => simp only [hbefore required hrequired]
    | none =>
      cases hallowed : requiredAfter? (upper token) with
      | some allowed => simp only [hafter allowed hallowed]
      | none => rfl

theorem firstMisplacedAfter?_cropped (before? : Option Text) (ts : List Text) :
    firstMisplacedAfter? (before?.map cropped) (ts.map cropped) =
      (firstMisplacedAfter? before? ts).map cropped := by
  induction ts generalizing before? with
  | nil => rfl
  | cons token rest ih =>
    rw [List.map_cons, firstMisplacedAfter?, List.head?_map, mayStand_cropped,
      firstMisplacedAfter?]
    split
    · exact ih (some token)
    · rfl

/-- What a column is found to be: its name and its base type, or the code of its fault. -/
def ColumnDefinition.gist (result : Except ColumnFault ColumnDefinition) :
    Except Code (Text × Text) :=
  (result.map fun column => (column.name, column.type.baseName)).mapError TableDraft.faultCode

/-- **A column is read from its cropped tokens.** -/
theorem ColumnDefinition.gist_cropped (ts : List Text) :
    gist (ofTokens (ts.map cropped)) = gist (ofTokens ts) := by
  cases ts with
  | nil => rfl
  | cons first rest =>
    have htypes := DeclaredType.ofTokens?_cropped rest
    rw [List.map_cons, ofTokens, ofTokens]
    cases htype : DeclaredType.ofTokens? rest with
    | none =>
      rw [htype] at htypes
      rw [Option.map_eq_none_iff.mp htypes]
    | some type =>
      rw [htype] at htypes
      obtain ⟨type', htype', hcropped⟩ := Option.map_eq_some_iff.mp htypes
      -- the two types differ in what is cropped at most
      have hknown : type'.isKnown = type.isKnown := by
        rw [← type'.isKnown_cropped, hcropped, type.isKnown_cropped]
      have hbase : type'.baseName = type.baseName := by
        rw [← type'.baseName_cropped, hcropped, type.baseName_cropped]
      have hcount : type'.wordCount = type.wordCount := congrArg (·.wordCount) hcropped
      rw [htype']
      dsimp only
      rw [hknown, hcount]
      by_cases hfirst : '(' ∈ first
      · -- no name has a parenthesis, so whatever follows is not looked at
        have hinvalid {token : Text} (h : '(' ∈ token) :
            Identifier.isValid (Identifier.unquote token) = false :=
          Identifier.isValid_unquote_eq_false h (by decide) (by decide)
        rw [hinvalid hfirst, hinvalid (open_mem_cropped_iff.mpr hfirst)]
        cases type.isKnown <;> rfl
      · have hmisplaced : firstMisplaced? (first :: rest.map cropped) (1 + type.wordCount) =
            (firstMisplaced? (first :: rest) (1 + type.wordCount)).map cropped := by
          have hdrop := firstMisplacedAfter?_cropped none
            ((first :: rest).drop (1 + type.wordCount))
          rwa [List.map_drop, List.map_cons, cropped_eq_self hfirst] at hdrop
        rw [cropped_eq_self hfirst, hmisplaced]
        cases type.isKnown with
        | false => rfl
        | true =>
          cases Identifier.isValid (Identifier.unquote first) with
          | false => rfl
          | true =>
            cases firstMisplaced? (first :: rest) (1 + type.wordCount) with
            | some token => rfl
            | none => exact congrArg (fun base => Except.ok (Identifier.unquote first, base)) hbase

end SchemaIntake
