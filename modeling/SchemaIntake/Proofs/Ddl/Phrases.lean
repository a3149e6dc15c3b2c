import Mathlib.Data.List.DropRight
import Mathlib.Data.List.Forall2
import SchemaIntake.Ddl.Header
import SchemaIntake.Proofs.Text.Casing

/-!
# Keywords and names of headers

A header begins with keywords, each with white space after it, and goes on with names.  As a grammar
this leaves open where a run of white space ends, or a name.  The readers take as much as they can;
what they read is what the grammar allows, and where something else follows that could not be taken
as well, they read all of it.

## Main definitions

* `Header.Phrase keywords p` — `p` spells the keywords, with white space after each of them.
* `Header.Word.text w` — a name with the quotes it has.

## Main results

* `Header.keyword?_eq_some_iff` — what is read for a keyword is a spelling of it.
* `Header.text_append_of_word?`, `Header.word?_append` — names are read as they are written.
* `Header.exists_of_phrase?`, `Header.phrase?_append` — phrases are read as they are written.
-/

namespace SchemaIntake

open Text

namespace Header

/-! ### The grammar -/

/-- A run of white space that is not empty. -/
structure IsGap (t : Text) : Prop where
  ne_nil : t ≠ []
  blank : ∀ c ∈ t, isBlank c = true

/-- A spelling of a keyword, which itself is in capitals. -/
def Spells (keyword word : Text) : Prop :=
  List.Forall₂ (fun letter c => folds letter c = true) keyword word

/-- Some keywords, each with white space after it. -/
inductive Phrase : List Text → Text → Prop
  | nil : Phrase [] []
  | cons {keyword word gap p : Text} {keywords : List Text} (hword : Spells keyword word)
      (hgap : IsGap gap) (hp : Phrase keywords p) :
      Phrase (keyword :: keywords) (word ++ (gap ++ p))

def openingWords : List Text := ["CREATE".toList, "TABLE".toList]

def conditionWords : List Text := ["IF".toList, "NOT".toList, "EXISTS".toList]

/-- A name with the quotes it has. -/
def Word.text (w : Word) : Text :=
  (if w.opened then ['"'] else []) ++ (w.name ++ if w.closed then ['"'] else [])

/-- The name is a run of name characters that is not empty. -/
structure Word.IsProper (w : Word) : Prop where
  ne_nil : w.name ≠ []
  /-- It is made of name characters. -/
  chars : ∀ c ∈ w.name, isNameChar c = true

/-! ### Characters -/

theorem folds_self (letter : Char) : folds letter letter = true := by
  simp [folds]

/-- What spells a capital letter may also stand in a name. -/
theorem isNameChar_of_folds {letter c : Char} (hletter : letter.isUpper = true)
    (h : folds letter c = true) : isNameChar c = true := by
  have hbounds : 0x41 ≤ letter.toNat ∧ letter.toNat ≤ 0x5a := of_decide_eq_true hletter
  have hascii : letter.toNat < 0x80 := by omega
  have hboth : isNameChar letter = true ∧ isNameChar letter.toLower = true := by
    revert hletter
    exact forall_ascii (P := fun l => l.isUpper = true →
      isNameChar l = true ∧ isNameChar l.toLower = true) (by decide) hascii
  simp only [folds, Bool.or_eq_true, Bool.and_eq_true, beq_iff_eq] at h
  rcases h with ((rfl | rfl) | ⟨-, rfl⟩) | ⟨-, rfl⟩
  · exact hboth.1
  · exact hboth.2
  · decide
  · decide

/-- No white space is a name character. -/
theorem isBlank_of_isNameChar {c : Char} (h : isNameChar c = true) : isBlank c = false := by
  have hascii : ∀ d : Char, d.toNat < 0x80 → isNameChar d = true → isBlank d = false :=
    fun _ => forall_ascii (P := fun d => isNameChar d = true → isBlank d = false) (by decide)
  have hcases := h
  simp only [isNameChar, Bool.or_eq_true, beq_iff_eq] at hcases
  rcases hcases with (((hc | hc) | rfl) | rfl) | rfl
  · exact hascii c (toNat_of_isLetter hc) h
  · exact hascii c (toNat_of_isDigit hc) h
  · decide
  · decide
  · decide

/-- White space ends a name. -/
theorem not_isNameChar_of_isBlank {c : Char} (h : isBlank c = true) :
    isNameChar c = false ∧ c ≠ '"' := by
  constructor
  · rw [Bool.eq_false_iff]
    intro hname
    rw [isBlank_of_isNameChar hname] at h
    exact Bool.false_ne_true h
  · rintro rfl
    exact absurd h (by decide)

/-- A text that does not start with white space. -/
def IsFirm (t : Text) : Prop := t.dropWhile isBlank = t

theorem isFirm_cons {c : Char} (hc : isBlank c = false) (t : Text) : IsFirm (c :: t) := by
  unfold IsFirm
  rw [List.dropWhile_cons_of_neg (by simp [hc])]

/-! ### Keywords and white space -/

theorem keyword?_eq_some_iff {keyword t r : Text} :
    keyword? keyword t = some r ↔ ∃ word, Spells keyword word ∧ t = word ++ r := by
  unfold Spells
  constructor
  · intro h
    fun_induction keyword? keyword t with
    | case1 t => exact ⟨[], .nil, Option.some.inj h⟩
    | case2 => exact absurd h (by simp)
    | case3 letter keyword c t hc ih =>
      obtain ⟨word, hword, rfl⟩ := ih h
      exact ⟨c :: word, .cons hc hword, rfl⟩
    | case4 => exact absurd h (by simp)
  · rintro ⟨word, hword, rfl⟩
    induction hword with
    | nil => rfl
    | cons hc _ ih => rw [List.cons_append, keyword?, if_pos hc, ih]

/-- White space is taken up to where it ends. -/
theorem exists_of_blanks? {t r : Text} (h : blanks? t = some r) :
    ∃ gap, IsGap gap ∧ t = gap ++ r ∧ IsFirm r := by
  cases t with
  | nil => exact absurd h (by simp [blanks?])
  | cons c t =>
    rw [blanks?] at h
    split at h
    · next hc =>
      obtain rfl := Option.some.inj h
      refine ⟨c :: t.takeWhile isBlank, ⟨List.cons_ne_nil _ _, ?_⟩, ?_, ?_⟩
      · intro d hd
        rcases List.mem_cons.mp hd with rfl | hd
        · exact hc
        · exact List.mem_takeWhile_imp hd
      · rw [List.cons_append, List.takeWhile_append_dropWhile]
      · unfold IsFirm
        exact List.dropWhile_idempotent isBlank t
    · exact absurd h (by simp)

theorem blanks?_append {gap r : Text} (hgap : IsGap gap) (hr : IsFirm r) :
    blanks? (gap ++ r) = some r := by
  obtain ⟨c, cs, rfl⟩ := List.exists_cons_of_ne_nil hgap.ne_nil
  have hcs : ∀ d ∈ cs, isBlank d = true := fun d hd => hgap.blank d (List.mem_cons_of_mem c hd)
  rw [List.cons_append, blanks?, if_pos (hgap.blank c List.mem_cons_self),
    List.dropWhile_append_of_pos hcs, hr]

/-! ### Names -/

theorem text_eq_append_quote (t : Text) :
    t = (if (quote t).1 then ['"'] else []) ++ (quote t).2 := by
  unfold quote
  split <;> rfl

theorem quote_of_ne {c : Char} (hc : c ≠ '"') (t : Text) : quote (c :: t) = (false, c :: t) := by
  rw [quote]
  rintro rest h
  exact hc (List.cons.inj h).1

theorem quote_append {c : Char} (hc : c ≠ '"') (b : Bool) (t : Text) :
    quote ((if b then ['"'] else []) ++ c :: t) = (b, c :: t) := by
  cases b with
  | true => rfl
  | false => exact quote_of_ne hc t

/-- What is read for a word is one. -/
theorem text_append_of_word? {t r : Text} {w : Word} (h : word? t = some (w, r)) :
    w.IsProper ∧ t = w.text ++ r := by
  unfold word? at h
  dsimp only at h
  split at h
  · exact absurd h (by simp)
  · next hne =>
    obtain ⟨rfl, rfl⟩ := Prod.mk.inj (Option.some.inj h)
    refine ⟨⟨by simpa using hne, fun c hc => List.mem_takeWhile_imp hc⟩, ?_⟩
    have hopened := text_eq_append_quote t
    have hname := List.takeWhile_append_dropWhile (p := isNameChar) (l := (quote t).2)
    have hclosed := text_eq_append_quote ((quote t).2.dropWhile isNameChar)
    unfold Word.text
    rw [List.append_assoc, List.append_assoc, ← hclosed, hname, ← hopened]

/-- A word is read as it is written, up to a character that cannot continue it. -/
theorem word?_append {w : Word} (hw : w.IsProper) {c : Char} (hc : isNameChar c = false)
    (hquote : c ≠ '"') (t : Text) : word? (w.text ++ c :: t) = some (w, c :: t) := by
  obtain ⟨opened, name, closed⟩ := w
  obtain ⟨d, ds, rfl⟩ := List.exists_cons_of_ne_nil hw.ne_nil
  have hd : d ≠ '"' := by
    rintro rfl
    exact absurd (hw.chars '"' List.mem_cons_self) (by decide)
  -- the name ends at its quote, or else at the character after it
  obtain ⟨e, es, hend, he⟩ : ∃ e es,
      (if closed then ['"'] else []) ++ c :: t = e :: es ∧ isNameChar e = false := by
    cases closed with
    | true => exact ⟨'"', c :: t, rfl, by decide⟩
    | false => exact ⟨c, t, rfl, hc⟩
  have hquoted : quote (e :: es) = (closed, c :: t) := by
    rw [← hend, quote_append hquote]
  have htext : (⟨opened, d :: ds, closed⟩ : Word).text ++ c :: t =
      (if opened then ['"'] else []) ++ d :: (ds ++ e :: es) := by
    unfold Word.text
    rw [← hend]
    simp
  have htake : (d :: (ds ++ e :: es)).takeWhile isNameChar = d :: ds := by
    rw [← List.cons_append, List.takeWhile_append_of_pos hw.chars,
      List.takeWhile_cons_of_neg (by simp [he]), List.append_nil]
  have hdrop : (d :: (ds ++ e :: es)).dropWhile isNameChar = e :: es := by
    rw [← List.cons_append, List.dropWhile_append_of_pos hw.chars,
      List.dropWhile_cons_of_neg (by simp [he])]
  unfold word?
  rw [htext]
  simp only [quote_append hd, htake, hdrop, hquoted, List.isEmpty_cons, Bool.false_eq_true,
    if_false]

theorem Word.IsProper.isFirm {w : Word} (hw : w.IsProper) (t : Text) : IsFirm (w.text ++ t) := by
  obtain ⟨opened, name, closed⟩ := w
  obtain ⟨d, ds, rfl⟩ := List.exists_cons_of_ne_nil hw.ne_nil
  cases opened with
  | true => exact isFirm_cons (by decide) _
  | false => exact isFirm_cons (isBlank_of_isNameChar (hw.chars d List.mem_cons_self)) _

/-! ### Phrases -/

/-- What follows some keywords, each with white space after it, at the start of the text. -/
def phrase? : List Text → Text → Option Text
  | [], t => some t
  | keyword :: keywords, t =>
    (keyword? keyword t).bind fun t => (blanks? t).bind fun t => phrase? keywords t

theorem opening?_eq (t : Text) : opening? t = phrase? openingWords t := by
  simp only [opening?, openingWords, phrase?, Option.bind_eq_bind, Option.bind_fun_some]

theorem ifNotExists?_eq (t : Text) : ifNotExists? t = phrase? conditionWords t := by
  simp only [ifNotExists?, conditionWords, phrase?, Option.bind_eq_bind, Option.bind_fun_some]

theorem exists_of_phrase_cons {keyword p : Text} {keywords : List Text}
    (h : Phrase (keyword :: keywords) p) : ∃ word gap q, Spells keyword word ∧ IsGap gap ∧
      Phrase keywords q ∧ p = word ++ (gap ++ q) := by
  cases h with
  | cons hword hgap hq => exact ⟨_, _, _, hword, hgap, hq, rfl⟩

/-- What is read for a phrase is one, and no white space is left after it. -/
theorem exists_of_phrase? {keywords : List Text} {t r : Text} (h : phrase? keywords t = some r) :
    ∃ p, Phrase keywords p ∧ t = p ++ r ∧ (keywords ≠ [] → IsFirm r) := by
  induction keywords generalizing t with
  | nil =>
    obtain rfl := Option.some.inj h
    exact ⟨[], .nil, rfl, fun hne => absurd rfl hne⟩
  | cons keyword keywords ih =>
    obtain ⟨u, hword, h⟩ := Option.bind_eq_some_iff.mp h
    obtain ⟨v, hblanks, hphrase⟩ := Option.bind_eq_some_iff.mp h
    obtain ⟨word, hspells, rfl⟩ := keyword?_eq_some_iff.mp hword
    obtain ⟨gap, hgap, rfl, hfirm⟩ := exists_of_blanks? hblanks
    obtain ⟨p, hp, rfl, hrest⟩ := ih hphrase
    refine ⟨word ++ (gap ++ p), .cons hspells hgap hp, by simp, fun _ => ?_⟩
    cases hp with
    | nil => exact hfirm
    | cons => exact hrest (List.cons_ne_nil _ _)

/-- A keyword as it stands in headers: of capital letters, and not empty. -/
structure IsCapital (keyword : Text) : Prop where
  ne_nil : keyword ≠ []
  letters : ∀ letter ∈ keyword, letter.isUpper = true

instance (keyword : Text) : Decidable (IsCapital keyword) :=
  decidable_of_iff (keyword ≠ [] ∧ keyword.all Char.isUpper = true) <| by
    rw [List.all_eq_true]
    exact ⟨fun h => ⟨h.1, h.2⟩, fun h => ⟨h.ne_nil, h.letters⟩⟩

/-- All keywords of a phrase are such. -/
def AreCapital (keywords : List Text) : Prop := ∀ keyword ∈ keywords, IsCapital keyword

instance (keywords : List Text) : Decidable (AreCapital keywords) :=
  inferInstanceAs (Decidable (∀ keyword ∈ keywords, IsCapital keyword))

def Word.bare (name : Text) : Word := ⟨false, name, false⟩

@[simp] theorem Word.text_bare (name : Text) : (Word.bare name).text = name := by
  simp [Word.text, Word.bare]

/-- What spells a keyword could also be a name. -/
theorem isProper_bare_of_spells {keyword word : Text} (hcapital : IsCapital keyword)
    (h : Spells keyword word) : (Word.bare word).IsProper := by
  obtain ⟨hne, hletters⟩ := hcapital
  unfold Spells at h
  constructor
  · rintro rfl
    exact hne (List.forall₂_nil_right_iff.mp h)
  · show ∀ c ∈ word, isNameChar c = true
    clear hne
    induction h with
    | nil => exact fun c hc => absurd hc List.not_mem_nil
    | @cons letter d letters ds hd _ ih =>
      intro c hc
      rcases List.mem_cons.mp hc with rfl | hc
      · exact isNameChar_of_folds (hletters letter List.mem_cons_self) hd
      · exact ih (fun l hl => hletters l (List.mem_cons_of_mem letter hl)) c hc

/-- A phrase starts with a letter. -/
theorem isFirm_phrase_append {keywords : List Text} (hcapital : AreCapital keywords) {p r : Text}
    (hp : Phrase keywords p) (hr : IsFirm r) : IsFirm (p ++ r) := by
  cases hp with
  | nil => exact hr
  | cons hword _ _ =>
    have hfirm := (isProper_bare_of_spells (hcapital _ List.mem_cons_self) hword).isFirm
    simp only [Word.text_bare] at hfirm
    rw [List.append_assoc]
    exact hfirm _

/-- A phrase is read as it is written, up to what is not white space. -/
theorem phrase?_append {keywords : List Text} (hcapital : AreCapital keywords) {p r : Text}
    (hp : Phrase keywords p) (hr : IsFirm r) : phrase? keywords (p ++ r) = some r := by
  induction hp with
  | nil => rfl
  | cons hword hgap hp ih =>
    have hrest : AreCapital _ := fun k hk => hcapital k (List.mem_cons_of_mem _ hk)
    rw [List.append_assoc, List.append_assoc, phrase?, keyword?_eq_some_iff.mpr ⟨_, hword, rfl⟩,
      Option.bind_some, blanks?_append hgap (isFirm_phrase_append hrest hp hr), Option.bind_some,
      ih hrest]

/-- There is some white space for each keyword of a phrase. -/
theorem Phrase.length_le_countP {keywords : List Text} {p : Text} (hp : Phrase keywords p) :
    keywords.length ≤ p.countP isBlank := by
  induction hp with
  | nil => exact Nat.zero_le _
  | @cons keyword word gap p keywords _ hgap _ ih =>
    have hone : 0 < gap.countP isBlank := by
      obtain ⟨c, cs, rfl⟩ := List.exists_cons_of_ne_nil hgap.ne_nil
      exact List.countP_pos_iff.mpr ⟨c, List.mem_cons_self, hgap.blank c List.mem_cons_self⟩
    rw [List.countP_append, List.countP_append, List.length_cons]
    omega

/-- More white space may follow a phrase. -/
theorem Phrase.append_blank {keywords : List Text} (hne : keywords ≠ []) {p blank : Text}
    (hp : Phrase keywords p) (hblank : ∀ c ∈ blank, isBlank c = true) :
    Phrase keywords (p ++ blank) := by
  induction hp with
  | nil => exact absurd rfl hne
  | @cons keyword word gap p keywords hword hgap hp ih =>
    rw [List.append_assoc, List.append_assoc]
    cases keywords with
    | nil =>
      cases hp
      have hlonger : IsGap (gap ++ blank) := by
        refine ⟨fun hnil => hgap.ne_nil (List.append_eq_nil_iff.mp hnil).1, fun c hc => ?_⟩
        exact (List.mem_append.mp hc).elim (hgap.blank c) (hblank c)
      have hphrase : Phrase [keyword] (word ++ ((gap ++ blank) ++ [])) := .cons hword hlonger .nil
      rwa [List.append_nil] at hphrase
    | cons => exact .cons hword hgap (ih (List.cons_ne_nil _ _))

/-- A text starts with some keywords if what it starts with can be divided up into them. -/
theorem isSome_phrase?_iff {keywords : List Text} (hcapital : AreCapital keywords)
    (hne : keywords ≠ []) {t : Text} :
    (phrase? keywords t).isSome = true ↔ ∃ p r, Phrase keywords p ∧ t = p ++ r := by
  rw [Option.isSome_iff_exists]
  constructor
  · rintro ⟨r, hr⟩
    obtain ⟨p, hp, ht, -⟩ := exists_of_phrase? hr
    exact ⟨p, r, hp, ht⟩
  · rintro ⟨p, r, hp, rfl⟩
    -- white space at the start of the rest belongs to the phrase
    have hblank : Phrase keywords (p ++ r.takeWhile isBlank) :=
      hp.append_blank hne fun c hc => List.mem_takeWhile_imp hc
    have hfirm : IsFirm (r.dropWhile isBlank) := List.dropWhile_idempotent isBlank r
    have hread := phrase?_append hcapital hblank hfirm
    rw [List.append_assoc, List.takeWhile_append_dropWhile] at hread
    exact ⟨_, hread⟩

end Header

end SchemaIntake
