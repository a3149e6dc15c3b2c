import SchemaIntake.Proofs.Ddl.Phrases

/-!
# How headers are written

A header is written as `CREATE TABLE`, perhaps `IF NOT EXISTS`, perhaps a schema, and a name.  As a
grammar this leaves choices: whether the condition is there, and which name is the schema.  The
reader never tries more than one of them.  Here the grammar is stated with all of its choices, and
the reader is shown to find every header that can be read in any way, and no other; so a text starts
with at most one header.

## Main definitions

* `Header.Opens h t` — **the text `t` starts with the header `h`**, by the grammar.
* `Header.IsFirstIn h t` — no header stands before `h` in the text.

## Main results

* `Header.ifNotExists?_eq_none` — no name that opens a header can be taken for the condition.
* `Header.read?_eq_some_iff` — **the reader finds what the grammar allows**.
* `Header.Opens.exists_eq_append` — what comes before the parenthesis of a header.
* `Header.find?_eq_some_iff` — the header that is found is the first one.
-/

namespace SchemaIntake

open Text

namespace Header

/-! ### The grammar -/

/-- The schema with its dot, where there is one. -/
def qualifier (schema : Option Word) : Text := schema.elim [] fun w => w.text ++ ['.']

/-- The text starts with the names of the header, up to its parenthesis. -/
structure IsNamed (h : Header) (t gap : Text) : Prop where
  schema : ∀ w ∈ h.schema, w.IsProper
  table : h.table.IsProper
  /-- White space may stand before the parenthesis. -/
  blank : ∀ c ∈ gap, isBlank c = true
  /-- The parts stand in this order. -/
  eq_append : t = qualifier h.schema ++ (h.table.text ++ (gap ++ '(' :: h.rest))

/-- The parts of a text that starts with a header. -/
structure IsWritten (h : Header) (t opening condition names gap : Text) : Prop where
  /-- The header opens with its keywords. -/
  phrase : Phrase openingWords opening
  /-- The condition may be left out. -/
  conditional : condition = [] ∨ Phrase conditionWords condition
  /-- The names come last. -/
  named : IsNamed h names gap
  /-- The parts stand in this order. -/
  eq_append : t = opening ++ (condition ++ names)

end Header

/-- The text starts with the header. -/
def Header.Opens (h : Header) (t : Text) : Prop :=
  ∃ opening condition names gap, Header.IsWritten h t opening condition names gap

namespace Header

/-! ### Headers -/

/-- What stands between the table name and the body: perhaps white space, then the parenthesis. -/
theorem exists_cons_of_gap {gap : Text} (hgap : ∀ c ∈ gap, isBlank c = true) (rest : Text) :
    ∃ c cs, gap ++ '(' :: rest = c :: cs ∧ isNameChar c = false ∧ c ≠ '"' ∧ c ≠ '.' := by
  cases gap with
  | nil => exact ⟨'(', rest, rfl, by decide⟩
  | cons c gap =>
    have hc : isBlank c = true := hgap c List.mem_cons_self
    obtain ⟨hname, hquote⟩ := not_isNameChar_of_isBlank hc
    refine ⟨c, _, rfl, hname, hquote, ?_⟩
    rintro rfl
    exact absurd hc (by decide)

theorem close?_eq_some_iff {schema : Option Word} {table : Word} {t : Text} {h : Header} :
    close? schema table t = some h ↔ h.schema = schema ∧ h.table = table ∧
      ∃ gap, (∀ c ∈ gap, isBlank c = true) ∧ t = gap ++ '(' :: h.rest := by
  unfold close?
  constructor
  · intro hclose
    split at hclose
    · next rest hrest =>
      obtain rfl := Option.some.inj hclose
      refine ⟨rfl, rfl, t.takeWhile isBlank, fun c hc => List.mem_takeWhile_imp hc, ?_⟩
      rw [← hrest, List.takeWhile_append_dropWhile]
    · exact absurd hclose (by simp)
  · rintro ⟨rfl, rfl, gap, hgap, rfl⟩
    rw [List.dropWhile_append_of_pos hgap, List.dropWhile_cons_of_neg (by decide)]
    rfl

/-- The names of a header at the start of the text. -/
def names? (t : Text) : Option Header :=
  (word? t).bind fun first =>
    match first.2 with
    | '.' :: t => (word? t).bind fun second => close? (some first.1) second.1 second.2
    | _ => close? none first.1 first.2

theorem read?_eq (t : Text) :
    read? t = (opening? t).bind fun u => names? ((ifNotExists? u).getD u) := rfl

theorem exists_of_names? {t : Text} {h : Header} (hread : names? t = some h) :
    ∃ gap, h.IsNamed t gap := by
  obtain ⟨⟨first, u⟩, hfirst, hrest⟩ := Option.bind_eq_some_iff.mp hread
  obtain ⟨hproper, rfl⟩ := text_append_of_word? hfirst
  dsimp only at hrest
  -- a dot after the first word makes it the schema
  split at hrest
  · next v =>
    obtain ⟨⟨second, x⟩, hsecond, hclose⟩ := Option.bind_eq_some_iff.mp hrest
    obtain ⟨hproper', rfl⟩ := text_append_of_word? hsecond
    obtain ⟨hschema, htable, gap, hgap, rfl⟩ := close?_eq_some_iff.mp hclose
    refine ⟨gap, ?_, htable ▸ hproper', hgap, ?_⟩
    · intro w hw
      rw [hschema] at hw
      obtain rfl := Option.some.inj hw
      exact hproper
    · rw [hschema, htable]
      simp [qualifier]
  · obtain ⟨hschema, htable, gap, hgap, rfl⟩ := close?_eq_some_iff.mp hrest
    refine ⟨gap, ?_, htable ▸ hproper, hgap, ?_⟩
    · intro w hw
      rw [hschema] at hw
      exact absurd hw (by simp)
    · rw [hschema, htable]
      rfl

section Named

variable {h : Header} {t gap : Text}

theorem names?_of_isNamed (hnamed : h.IsNamed t gap) : names? t = some h := by
  obtain ⟨c, r, heq, hname, hquote, hdot⟩ := exists_cons_of_gap hnamed.blank h.rest
  have htable := word?_append hnamed.table hname hquote r
  have hclose (schema : Option Word) (hschema : h.schema = schema) :
      close? schema h.table (c :: r) = some h :=
    close?_eq_some_iff.mpr ⟨hschema, rfl, gap, hnamed.blank, heq.symm⟩
  unfold names?
  rw [hnamed.eq_append, heq]
  -- the name ends where the gap or the dot starts
  cases hschema : h.schema with
  | none =>
    rw [show qualifier none ++ (h.table.text ++ c :: r) = h.table.text ++ c :: r from rfl, htable,
      Option.bind_some]
    split
    · next v hv => exact absurd (List.cons.inj hv).1 hdot
    · exact hclose none hschema
  | some w =>
    have hw := word?_append (hnamed.schema w hschema) (c := '.') (by decide) (by decide)
      (h.table.text ++ c :: r)
    rw [show qualifier (some w) ++ (h.table.text ++ c :: r) =
      w.text ++ '.' :: (h.table.text ++ c :: r) by simp [qualifier], hw, Option.bind_some]
    show (word? (h.table.text ++ c :: r)).bind _ = _
    rw [htable, Option.bind_some]
    exact hclose (some w) hschema

/-- The first name is followed by a dot, or by a parenthesis with nothing but white space before
it. -/
theorem exists_first_word (hnamed : h.IsNamed t gap) : ∃ w : Word, ∃ c r, w.IsProper ∧
    t = w.text ++ c :: r ∧ isNameChar c = false ∧ c ≠ '"' ∧
      (c = '.' ∨ (c :: r).dropWhile isBlank = '(' :: h.rest) := by
  rw [hnamed.eq_append]
  cases hschema : h.schema with
  | none =>
    obtain ⟨c, r, heq, hname, hquote, -⟩ := exists_cons_of_gap hnamed.blank h.rest
    refine ⟨h.table, c, r, hnamed.table, by rw [heq]; rfl, hname, hquote, .inr ?_⟩
    rw [← heq, List.dropWhile_append_of_pos hnamed.blank, List.dropWhile_cons_of_neg (by decide)]
  | some w =>
    refine ⟨w, '.', h.table.text ++ (gap ++ '(' :: h.rest), hnamed.schema w hschema, ?_, by decide,
      by decide, .inl rfl⟩
    simp [qualifier]

/-- **No name that opens a header can be taken for the condition**: after the letters of `IF` the
condition has white space and then another keyword, but a name has a dot, or a parenthesis with
nothing but white space before it. -/
theorem ifNotExists?_eq_none (hnamed : h.IsNamed t gap) : ifNotExists? t = none := by
  obtain ⟨w, c, s, hw, rfl, hc, hquote, hnext⟩ := exists_first_word hnamed
  rw [ifNotExists?_eq, Option.eq_none_iff_forall_not_mem]
  intro r hr
  obtain ⟨p, hp, heq, -⟩ := exists_of_phrase? hr
  obtain ⟨word, blanks, q, hif, hblanks, hq, rfl⟩ := exists_of_phrase_cons hp
  obtain ⟨word', blanks', q', hnot, -, -, rfl⟩ := exists_of_phrase_cons hq
  obtain ⟨b, bs, rfl⟩ := List.exists_cons_of_ne_nil hblanks.ne_nil
  have hb : isBlank b = true := hblanks.blank b List.mem_cons_self
  obtain ⟨hname, hquote'⟩ := not_isNameChar_of_isBlank hb
  -- the text is read in two ways, so white space follows the name, and then a keyword
  have hread := word?_append hw hc hquote s
  have hword := word?_append (isProper_bare_of_spells (by decide) hif) hname hquote'
    (bs ++ (word' ++ (blanks' ++ (q' ++ r))))
  rw [Word.text_bare] at hword
  simp only [heq, List.append_assoc, List.cons_append] at hread
  obtain ⟨-, hrest⟩ := Prod.mk.inj (Option.some.inj (hread.symm.trans hword))
  rcases hnext with rfl | hclose
  · rw [← (List.cons.inj hrest).1] at hb
    exact absurd hb (by decide)
  · have hproper := isProper_bare_of_spells (by decide) hnot
    have hfirm := hproper.isFirm (blanks' ++ (q' ++ r))
    rw [Word.text_bare] at hfirm
    rw [hrest, ← List.cons_append, List.dropWhile_append_of_pos hblanks.blank, hfirm] at hclose
    obtain ⟨d, ds, rfl⟩ := List.exists_cons_of_ne_nil hproper.ne_nil
    have hd := hproper.chars d List.mem_cons_self
    rw [(List.cons.inj hclose).1] at hd
    exact absurd hd (by decide)

theorem isFirm_of_isNamed (hnamed : h.IsNamed t gap) : IsFirm t := by
  obtain ⟨w, c, s, hw, rfl, -⟩ := exists_first_word hnamed
  exact hw.isFirm (c :: s)

end Named

/-- **The reader finds what the grammar allows**, and nothing else. -/
theorem read?_eq_some_iff {t : Text} {h : Header} : read? t = some h ↔ h.Opens t := by
  rw [read?_eq]
  constructor
  · intro hread
    obtain ⟨u, hopening, hnames⟩ := Option.bind_eq_some_iff.mp hread
    rw [opening?_eq] at hopening
    obtain ⟨opening, hphrase, rfl, -⟩ := exists_of_phrase? hopening
    obtain ⟨gap, hnamed⟩ := exists_of_names? hnames
    -- the condition is read as far as it is there
    cases hcondition : ifNotExists? u with
    | none =>
      rw [hcondition, Option.getD_none] at hnamed
      exact ⟨opening, [], u, gap, hphrase, .inl rfl, hnamed, rfl⟩
    | some v =>
      rw [hcondition, Option.getD_some] at hnamed
      rw [ifNotExists?_eq] at hcondition
      obtain ⟨condition, hconditional, rfl, -⟩ := exists_of_phrase? hcondition
      exact ⟨opening, condition, v, gap, hphrase, .inr hconditional, hnamed, rfl⟩
  · rintro ⟨opening, condition, names, gap, hphrase, hconditional, hnamed, rfl⟩
    have hfirm := isFirm_of_isNamed hnamed
    rcases hconditional with rfl | hconditional
    · rw [List.nil_append, opening?_eq, phrase?_append (by decide) hphrase hfirm, Option.bind_some,
        ifNotExists?_eq_none hnamed, Option.getD_none, names?_of_isNamed hnamed]
    · have hcondition : ifNotExists? (condition ++ names) = some names := by
        rw [ifNotExists?_eq, phrase?_append (by decide) hconditional hfirm]
      rw [opening?_eq, phrase?_append (by decide) hphrase
        (isFirm_phrase_append (by decide) hconditional hfirm), Option.bind_some, hcondition,
        Option.getD_some, names?_of_isNamed hnamed]

/-! ### The characters of a header -/

/-- The characters that a header may hold before its parenthesis. -/
def IsHeaderChar (c : Char) : Prop := isNameChar c = true ∨ isBlank c = true ∨ c = '"' ∨ c = '.'

instance (c : Char) : Decidable (IsHeaderChar c) := by
  unfold IsHeaderChar
  infer_instance

theorem isHeaderChar_of_mem_phrase {keywords : List Text} (hcapital : AreCapital keywords)
    {p : Text} (hp : Phrase keywords p) : ∀ c ∈ p, IsHeaderChar c := by
  induction hp with
  | nil => exact fun c hc => absurd hc List.not_mem_nil
  | cons hword hgap _ ih =>
    intro c hc
    rcases List.mem_append.mp hc with hc | hc
    · have hproper := isProper_bare_of_spells (hcapital _ List.mem_cons_self) hword
      exact .inl (hproper.chars c hc)
    · rcases List.mem_append.mp hc with hc | hc
      · exact .inr (.inl (hgap.blank c hc))
      · exact ih (fun k hk => hcapital k (List.mem_cons_of_mem _ hk)) c hc

theorem Word.IsProper.isHeaderChar {w : Word} (hw : w.IsProper) : ∀ c ∈ w.text, IsHeaderChar c := by
  have hquote (b : Bool) : ∀ c ∈ if b then ['"'] else [], IsHeaderChar c := by
    intro c hc
    cases b with
    | true => exact .inr (.inr (.inl (List.mem_singleton.mp hc)))
    | false => exact absurd hc List.not_mem_nil
  intro c hc
  unfold Word.text at hc
  rcases List.mem_append.mp hc with hc | hc
  · exact hquote w.opened c hc
  · rcases List.mem_append.mp hc with hc | hc
    · exact .inl (hw.chars c hc)
    · exact hquote w.closed c hc

/-- What comes before the parenthesis of a header holds no other one.  There is some white space for
each of the first two keywords. -/
theorem Opens.exists_eq_append {h : Header} {t : Text} (ht : h.Opens t) :
    ∃ before, t = before ++ '(' :: h.rest ∧ (∀ c ∈ before, IsHeaderChar c) ∧
      2 ≤ before.countP isBlank := by
  obtain ⟨opening, condition, names, gap, hphrase, hconditional, hnamed, rfl⟩ := ht
  refine ⟨opening ++ (condition ++ (qualifier h.schema ++ (h.table.text ++ gap))), ?_, ?_, ?_⟩
  · rw [hnamed.eq_append]
    simp only [List.append_assoc]
  · intro c hc
    simp only [List.mem_append] at hc
    rcases hc with hc | hc | hc | hc | hc
    · exact isHeaderChar_of_mem_phrase (by decide) hphrase c hc
    · rcases hconditional with rfl | hconditional
      · exact absurd hc List.not_mem_nil
      · exact isHeaderChar_of_mem_phrase (by decide) hconditional c hc
    · cases hschema : h.schema with
      | none =>
        rw [hschema] at hc
        exact absurd hc List.not_mem_nil
      | some w =>
        rw [hschema] at hc
        rcases List.mem_append.mp hc with hc | hc
        · exact (hnamed.schema w hschema).isHeaderChar c hc
        · exact .inr (.inr (.inr (List.mem_singleton.mp hc)))
    · exact hnamed.table.isHeaderChar c hc
    · exact .inr (.inl (hnamed.blank c hc))
  -- there is a gap after each of the two keywords
  · have hkeywords : 2 ≤ opening.countP isBlank := hphrase.length_le_countP
    rw [List.countP_append]
    omega

/-! ### The first header of a text -/

/-- No header stands anywhere in the text. -/
def OccursNowhereIn (t : Text) : Prop := ∀ u, u <:+ t → ∀ h : Header, ¬ h.Opens u

/-- The header stands somewhere in the text, and none stands before it. -/
def IsFirstIn (h : Header) (t : Text) : Prop :=
  ∃ u, u <:+ t ∧ h.Opens u ∧ ∀ v, v <:+ t → u.length < v.length → ∀ h' : Header, ¬ h'.Opens v

theorem isFirstIn_of_opens {h : Header} {t : Text} (ht : h.Opens t) : h.IsFirstIn t := by
  refine ⟨t, List.suffix_rfl, ht, fun v hv hlt => ?_⟩
  exact absurd hv.length_le (Nat.not_le_of_lt hlt)

theorem read?_eq_none_iff {t : Text} : read? t = none ↔ ∀ h : Header, ¬ h.Opens t := by
  rw [Option.eq_none_iff_forall_ne_some]
  exact forall_congr' fun h => not_congr read?_eq_some_iff

/-- The header that is found is the first one. -/
theorem find?_eq_some_iff {t : Text} {h : Header} : find? t = some h ↔ h.IsFirstIn t := by
  induction t with
  | nil =>
    refine ⟨fun hfind => absurd hfind (by simp [find?]), ?_⟩
    rintro ⟨u, hu, hopens, -⟩
    obtain rfl := List.suffix_nil.mp hu
    exact absurd (read?_eq_some_iff.mpr hopens) (by simp [read?, opening?, keyword?])
  | cons c t ih =>
    rw [find?, Option.or_eq_some_iff]
    constructor
    · rintro (hread | ⟨hread, hfind⟩)
      · exact isFirstIn_of_opens (read?_eq_some_iff.mp hread)
      · obtain ⟨u, hu, hopens, hfirst⟩ := ih.mp hfind
        refine ⟨u, hu.trans (List.suffix_cons c t), hopens, fun v hv hlt => ?_⟩
        rcases List.suffix_cons_iff.mp hv with rfl | hv
        · exact read?_eq_none_iff.mp hread
        · exact hfirst v hv hlt
    · rintro ⟨u, hu, hopens, hfirst⟩
      rcases List.suffix_cons_iff.mp hu with rfl | hu
      · exact .inl (read?_eq_some_iff.mpr hopens)
      -- the first header is further on, so there is none here
      · refine .inr ⟨read?_eq_none_iff.mpr ?_, ih.mpr ⟨u, hu, hopens, fun v hv => ?_⟩⟩
        · exact hfirst (c :: t) List.suffix_rfl (Nat.lt_succ_of_le hu.length_le)
        · exact hfirst v (hv.trans (List.suffix_cons c t))

/-- Nothing is found exactly if there is no header. -/
theorem find?_eq_none_iff {t : Text} : find? t = none ↔ OccursNowhereIn t := by
  induction t with
  | nil =>
    refine ⟨fun _ u hu => ?_, fun _ => rfl⟩
    obtain rfl := List.suffix_nil.mp hu
    exact read?_eq_none_iff.mp rfl
  | cons c t ih =>
    rw [find?, Option.or_eq_none_iff, ih, read?_eq_none_iff]
    constructor
    · rintro ⟨hhere, hlater⟩ u hu
      rcases List.suffix_cons_iff.mp hu with rfl | hu
      · exact hhere
      · exact hlater u hu
    · intro hnowhere
      exact ⟨hnowhere _ List.suffix_rfl,
        fun u hu => hnowhere u (hu.trans (List.suffix_cons c t))⟩

end Header

end SchemaIntake
