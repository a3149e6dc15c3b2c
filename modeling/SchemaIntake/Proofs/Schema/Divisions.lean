import SchemaIntake.Proofs.Ddl.LetterCase
import SchemaIntake.Proofs.Schema.Coverage

/-!
# Texts divided into statements

A text is divided into its statements and the gaps around them.  What a statement is, and what a gap
may hold, can be said without the reader: a statement starts with `CREATE TABLE` and ends with its
only semicolon; no gap before a statement holds a position where `CREATE TABLE` can be read, and in
the gap at the end no semicolon follows one.  There is exactly one such division, and the statements
that are found are those of it.

## Main definitions

* `Header.HasOpening t` — `t` starts with `CREATE TABLE` in any case, with white space after each
  word.
* `Statement.Division` — a text as statements and gaps.
* `Statement.Division.IsExact` — the gaps hold no statements.

## Main results

* `Header.opens_iff_hasOpening` — where a statement opens.
* `Statement.all_text` — an exact division has the statements of its text.
* `Statement.exists_division` — **every text has an exact division**.
* `Statement.all_append_of_ends` — a text goes on after a semicolon as if it started there.
* `Statement.all_eq_iff_exists_division` — **the statements of a text**.
-/

namespace SchemaIntake

open Text

/-! ### Openings -/

namespace Header

/-- The text starts with `CREATE` and `TABLE`, in any case, and white space after each of them. -/
def HasOpening (t : Text) : Prop :=
  ∃ create gap table gap' rest, sameLetters create "CREATE".toList = true ∧ IsGap gap ∧
    sameLetters table "TABLE".toList = true ∧ IsGap gap' ∧
      t = create ++ (gap ++ (table ++ (gap' ++ rest)))

/-- The capital letters that nothing else folds to: all but `K` and `S`. -/
def isPlainCapital (letter : Char) : Bool := letter.isUpper && letter != 'K' && letter != 'S'

/-- Such a letter is spelled in its two cases only. -/
theorem folds_iff {letter c : Char} (h : isPlainCapital letter = true) :
    folds letter c = true ↔ c.toLower = letter.toLower := by
  simp only [isPlainCapital, Bool.and_eq_true, bne_iff_ne] at h
  obtain ⟨⟨hletter, hk⟩, hs⟩ := h
  constructor
  · intro h
    simp only [folds, Bool.or_eq_true, Bool.and_eq_true, beq_iff_eq] at h
    rcases h with ((rfl | rfl) | ⟨rfl, -⟩) | ⟨rfl, -⟩
    · rfl
    · exact caseless_toLower letter
    · exact absurd rfl hs
    · exact absurd rfl hk
  · intro h
    rw [← caseless_folds hletter c, h, caseless_folds hletter, folds_self]

/-- So a keyword of such letters is spelled in any case, and not otherwise. -/
theorem spells_iff_sameLetters {keyword word : Text} (h : keyword.all isPlainCapital = true) :
    Spells keyword word ↔ sameLetters word keyword = true := by
  unfold Spells
  rw [sameLetters_iff]
  induction keyword generalizing word with
  | nil => cases word <;> simp
  | cons letter keyword ih =>
    rw [List.all_cons, Bool.and_eq_true] at h
    cases word with
    | nil => simp
    | cons c word =>
      rw [List.forall₂_cons, folds_iff h.1, ih h.2, uncased_cons, uncased_cons, List.cons_eq_cons]

/-- **Where a statement opens.** -/
theorem opens_iff_hasOpening (t : Text) : Statement.opens t = true ↔ HasOpening t := by
  have hcreate (word : Text) : Spells "CREATE".toList word ↔
      sameLetters word "CREATE".toList = true := spells_iff_sameLetters (by decide)
  have htable (word : Text) : Spells "TABLE".toList word ↔
      sameLetters word "TABLE".toList = true := spells_iff_sameLetters (by decide)
  unfold Statement.opens
  rw [opening?_eq, isSome_phrase?_iff (by decide) (by decide)]
  -- a phrase of two keywords is a word and a gap, twice
  constructor
  · rintro ⟨p, rest, hp, rfl⟩
    obtain ⟨create, gap, q, hword, hgap, hq, rfl⟩ := exists_of_phrase_cons hp
    obtain ⟨table, gap', r, hword', hgap', hr, rfl⟩ := exists_of_phrase_cons hq
    cases hr
    refine ⟨create, gap, table, gap', rest, (hcreate _).mp hword, hgap, (htable _).mp hword',
      hgap', ?_⟩
    simp only [List.append_assoc, List.nil_append]
  · rintro ⟨create, gap, table, gap', rest, hword, hgap, hword', hgap', rfl⟩
    refine ⟨_, rest, .cons ((hcreate _).mpr hword) hgap
      (.cons ((htable _).mpr hword') hgap' .nil), ?_⟩
    simp only [List.append_assoc, List.nil_append]

/-- What follows does not matter for an opening. -/
theorem HasOpening.append {t : Text} (h : HasOpening t) (u : Text) : HasOpening (t ++ u) := by
  obtain ⟨create, gap, table, gap', rest, hword, hgap, hword', hgap', rfl⟩ := h
  refine ⟨create, gap, table, gap', rest ++ u, hword, hgap, hword', hgap', ?_⟩
  simp only [List.append_assoc]

end Header

namespace Statement

/-! ### Divisions -/

/-- A text as statements, each with the gap before it, and the gap at the end. -/
inductive Division
  | last (gap : Text)
  | more (gap statement : Text) (rest : Division)

namespace Division

def text : Division → Text
  | last gap => gap
  | more gap statement rest => gap ++ (statement ++ rest.text)

def statements : Division → List Text
  | last _ => []
  | more _ statement rest => statement :: rest.statements

/-- What is called a statement is one, and the gaps hold none.  A position inside a gap is given by
what is left of the gap; what can be read there is what is left of the text. -/
def IsExact : Division → Prop
  | last gap => ∀ v, v <:+ gap → Header.HasOpening v → ';' ∉ v
  | more gap statement rest =>
    Header.HasOpening statement ∧ (∃ w, statement = w ++ [';'] ∧ ';' ∉ w) ∧
      (∀ v, v <:+ gap → v ≠ [] → ¬ Header.HasOpening (v ++ (statement ++ rest.text))) ∧ rest.IsExact

/-- One more character before the first gap. -/
def cons (c : Char) : Division → Division
  | last gap => last (c :: gap)
  | more gap statement rest => more (c :: gap) statement rest

@[simp] theorem text_cons (c : Char) (d : Division) : (d.cons c).text = c :: d.text := by
  cases d <;> rfl

/-- A character belongs to the gap if nothing opens there. -/
theorem IsExact.cons {d : Division} (h : d.IsExact) {c : Char}
    (hopening : ¬ Header.HasOpening (c :: d.text)) : (d.cons c).IsExact := by
  cases d with
  | last gap =>
    intro v hv hopens
    rcases List.suffix_cons_iff.mp hv with rfl | hv
    · exact absurd hopens hopening
    · exact h v hv hopens
  | more gap statement rest =>
    obtain ⟨hopens, hends, hgap, hrest⟩ := h
    refine ⟨hopens, hends, fun v hv hne => ?_, hrest⟩
    rcases List.suffix_cons_iff.mp hv with rfl | hv
    · exact hopening
    · exact hgap v hv hne

end Division

/-! ### The statements of a division -/

/-- A gap is passed over. -/
theorem all_gap_append {gap t : Text}
    (h : ∀ v, v <:+ gap → v ≠ [] → ¬ Header.HasOpening (v ++ t)) : all (gap ++ t) = all t := by
  induction gap with
  | nil => rfl
  | cons c gap ih =>
    have hopens : opens (c :: (gap ++ t)) = false := by
      rw [Bool.eq_false_iff, Ne, Header.opens_iff_hasOpening]
      exact h (c :: gap) List.suffix_rfl (List.cons_ne_nil c gap)
    rw [List.cons_append, all_cons_of_not_opens hopens]
    exact ih fun v hv => h v (hv.trans (List.suffix_cons c gap))

/-- **An exact division has the statements of its text.** -/
theorem all_text {d : Division} (h : d.IsExact) : all d.text = d.statements := by
  induction d with
  | last gap =>
    refine List.eq_nil_iff_forall_not_mem.mpr fun s hs => ?_
    obtain ⟨before, w, after, hgap, -, -, hopens⟩ := exists_of_mem_all hs
    have hsuffix : w ++ ';' :: after <:+ gap := ⟨before, hgap.symm⟩
    refine h _ hsuffix ((Header.opens_iff_hasOpening _).mp hopens) ?_
    simp
  | more gap statement rest ih =>
    obtain ⟨hopening, ⟨w, rfl, hw⟩, hgap, hrest⟩ := h
    have hopens := (Header.opens_iff_hasOpening _).mpr (hopening.append rest.text)
    rw [List.append_assoc, List.singleton_append] at hopens
    show all (gap ++ (w ++ [';'] ++ rest.text)) = (w ++ [';']) :: rest.statements
    rw [all_gap_append hgap, List.append_assoc, List.singleton_append, all_append hopens hw,
      ih hrest]

/-- **Every text has an exact division.** -/
theorem exists_division (sql : Text) : ∃ d : Division, d.text = sql ∧ d.IsExact := by
  fun_induction all sql with
  | case1 =>
    refine ⟨.last [], rfl, fun v hv _ => ?_⟩
    obtain rfl := List.suffix_nil.mp hv
    exact List.not_mem_nil
  | case2 c rest hopens statement after hs ih =>
    -- a statement is read, with no gap before it
    obtain ⟨d, rfl, hd⟩ := ih
    have hwhole := append_of_throughFirst? hs
    obtain ⟨w, rfl, hw⟩ := throughFirst?_eq_some hs
    rw [← hwhole, List.append_assoc, List.singleton_append, opens_append hw,
      Header.opens_iff_hasOpening] at hopens
    refine ⟨.more [] (w ++ [';']) d, hwhole, hopens, ⟨w, rfl, hw⟩, fun v hv hne => ?_, hd⟩
    exact absurd (List.suffix_nil.mp hv) hne
  | case3 c rest hopens hnone =>
    -- no semicolon is left, so everything is gap
    refine ⟨.last (c :: rest), rfl, fun v hv _ hmem => ?_⟩
    obtain ⟨w, after, heq, hw⟩ := List.eq_append_cons_of_mem (hv.subset hmem)
    rw [heq, throughFirst?_append hw] at hnone
    exact absurd hnone (by simp)
  | case4 c rest hopens ih =>
    obtain ⟨d, rfl, hd⟩ := ih
    refine ⟨d.cons c, d.text_cons c, hd.cons ?_⟩
    rwa [← Header.opens_iff_hasOpening]

/-! ### Texts one after the other -/

/-- **A text goes on after a semicolon as if it started there.** -/
theorem all_append_of_ends (a b : Text) : all (a ++ ';' :: b) = all (a ++ [';']) ++ all b := by
  obtain ⟨before, x, heq, hx, -, hbefore, hall⟩ := exists_scan (a ++ [';']) b
  -- what has not ended would end with the semicolon
  have hnil : x = [] := by
    cases hlast : x.getLast? with
    | none => exact List.getLast?_eq_none_iff.mp hlast
    | some c =>
      obtain ⟨y, rfl⟩ := List.getLast?_eq_some_iff.mp hlast
      rw [← List.append_assoc] at heq
      obtain ⟨-, hc⟩ := List.append_inj' heq rfl
      rw [← (List.cons.inj hc).1] at hx
      exact absurd (List.mem_append_right y List.mem_cons_self) hx
  rw [hnil, List.nil_append] at hall
  rw [List.append_cons, hall, hbefore]

/-- A text holds a statement if `CREATE TABLE` can be read somewhere before a semicolon. -/
theorem occursIn_iff (sql : Text) :
    occursIn sql = true ↔ ∃ u, u <:+ sql ∧ Header.HasOpening u ∧ ';' ∈ u := by
  have hoccurs : occursIn sql = true ↔ all sql ≠ [] := by
    simp [occursIn]
  rw [hoccurs]
  constructor
  · intro hne
    obtain ⟨s, hs⟩ := List.exists_mem_of_ne_nil _ hne
    obtain ⟨before, w, after, rfl, -, -, hopens⟩ := exists_of_mem_all hs
    exact ⟨w ++ ';' :: after, List.suffix_append before _,
      (Header.opens_iff_hasOpening _).mp hopens, by simp⟩
  · rintro ⟨u, ⟨before, rfl⟩, hopening, hmem⟩
    have hopens := (Header.opens_iff_hasOpening u).mpr hopening
    have hinside : LiesInside before u := (liesInside_iff hopens).mpr hmem
    obtain ⟨a, x, y, b, -, -, -, hall⟩ := hinside
    simp [hall]

/-- **The statements of a text** are those of its one exact division: `CREATE TABLE` starts each of
them and a semicolon ends it, none starts in a gap before a statement, and in the gap at the end no
semicolon follows one.  There is a statement if `CREATE TABLE` can be read somewhere before a
semicolon.  Behind a semicolon the text is read as if it started there. -/
theorem all_eq_iff_exists_division (sql : Text) :
    (∀ ss, all sql = ss ↔ ∃ d : Division, d.text = sql ∧ d.statements = ss ∧ d.IsExact) ∧
    (occursIn sql = true ↔ 0 < (all sql).length) ∧
    (occursIn sql = true ↔ ∃ u, u <:+ sql ∧ Header.HasOpening u ∧ ';' ∈ u) ∧
    ∀ b, all (sql ++ ';' :: b) = all (sql ++ [';']) ++ all b := by
  refine ⟨fun ss => ?_, ?_, occursIn_iff sql, all_append_of_ends sql⟩
  · constructor
    · rintro rfl
      obtain ⟨d, rfl, hd⟩ := exists_division sql
      exact ⟨d, rfl, (all_text hd).symm, hd⟩
    · rintro ⟨d, rfl, rfl, hd⟩
      exact all_text hd
  · rw [List.length_pos_iff]
    simp [occursIn]

end Statement

end SchemaIntake
