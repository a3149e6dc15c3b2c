import SchemaIntake.Proofs.Ddl.Headers
import SchemaIntake.Proofs.Ddl.QuotedNames

/-!
# Quotes that are not paired

The quotes around the name of a column are taken off on each side, however many there are; those in
a header are read on each side, whether or not there is one on the other.  So a name that is found
need not have been written with its quotes in pairs.  Here it is said which spellings a name may
have, and which of them are the paired ones.

## Main definitions

* `Identifier.quotedBy before name after` — a name with so many quotes on each side.
* `Identifier.IsPaired t name` — the name as it is, or in one pair of quotes.
* `Header.requoted h schema table` — a header with other quotes.

## Main results

* `ColumnDefinition.read_quotedBy` — any number of quotes on any side makes no difference.
* `Header.Opens.exists_requoted` — nor does any choice of quotes in a header.
* `paired_quotes_iff` — **which spellings are accepted, and which of them are paired.**
-/

namespace SchemaIntake

open Text

/-! ### Quotes on both sides -/

namespace Identifier

/-- A name with so many double quotes before it and after it. -/
def quotedBy (before : Nat) (name : Text) (after : Nat) : Text :=
  List.replicate before '"' ++ (name ++ List.replicate after '"')

/-- The text is the name, or the name in one pair of double quotes. -/
def IsPaired (t name : Text) : Prop := t = name ∨ t = inQuotes name

instance (t name : Text) : Decidable (IsPaired t name) := by
  unfold IsPaired
  infer_instance

/-- A text is what is left of it without its quotes, with those quotes. -/
theorem exists_quotedBy (t : Text) : ∃ before after, t = quotedBy before (unquote t) after := by
  have hrun (u : Text) : u.takeWhile (· == '"') =
      List.replicate (u.takeWhile (· == '"')).length '"' := by
    refine List.eq_replicate_iff.mpr ⟨rfl, fun c hc => ?_⟩
    exact eq_of_beq (List.mem_takeWhile_imp (p := (· == '"')) hc)
  let u := t.dropWhile (· == '"')
  have hend : u = unquote t ++ (u.reverse.takeWhile (· == '"')).reverse := by
    rw [unquote, ← List.reverse_append, List.takeWhile_append_dropWhile, List.reverse_reverse]
  refine ⟨(t.takeWhile (· == '"')).length, (u.reverse.takeWhile (· == '"')).length, ?_⟩
  rw [quotedBy, ← hrun, ← List.reverse_replicate, ← hrun, ← hend, List.takeWhile_append_dropWhile]

section Quotes

variable {name : Text} {before after : Nat}

/-- The quotes before a name end with it. -/
theorem takeWhile_quotedBy (hne : name ≠ []) (hquote : '"' ∉ name) :
    (quotedBy before name after).takeWhile (· == '"') = List.replicate before '"' := by
  obtain ⟨c, u, rfl⟩ := List.exists_cons_of_ne_nil hne
  have hc : ¬ (c == '"') = true := by
    intro hc
    rw [eq_of_beq hc] at hquote
    exact hquote List.mem_cons_self
  have hquotes : ∀ c ∈ List.replicate before '"', (c == '"') = true := by
    intro c hc
    rw [List.eq_of_mem_replicate hc]
    rfl
  rw [quotedBy, List.takeWhile_append_of_pos hquotes, List.cons_append,
    List.takeWhile_cons_of_neg (p := (· == '"')) hc, List.append_nil]

/-- The quotes on each side can be told from the whole. -/
theorem quotedBy_inj (hne : name ≠ []) (hquote : '"' ∉ name) {before' after' : Nat} :
    quotedBy before name after = quotedBy before' name after' ↔
      before = before' ∧ after = after' := by
  constructor
  · intro h
    have hbefore := congrArg (fun t => (t.takeWhile (· == '"')).length) h
    simp only [takeWhile_quotedBy hne hquote, List.length_replicate] at hbefore
    have hlength := congrArg List.length h
    simp only [quotedBy, List.length_append, List.length_replicate] at hlength
    omega
  · rintro ⟨rfl, rfl⟩
    rfl

theorem isPaired_quotedBy_iff (hne : name ≠ []) (hquote : '"' ∉ name) :
    IsPaired (quotedBy before name after) name ↔ before = after ∧ before ≤ 1 := by
  have hbare : quotedBy 0 name 0 = name := List.append_nil name
  have hpair : quotedBy 1 name 1 = inQuotes name := rfl
  have hnone : quotedBy before name after = quotedBy 0 name 0 ↔ before = 0 ∧ after = 0 :=
    quotedBy_inj hne hquote
  have hone : quotedBy before name after = quotedBy 1 name 1 ↔ before = 1 ∧ after = 1 :=
    quotedBy_inj hne hquote
  rw [IsPaired, ← hpair, hone]
  rw [hbare] at hnone
  rw [hnone]
  omega

theorem unquote_quotedBy (h : isValid name = true) : unquote (quotedBy before name after) = name :=
  unquote_append h (fun _ => List.eq_of_mem_replicate) fun _ => List.eq_of_mem_replicate

theorem isBareWord_quotedBy (h : isValid name = true) :
    IsBareWord (quotedBy before name after) where
  ne_nil := by
    intro hnil
    have hname := (List.append_eq_nil_iff.mp (List.append_eq_nil_iff.mp hnil).2).1
    exact (isBareWord h).ne_nil hname
  plain := by
    intro c hc
    simp only [quotedBy, List.mem_append] at hc
    rcases hc with hc | hc | hc
    · rw [List.eq_of_mem_replicate hc]
      decide
    · exact (isBareWord h).plain c hc
    · rw [List.eq_of_mem_replicate hc]
      decide

end Quotes

end Identifier

open Identifier

/-! ### Columns -/

namespace ColumnDefinition

/-- **Any number of quotes on any side of the name** makes no difference to a column. -/
theorem read_quotedBy {name : Text} (h : isValid name = true) (before after : Nat) (rest : Text) :
    read (quotedBy before name after ++ ' ' :: rest) = read (name ++ ' ' :: rest) := by
  rw [read, (isBareWord_quotedBy h).tokens_append, read, (isBareWord h).tokens_append]
  refine ofTokens_congr ?_ _
  rw [unquote_quotedBy h, unquote_of_isValid h]

/-- The first token of a column is its name, with quotes. -/
theorem exists_quotedBy_of_read {element : Text} {column : ColumnDefinition}
    (h : read element = .ok column) : isValid column.name = true ∧
      ∃ before after rest, tokens element = quotedBy before column.name after :: rest := by
  obtain ⟨first, rest, htokens, -, -, hname, hvalid, -⟩ := exists_of_read h
  obtain ⟨before, after, hfirst⟩ := exists_quotedBy first
  exact ⟨hvalid, before, after, rest, by rw [htokens, hname, ← hfirst]⟩

end ColumnDefinition

/-! ### Headers -/

namespace Header

def words (h : Header) : List Word := h.schema.toList ++ [h.table]

/-- The header with other quotes: whether there is one before and after each of its names. -/
def requoted (h : Header) (schema table : Bool × Bool) : Header where
  schema := h.schema.map fun w => ⟨schema.1, w.name, schema.2⟩
  table := ⟨table.1, h.table.name, table.2⟩
  rest := h.rest

theorem Word.text_eq (w : Word) : w.text = quotedBy w.opened.toNat w.name w.closed.toNat := by
  obtain ⟨opened, name, closed⟩ := w
  cases opened <;> cases closed <;> rfl

theorem Word.IsProper.isPaired_iff {w : Word} (hw : w.IsProper) :
    IsPaired w.text w.name ↔ w.opened = w.closed := by
  have hquote : '"' ∉ w.name := fun hmem => absurd (hw.chars '"' hmem) (by decide)
  rw [w.text_eq, isPaired_quotedBy_iff hw.ne_nil hquote]
  cases w.opened <;> cases w.closed <;> decide

/-- Only the quotes of a word are lost with them. -/
theorem Word.filter_text {w w' : Word} (h : w.name = w'.name) :
    w.text.filter (· != '"') = w'.text.filter (· != '"') := by
  have hquotes (b : Bool) : (if b then ['"'] else ([] : Text)).filter (· != '"') = [] := by
    cases b <;> rfl
  unfold Word.text
  simp only [List.filter_append, hquotes, h]

theorem isProper_of_mem_words {h : Header} {t gap : Text} (hnamed : h.IsNamed t gap) :
    ∀ w ∈ h.words, w.IsProper := by
  intro w hw
  rcases List.mem_append.mp hw with hw | hw
  · exact hnamed.schema w (Option.mem_toList.mp hw)
  · rw [List.mem_singleton.mp hw]
    exact hnamed.table

/-- **Any choice of quotes in a header is read**, and nothing but the quotes is lost. -/
theorem Opens.exists_requoted {h : Header} {t : Text} (ht : h.Opens t)
    (schema table : Bool × Bool) :
    ∃ before before', t = before ++ '(' :: h.rest ∧
      (h.requoted schema table).Opens (before' ++ '(' :: h.rest) ∧
      before'.filter (· != '"') = before.filter (· != '"') := by
  obtain ⟨opening, condition, names, gap, hphrase, hconditional, hnamed, rfl⟩ := ht
  let h' := h.requoted schema table
  have hnamed' :
      h'.IsNamed (qualifier h'.schema ++ (h'.table.text ++ (gap ++ '(' :: h.rest))) gap := by
    refine ⟨fun w hw => ?_, ⟨hnamed.table.ne_nil, hnamed.table.chars⟩, hnamed.blank, rfl⟩
    obtain ⟨u, hu, rfl⟩ := Option.map_eq_some_iff.mp hw
    exact ⟨(hnamed.schema u hu).ne_nil, (hnamed.schema u hu).chars⟩
  -- the names themselves have no quotes, so only those around them differ
  have hqualifier : (qualifier h'.schema).filter (· != '"') =
      (qualifier h.schema).filter (· != '"') := by
    cases hschema : h.schema with
    | none => rw [show h'.schema = none by simp [h', requoted, hschema]]
    | some w =>
      rw [show h'.schema = some ⟨schema.1, w.name, schema.2⟩ by simp [h', requoted, hschema]]
      have hword : (Word.mk schema.1 w.name schema.2).text.filter (· != '"') =
          w.text.filter (· != '"') := Word.filter_text rfl
      simp only [qualifier, Option.elim_some, List.filter_append, hword]
  have htable : h'.table.text.filter (· != '"') = h.table.text.filter (· != '"') :=
    Word.filter_text rfl
  refine ⟨opening ++ (condition ++ (qualifier h.schema ++ (h.table.text ++ gap))),
    opening ++ (condition ++ (qualifier h'.schema ++ (h'.table.text ++ gap))), ?_, ?_, ?_⟩
  · rw [hnamed.eq_append]
    simp only [List.append_assoc]
  · refine ⟨opening, condition, _, gap, hphrase, hconditional, hnamed', ?_⟩
    simp only [List.append_assoc]
  · simp only [List.filter_append, hqualifier, htable]

end Header

/-! ### Which spellings are paired -/

/-- **Which spellings are accepted, and which of them are paired.**  The first token of a column is
its name with some number of quotes on each side, and any numbers are read alike; paired are those
with no quote, or with one on each side.  A name in a header may have a quote on each side or not,
and any choice is read alike; paired are those with both or with none. -/
theorem paired_quotes_iff (element statement : Text) :
    (∀ column, ColumnDefinition.read element = .ok column →
      ∃ before after rest, tokens element = quotedBy before column.name after :: rest ∧
        (IsPaired (quotedBy before column.name after) column.name ↔
          before = after ∧ before ≤ 1)) ∧
    (∀ name, isValid name = true → ∀ before after rest,
      ColumnDefinition.read (quotedBy before name after ++ ' ' :: rest) =
        ColumnDefinition.read (name ++ ' ' :: rest)) ∧
    (∀ name, Statement.tableName? statement = some name →
      ∃ h : Header, h.IsFirstIn statement ∧ h.table.name = name ∧
        ∀ w ∈ h.words, (IsPaired w.text w.name ↔ w.opened = w.closed)) ∧
    (∀ h : Header, h.Opens statement → ∀ schema table,
      ∃ before before', statement = before ++ '(' :: h.rest ∧
        before'.filter (· != '"') = before.filter (· != '"') ∧
        Header.find? (before' ++ '(' :: h.rest) = some (h.requoted schema table) ∧
        Statement.tableName? (before' ++ '(' :: h.rest) = Statement.tableName? statement) := by
  refine ⟨fun column hread => ?_, fun name hname before after rest => ?_, fun name hname => ?_,
    fun h ht schema table => ?_⟩
  · obtain ⟨hvalid, before, after, rest, htokens⟩ := ColumnDefinition.exists_quotedBy_of_read hread
    exact ⟨before, after, rest, htokens,
      isPaired_quotedBy_iff (isBareWord hvalid).ne_nil (quote_not_mem hvalid)⟩
  · exact ColumnDefinition.read_quotedBy hname before after rest
  · obtain ⟨h, hfind, rfl⟩ := Option.map_eq_some_iff.mp hname
    have hfirst := Header.find?_eq_some_iff.mp hfind
    -- every word of the header is a proper name with quotes or without
    have ⟨_, _, ⟨_, _, _, _, hwritten⟩, _⟩ := hfirst
    exact ⟨h, hfirst, rfl, fun w hw =>
      (Header.isProper_of_mem_words hwritten.named w hw).isPaired_iff⟩
  · obtain ⟨before, before', heq, hopens, hquotes⟩ := ht.exists_requoted schema table
    have hfind := Header.find?_eq_some_iff.mpr (Header.isFirstIn_of_opens ht)
    have hfind' := Header.find?_eq_some_iff.mpr (Header.isFirstIn_of_opens hopens)
    refine ⟨before, before', heq, hquotes, hfind', ?_⟩
    rw [Statement.tableName?, Statement.tableName?, hfind, hfind']
    rfl

/-- A name in three quotes, which are not paired, and one in none, which are. -/
theorem paired_quotes_id :
    isValid "id".toList = true ∧
      ColumnDefinition.read "\"\"id\" INT".toList = ColumnDefinition.read "id INT".toList ∧
      ColumnDefinition.read "id INT".toList = .ok ⟨"id".toList, ⟨"INT".toList, 1⟩⟩ ∧
      (∃ before after rest, tokens "id INT".toList = quotedBy before "id".toList after :: rest ∧
        (IsPaired (quotedBy before "id".toList after) "id".toList ↔ before = after ∧ before ≤ 1)) ∧
      Statement.tableName? "CREATE TABLE a.\"t(id INT);".toList = some "t".toList ∧
      ∃ h : Header, h.IsFirstIn "CREATE TABLE a.\"t(id INT);".toList ∧
        h.table.name = "t".toList ∧
        ∀ w ∈ h.words, (IsPaired w.text w.name ↔ w.opened = w.closed) := by
  obtain ⟨hcolumn, hread, hstatement, -⟩ :=
    paired_quotes_iff "id INT".toList "CREATE TABLE a.\"t(id INT);".toList
  have hid : isValid "id".toList = true := by decide
  have hok : ColumnDefinition.read "id INT".toList = .ok ⟨"id".toList, ⟨"INT".toList, 1⟩⟩ := by
    decide +kernel
  have hname : Statement.tableName? "CREATE TABLE a.\"t(id INT);".toList = some "t".toList := by
    decide +kernel
  exact ⟨hid, hread "id".toList hid 2 1 "INT".toList, hok, hcolumn _ hok, hname,
    hstatement _ hname⟩

/-- A name with a quote on one side only is accepted, in a column and in a header. -/
theorem unpaired_quotes_accepted :
    ColumnDefinition.read "\"id INT".toList = .ok ⟨"id".toList, ⟨"INT".toList, 1⟩⟩ ∧
      tokens "\"id INT".toList = ["\"id".toList, "INT".toList] ∧
      ¬ IsPaired "\"id".toList "id".toList ∧
      Statement.tableName? "CREATE TABLE \"t (id INT);".toList = some "t".toList ∧
      (Header.find? "CREATE TABLE \"t (id INT);".toList).map Header.words =
        some [⟨true, "t".toList, false⟩] := by
  decide +kernel

end SchemaIntake
