import SchemaIntake.Ddl.Statement
import SchemaIntake.Ddl.Identifier
import SchemaIntake.Proofs.Ddl.Headers

/-!
# Statements written in the plain form

A statement that starts with a header has its name and its body from there.  Written in the plain
form, as `CREATE TABLE`, a name and a body in parentheses, it is read back as it was written,
whatever the body holds but a semicolon.

## Main definitions

* `Statement.plain name body` — the statement in the plain form.

## Main results

* `Statement.tableName?_of_opens`, `Statement.body_of_opens` — the parts of a statement that starts
  with a header.
* `Statement.tableName?_plain`, `Statement.body_plain`, `Statement.hasTrailingText_plain` — the
  parts of a plain statement.
* `Statement.exists_of_mem_all` — where a statement of a text stands.
* `Statement.all_plain_append` — a plain statement is the first one of a text that starts with it.
-/

namespace SchemaIntake

open Text

/-! ### Looking for one character -/

namespace Text

theorem throughFirst?_append {d : Char} {w : Text} (h : d ∉ w) (rest : Text) :
    throughFirst? d (w ++ d :: rest) = some (w ++ [d], rest) := by
  induction w with
  | nil => simp [throughFirst?]
  | cons c w ih =>
    have hc : c ≠ d := fun e => h (by simp [e])
    rw [List.cons_append, throughFirst?, if_neg hc, ih fun m => h (by simp [m])]
    rfl

theorem afterFirst?_append {d : Char} {w : Text} (h : d ∉ w) (rest : Text) :
    afterFirst? d (w ++ d :: rest) = some rest := by
  induction w with
  | nil => simp [afterFirst?]
  | cons c w ih =>
    have hc : c ≠ d := fun e => h (by simp [e])
    rw [List.cons_append, afterFirst?, if_neg hc, ih fun m => h (by simp [m])]

theorem afterLast?_of_not_mem {d : Char} {t : Text} (h : d ∉ t) : afterLast? d t = none := by
  induction t with
  | nil => rfl
  | cons c t ih =>
    have hc : c ≠ d := fun e => h (by simp [e])
    simp only [afterLast?, ih fun m => h (by simp [m]), if_neg hc]

theorem afterLast?_append {d : Char} {rest : Text} (h : d ∉ rest) (w : Text) :
    afterLast? d (w ++ d :: rest) = some rest := by
  induction w with
  | nil => simp [afterLast?, afterLast?_of_not_mem h]
  | cons c w ih => rw [List.cons_append, afterLast?, ih]

theorem beforeLast?_of_not_mem {d : Char} {t : Text} (h : d ∉ t) : beforeLast? d t = none := by
  induction t with
  | nil => rfl
  | cons c t ih =>
    have hc : c ≠ d := fun e => h (by simp [e])
    simp only [beforeLast?, ih fun m => h (by simp [m]), if_neg hc]

theorem beforeLast?_append {d : Char} {rest : Text} (h : d ∉ rest) (w : Text) :
    beforeLast? d (w ++ d :: rest) = some w := by
  induction w with
  | nil => simp [beforeLast?, beforeLast?_of_not_mem h]
  | cons c w ih => rw [List.cons_append, beforeLast?, ih]

/-- A character that occurs has a last occurrence. -/
theorem exists_last_of_mem {d : Char} {t : Text} (h : d ∈ t) :
    ∃ a b, t = a ++ d :: b ∧ d ∉ b := by
  obtain ⟨a, b, hab, ha⟩ := List.eq_append_cons_of_mem (List.mem_reverse.mpr h)
  refine ⟨b.reverse, a.reverse, ?_, by rwa [List.mem_reverse]⟩
  rw [← List.reverse_reverse t, hab]
  simp

theorem exists_of_beforeLast? {d : Char} {t a : Text} (h : beforeLast? d t = some a) :
    ∃ b, t = a ++ d :: b ∧ d ∉ b := by
  by_cases hmem : d ∈ t
  · obtain ⟨a', b, rfl, hb⟩ := exists_last_of_mem hmem
    rw [beforeLast?_append hb] at h
    obtain rfl := Option.some.inj h
    exact ⟨b, rfl, hb⟩
  · rw [beforeLast?_of_not_mem hmem] at h
    exact absurd h (by simp)

end Text

/-! ### Reading a plain header -/

namespace Header

theorem spells_self (keyword : Text) : Spells keyword keyword :=
  List.forall₂_same.mpr fun letter _ => folds_self letter

theorem isGap_space : IsGap [' '] := by
  refine ⟨List.cons_ne_nil _ _, fun c hc => ?_⟩
  obtain rfl := List.mem_singleton.mp hc
  decide

/-- `CREATE TABLE` with single spaces is a phrase. -/
theorem phrase_plain : Phrase openingWords "CREATE TABLE ".toList :=
  .cons (spells_self _) isGap_space (.cons (spells_self _) isGap_space .nil)

theorem opens_plain {name : Text} (hname : (Word.bare name).IsProper) (rest : Text) :
    Opens ⟨none, .bare name, rest⟩ ("CREATE TABLE ".toList ++ (name ++ ' ' :: '(' :: rest)) := by
  refine ⟨_, [], _, [' '], phrase_plain, .inl rfl, ⟨by simp, hname, isGap_space.blank, ?_⟩, rfl⟩
  show name ++ ' ' :: '(' :: rest = (Word.bare name).text ++ ' ' :: '(' :: rest
  rw [Word.text_bare]

end Header

/-! ### Statements that start with a header -/

namespace Statement

section Opens

variable {h : Header} {s : Text}

/-- The table is named by a header that the statement starts with. -/
theorem tableName?_of_opens (hs : h.Opens s) : tableName? s = some h.table.name := by
  unfold tableName?
  rw [Header.find?_eq_some_iff.mpr (Header.isFirstIn_of_opens hs)]
  rfl

/-- The first parenthesis is that of the header. -/
theorem afterFirst?_of_opens (hs : h.Opens s) : afterFirst? '(' s = some h.rest := by
  obtain ⟨before, rfl, hbefore, -⟩ := hs.exists_eq_append
  refine afterFirst?_append (fun hmem => ?_) h.rest
  exact absurd (hbefore '(' hmem) (by decide)

/-- The body starts right after the header. -/
theorem body_of_opens (hs : h.Opens s) : body s = (beforeLast? ')' h.rest).elim [] trim := by
  unfold body
  rw [afterFirst?_of_opens hs, Option.bind_some]

end Opens

end Statement

/-! ### Plain statements -/

namespace Statement

/-- The statement that defines a table of a given name and body, in its plain form. -/
def plain (name body : Text) : Text :=
  "CREATE TABLE ".toList ++ (name ++ ' ' :: '(' :: (body ++ [')', ';']))

/-- A name as it may stand in a plain statement: ASCII letters, digits and underscores. -/
structure IsPlainName (name : Text) : Prop where
  /-- The name starts with a letter or an underscore. -/
  start : ∃ c rest, name = c :: rest ∧ (isLetter c = true ∨ c = '_')
  /-- It holds letters, digits and underscores only. -/
  chars : ∀ c ∈ name, isLetter c = true ∨ isDigit c = true ∨ c = '_'
  /-- It has at most 63 characters. -/
  length_le : name.length ≤ 63

instance (name : Text) : Decidable (IsPlainName name) :=
  decidable_of_iff (name.head?.any (fun c => isLetter c || c == '_') = true ∧
      name.all (fun c => isLetter c || isDigit c || c == '_') = true ∧ name.length ≤ 63) <| by
    simp only [Option.any_eq_true, List.all_eq_true, Bool.or_eq_true, beq_iff_eq, or_assoc]
    constructor
    · rintro ⟨⟨c, hc, hstart⟩, hchars, hlength⟩
      obtain ⟨rest, rfl⟩ := List.head?_eq_some_iff.mp hc
      exact ⟨⟨c, rest, rfl, hstart⟩, hchars, hlength⟩
    · rintro ⟨⟨c, rest, rfl, hstart⟩, hchars, hlength⟩
      exact ⟨⟨c, rfl, hstart⟩, hchars, hlength⟩

variable {name body : Text}

theorem IsPlainName.ne_nil (h : IsPlainName name) : name ≠ [] := by
  obtain ⟨c, rest, rfl, -⟩ := h.start
  exact List.cons_ne_nil c rest

theorem IsPlainName.isNameChar (h : IsPlainName name) :
    ∀ c ∈ name, Header.isNameChar c = true := by
  intro c hc
  rcases h.chars c hc with hc | hc | rfl
  · simp [Header.isNameChar, hc]
  · simp [Header.isNameChar, hc]
  · decide

/-- A plain name holds none of the characters that structure a statement. -/
theorem IsPlainName.not_mem (h : IsPlainName name) {c : Char} (hc : Header.isNameChar c = false) :
    c ∉ name := by
  intro hmem
  rw [h.isNameChar c hmem] at hc
  exact absurd hc (by simp)

theorem IsPlainName.isValid (h : IsPlainName name) : Identifier.isValid name = true := by
  obtain ⟨c, rest, rfl, hstart⟩ := h.start
  have hlength := h.length_le
  have hrest : rest.all Identifier.isContinuation = true := by
    rw [List.all_eq_true]
    intro d hd
    rcases h.chars d (by simp [hd]) with hd | hd | rfl
    · simp [Identifier.isContinuation, hd]
    · simp [Identifier.isContinuation, hd]
    · decide
  have hfirst : Identifier.isStart c = true := by
    rcases hstart with hc | rfl
    · simp [Identifier.isStart, hc]
    · decide
  rw [List.length_cons] at hlength
  simp [Identifier.isValid, Identifier.maxLength, hrest, hfirst, Nat.lt_of_succ_le hlength]

theorem plain_eq (name body : Text) : plain name body =
    "CREATE TABLE ".toList ++ (name ++ ' ' :: '(' :: (body ++ [')', ';'])) := rfl

/-- A plain statement starts with its plain header. -/
theorem IsPlainName.opens_plain (hname : IsPlainName name) :
    Header.Opens ⟨none, .bare name, body ++ [')', ';']⟩ (plain name body) :=
  Header.opens_plain ⟨hname.ne_nil, hname.isNameChar⟩ _

theorem tableName?_plain (hname : IsPlainName name) : tableName? (plain name body) = some name :=
  tableName?_of_opens hname.opens_plain

theorem body_plain (hname : IsPlainName name) : Statement.body (plain name body) = trim body := by
  rw [body_of_opens hname.opens_plain, beforeLast?_append (by decide)]
  rfl

theorem hasTrailingText_append (w : Text) : hasTrailingText (w ++ [')', ';']) = false := by
  have hlast : afterLast? ')' (w ++ [')', ';']) = some [';'] := afterLast?_append (by decide) w
  unfold hasTrailingText
  rw [hlast]
  decide

theorem hasTrailingText_plain : hasTrailingText (plain name body) = false := by
  have hends : plain name body = "CREATE TABLE ".toList ++ (name ++ ' ' :: '(' :: body) ++
      [')', ';'] := by
    simp [plain_eq]
  rw [hends, hasTrailingText_append]

/-! ### Texts of several statements -/

/-- A statement that opens where a text starts is the first one of the text. -/
theorem all_append {w rest : Text} (hopens : opens (w ++ ';' :: rest) = true) (hw : ';' ∉ w) :
    all (w ++ ';' :: rest) = (w ++ [';']) :: all rest := by
  obtain ⟨c, cs, hcons⟩ : ∃ c cs, w ++ ';' :: rest = c :: cs :=
    List.exists_cons_of_ne_nil (by simp)
  have hthrough : throughFirst? ';' (c :: cs) = some (w ++ [';'], rest) := by
    rw [← hcons, throughFirst?_append hw]
  rw [hcons] at hopens ⊢
  rw [all, if_pos hopens]
  split
  · next statement after hsome =>
    rw [hthrough] at hsome
    obtain ⟨rfl, rfl⟩ := Prod.mk.inj (Option.some.inj hsome)
    rfl
  · next hnone => exact absurd (hthrough.symm.trans hnone) (by simp)

theorem all_cons_of_not_opens {c : Char} {t : Text} (h : opens (c :: t) = false) :
    all (c :: t) = all t := by
  rw [all, if_neg (by simp [h])]

/-- **Where a statement stands**: it opens where it starts, and goes on to the next semicolon. -/
theorem exists_of_mem_all {sql s : Text} (h : s ∈ all sql) : ∃ before w after,
    sql = before ++ (w ++ ';' :: after) ∧ s = w ++ [';'] ∧ ';' ∉ w ∧
      opens (w ++ ';' :: after) = true := by
  fun_induction all sql with
  | case1 => exact absurd h List.not_mem_nil
  | case2 c rest hopens statement after hs ih =>
    have hwhole := append_of_throughFirst? hs
    rcases List.mem_cons.mp h with rfl | h
    · obtain ⟨w, rfl, hw⟩ := throughFirst?_eq_some hs
      have hw' : w ++ ';' :: after = c :: rest := by simpa using hwhole
      exact ⟨[], w, after, hw'.symm, rfl, hw, hw' ▸ hopens⟩
    · obtain ⟨before, w, later, rfl, hstatement⟩ := ih h
      exact ⟨statement ++ before, w, later, by rw [List.append_assoc, hwhole], hstatement⟩
  | case3 => exact absurd h List.not_mem_nil
  | case4 c rest _ ih =>
    obtain ⟨before, w, after, rfl, hstatement⟩ := ih h
    exact ⟨c :: before, w, after, rfl, hstatement⟩

/-- Where `CREATE TABLE` starts a text, the first statement goes on to the first semicolon. -/
theorem all_create_append {t : Text} (ht : ';' ∉ t) (rest : Text) :
    all ("CREATE TABLE ".toList ++ (t ++ ';' :: rest)) =
      ("CREATE TABLE ".toList ++ (t ++ [';'])) :: all rest := by
  have hopens : opens ("CREATE TABLE ".toList ++ t ++ ';' :: rest) = true := by
    unfold opens
    rw [Header.opening?_eq, Header.isSome_phrase?_iff (by decide) (by decide)]
    exact ⟨_, t ++ ';' :: rest, Header.phrase_plain, List.append_assoc _ _ _⟩
  have hsemicolon : ';' ∉ "CREATE TABLE ".toList ++ t := by
    intro hmem
    rcases List.mem_append.mp hmem with hmem | hmem
    · exact absurd hmem (by decide)
    · exact ht hmem
  rw [← List.append_assoc, all_append hopens hsemicolon, List.append_assoc]

/-- **A plain statement is the first one of a text that starts with it.** -/
theorem all_plain_append (hname : IsPlainName name) (hbody : ';' ∉ body) (rest : Text) :
    all (plain name body ++ rest) = plain name body :: all rest := by
  have hsemicolon : ';' ∉ name := hname.not_mem (by decide)
  have hfirst := all_create_append (t := name ++ ' ' :: '(' :: (body ++ [')']))
    (by simp [hsemicolon, hbody]) rest
  simpa [plain_eq] using hfirst

end Statement

end SchemaIntake
