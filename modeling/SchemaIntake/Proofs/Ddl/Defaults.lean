import SchemaIntake.Proofs.Ddl.Gaps
import SchemaIntake.Proofs.Ddl.Literals
import SchemaIntake.Proofs.Ddl.QuotedTokens

/-!
# Literals as defaults

Tokens do not mind quotes, so a literal may fall apart into several tokens and its parentheses
count.  What stands before the literal decides what the column is; the tokens that start in or
behind the literal can but spoil it.  So the content of a default makes no difference exactly if
its parentheses balance out and none of the tokens that start in it is misplaced.

## Main definitions

* `withDefault name type content tail` — a column that declares a literal as its default.
* `laterTokens d t` — the tokens of a text but the one that it starts in.
* `IsOpaque d content` — the content of a literal that nothing around it depends on.
* `ColumnDefinition.found? element` — the name and the base type of an accepted column.

## Main results

* `ColumnDefinition.found?_withDefault` — **what a column with a default is found to be**.
* `firstMisplacedAfter?_laterTokens_append` — behind a literal all depends on the depth only.
* `exists_telling_tail` — two depths are told apart by a tail.
* `ColumnDefinition.default_opaque_iff` — **which contents make no difference**.
-/

namespace SchemaIntake

open Text

/-- A column up to the word that introduces its default. -/
def beforeDefault (name type : Text) : Text := name ++ ' ' :: type ++ " DEFAULT".toList

/-- A column that declares a literal as its default. -/
def withDefault (name type content tail : Text) : Text :=
  beforeDefault name type ++ ' ' :: (literal content ++ tail)

/-- The tokens of a text but the one that it starts in, when it starts at a given depth. -/
def laterTokens (depth : Int) (t : Text) : List Text :=
  (tokenPieces depth t).tail.filter (!·.isEmpty)

/-- The content of a literal that nothing around it depends on, when the literal starts at a given
depth. -/
structure IsOpaque (depth : Int) (content : Text) : Prop where
  /-- The depth behind the literal is the depth before it. -/
  balanced : content.count '(' = content.count ')'
  /-- The literal is a single token, or its other tokens may stand behind the first one. -/
  placed : firstMisplacedAfter? none (laterTokens depth (literal content)) = none

variable {depth : Int}

/-! ### Texts without separators -/

/-- Contents without separators are opaque if their parentheses balance out. -/
theorem isOpaque_of_no_separator {content : Text} (hcontent : content.any isSeparator = false)
    (hbalanced : content.count '(' = content.count ')') : IsOpaque depth content := by
  have hliteral : (literal content).any isSeparator = false := by
    have hquote : isSeparator '\x27' = false := rfl
    simp [literal, hcontent, hquote]
  exact ⟨hbalanced, by rw [laterTokens, tokenPieces_of_no_separator hliteral]; rfl⟩

/-! ### Behind the literal -/

theorem depthAfter_literal (content : Text) :
    depthAfter depth (literal content) = depthAfter depth content := by
  rw [depthAfter_eq_count, depthAfter_eq_count]
  simp [literal]

/-- A literal starts in its first piece. -/
theorem exists_tokenPieces_literal (depth : Int) (content tail : Text) : ∃ q,
    tokenPieces depth (literal content ++ tail) =
      ('\x27' :: q) :: (tokenPieces depth (literal content ++ tail)).tail := by
  obtain ⟨p, ps, hpieces⟩ := exists_cutWhere_eq_cons (fun depth c => depth + parenStep c) endsToken
    (depth + parenStep '\x27') (content ++ ['\x27'] ++ tail)
  have hfirst : tokenPieces depth (literal content ++ tail) = ('\x27' :: p) :: ps :=
    cutWhere_cons_of_keep rfl hpieces
  exact ⟨p, by rw [hfirst, List.tail_cons]⟩

/-- A literal ends in its last piece. -/
theorem quote_mem_last_piece {content p : Text} {ps : List Text}
    (h : tokenPieces depth (literal content) = ps ++ [p]) : '\x27' ∈ p := by
  have hlast : (literal content).getLast? = some '\x27' := List.getLast?_concat
  rcases cutWhere_eq_concat h with ⟨rfl, -⟩ | ⟨r, c, ht, hcut, -⟩
  · exact List.mem_cons_self
  · rw [ht, List.getLast?_append_cons] at hlast
    cases p with
    | nil =>
      -- the closing quote is no separator
      obtain rfl := Option.some.inj hlast
      exact absurd (isSeparator_of_endsToken hcut) (by decide)
    | cons d p =>
      rw [List.getLast?_cons_cons] at hlast
      exact List.mem_of_getLast? hlast

/-- **Behind a literal whose tokens may stand** all depends on the depth only. -/
theorem firstMisplacedAfter?_laterTokens_append {content : Text}
    (hplaced : firstMisplacedAfter? none (laterTokens depth (literal content)) = none)
    (tail : Text) :
    firstMisplacedAfter? none (laterTokens depth (literal content ++ tail)) =
      firstMisplacedAfter? none (laterTokens (depthAfter depth content) tail) := by
  obtain ⟨ps, p, q, qs, hliteral, htail, hwhole⟩ := exists_cutWhere_append
    (fun depth c => depth + parenStep c) endsToken depth (literal content) tail
  have hquote : '\x27' ∈ p := quote_mem_last_piece hliteral
  have hdepth : tokenPieces (depthAfter depth content) tail = q :: qs := by
    rw [← depthAfter_literal]
    exact htail
  rw [laterTokens, tokenPieces, hliteral] at hplaced
  rw [laterTokens, tokenPieces, hwhole, laterTokens, hdepth, List.tail_cons]
  -- the piece with the closing quote goes on into the tail, but what decides is its quote
  cases ps with
  | nil => rfl
  | cons p₀ ps =>
    have hne (more : Text) : (p ++ more).isEmpty = false := by
      simp [List.ne_nil_of_mem hquote]
    have hlast := hne []
    rw [List.append_nil] at hlast
    rw [List.cons_append, List.tail_cons, List.filter_append,
      List.filter_cons_of_pos (by rw [hlast]; rfl), List.filter_nil] at hplaced
    rw [List.cons_append, List.tail_cons, List.filter_append,
      List.filter_cons_of_pos (by rw [hne q]; rfl),
      firstMisplacedAfter?_append_of_quote (List.mem_append_left q hquote),
      firstMisplacedAfter?_concat_append hquote q hplaced, Option.none_or]

/-! ### Telling depths apart -/

/-- Parentheses that bring a depth to zero. -/
def leveling (level : Int) : Text :=
  List.replicate level.toNat ')' ++ List.replicate (-level).toNat '('

theorem depthAfter_leveling (level : Int) : depthAfter depth (leveling level) = depth - level := by
  rw [depthAfter_eq_count]
  simp [leveling, List.count_replicate]
  omega

/-- **Two depths are told apart** by a tail that is a token of its own at the lower one only. -/
theorem exists_telling_tail {lower upper : Int} (h : lower < upper) : ∃ tail, trimEnd tail = tail ∧
    firstMisplacedAfter? none (laterTokens lower tail) ≠ none ∧
      firstMisplacedAfter? none (laterTokens upper tail) = none := by
  have hparens : (leveling lower).any isSeparator = false := by
    refine List.any_eq_false.mpr fun c hc => ?_
    rw [leveling, List.mem_append, List.mem_replicate, List.mem_replicate] at hc
    rcases hc with ⟨-, rfl⟩ | ⟨-, rfl⟩ <;> decide
  have hpieces (depth : Int) : tokenPieces depth (leveling lower ++ " !".toList) =
      if depth - lower ≤ 0 then [leveling lower, ['!']] else [leveling lower ++ " !".toList] := by
    obtain ⟨ps, p, q, qs, ha, hb, hwhole⟩ :=
      exists_tokenPieces_around_space depth (leveling lower) ['!']
    rw [tokenPieces_of_no_separator hparens] at ha
    rw [tokenPieces_of_no_separator (by decide)] at hb
    rw [← List.nil_append [leveling lower]] at ha
    obtain ⟨rfl, hp⟩ := List.append_inj' ha rfl
    obtain ⟨rfl, -⟩ := List.cons.inj hp
    obtain ⟨rfl, rfl⟩ := List.cons.inj hb
    rw [← depthAfter_leveling]
    exact hwhole
  -- at the lower depth the blank separates, and a token that may not stand comes to light
  refine ⟨leveling lower ++ " !".toList, ?_, ?_, ?_⟩
  · have hsplit : leveling lower ++ " !".toList = (leveling lower ++ [' ']) ++ '!' :: [] := by simp
    rw [hsplit, trimEnd_append_cons rfl]
    rfl
  · have hlevel : lower - lower ≤ 0 := by omega
    rw [laterTokens, hpieces, if_pos hlevel, List.tail_cons]
    decide
  · have hopen : ¬upper - lower ≤ 0 := by omega
    rw [laterTokens, hpieces, if_neg hopen]
    rfl

/-- Depths are the same if the same tails may stand behind them. -/
theorem eq_of_placed_iff {depth depth' : Int} (h : ∀ tail, trimEnd tail = tail →
    (firstMisplacedAfter? none (laterTokens depth tail) = none ↔
      firstMisplacedAfter? none (laterTokens depth' tail) = none)) : depth = depth' := by
  rcases Int.lt_trichotomy depth depth' with hlt | heq | hgt
  · obtain ⟨tail, htrim, hlower, hupper⟩ := exists_telling_tail hlt
    exact absurd ((h tail htrim).mpr hupper) hlower
  · exact heq
  · obtain ⟨tail, htrim, hlower, hupper⟩ := exists_telling_tail hgt
    exact absurd ((h tail htrim).mp hupper) hlower

/-! ### The tokens of a column with a default -/

section Column

variable (name type content tail : Text)

theorem trim_beforeDefault : trim (beforeDefault name type) =
    trimStart (name ++ ' ' :: type ++ [' ']) ++ "DEFAULT".toList := by
  have hbefore : beforeDefault name type =
      (name ++ ' ' :: type ++ [' ']) ++ 'D' :: "EFAULT".toList := by
    simp [beforeDefault]
  rw [hbefore, trim, trimStart_append_cons rfl, trimEnd_append_cons rfl]
  rfl

/-- White space is trimmed before the name and behind the tail only. -/
theorem trim_withDefault : trim (withDefault name type content tail) =
    trim (beforeDefault name type) ++ ' ' :: (literal content ++ trimEnd tail) := by
  have hsplit : withDefault name type content tail = (name ++ ' ' :: type ++ [' ']) ++ 'D' ::
      ("EFAULT".toList ++ ' ' :: '\x27' :: content ++ '\x27' :: tail) := by
    simp [withDefault, beforeDefault, literal]
  have hquote : trimStart (name ++ ' ' :: type ++ [' ']) ++ 'D' ::
      ("EFAULT".toList ++ ' ' :: '\x27' :: content ++ '\x27' :: tail) =
        (trimStart (name ++ ' ' :: type ++ [' ']) ++ 'D' ::
          ("EFAULT".toList ++ ' ' :: '\x27' :: content)) ++ '\x27' :: tail := by simp
  rw [hsplit, trim, trimStart_append_cons rfl, hquote, trimEnd_append_cons rfl, trim_beforeDefault,
    literal]
  simp

/-- `DEFAULT` is a token of its own, unless a parenthesis is open before it. -/
theorem exists_tokens_beforeDefault (h : depthAfter 0 (beforeDefault name type) ≤ 0) :
    ∃ earlier, tokens (beforeDefault name type) = earlier ++ ["DEFAULT".toList] := by
  have htokens : tokens (beforeDefault name type) =
      (tokenPieces 0 (trim (beforeDefault name type))).filter (!·.isEmpty) := rfl
  have hword (depth : Int) : tokenPieces depth "DEFAULT".toList = ["DEFAULT".toList] :=
    tokenPieces_of_no_separator (by decide)
  rw [← depthAfter_trim, trim_beforeDefault, depthAfter_append] at h
  rw [htokens, trim_beforeDefault]
  have hsuffix : trimStart (name ++ ' ' :: type ++ [' ']) <:+ name ++ ' ' :: type ++ [' '] :=
    List.dropWhile_suffix isBlank
  -- what is before the keyword may be blank altogether
  rcases List.suffix_concat_iff.mp hsuffix with hnil | ⟨before, hbefore, -⟩
  · rw [hnil]
    exact ⟨[], rfl⟩
  · have hwords : depthAfter (depthAfter 0 before) ([' '] ++ "DEFAULT".toList) =
        depthAfter 0 before := by
      rw [depthAfter_eq_count]
      simp
    have hdepth : depthAfter 0 before ≤ 0 := by
      rw [← hwords, depthAfter_append, ← depthAfter_append 0 before, ← hbefore]
      exact h
    refine ⟨(tokenPieces 0 before).filter (!·.isEmpty), ?_⟩
    rw [hbefore, List.append_assoc, List.singleton_append,
      tokenPieces_append_gap (c := ' ') rfl hdepth, hword, List.filter_append]
    rfl

/-- **The pieces of a column with a default**: the literal starts one of its own, unless a
parenthesis is open before it. -/
theorem exists_tokenPieces_withDefault : ∃ ps p q rest,
    tokenPieces 0 (trim (beforeDefault name type)) = ps ++ [p] ∧
    rest.filter (!·.isEmpty) = laterTokens (depthAfter 0 (beforeDefault name type))
      (literal content ++ trimEnd tail) ∧
    tokenPieces 0 (trim (withDefault name type content tail)) =
      if depthAfter 0 (beforeDefault name type) ≤ 0 then ps ++ p :: ('\x27' :: q) :: rest
      else ps ++ (p ++ ' ' :: '\x27' :: q) :: rest := by
  obtain ⟨ps, p, q, qs, hbefore, hliteral, hwhole⟩ := exists_tokenPieces_around_space 0
    (trim (beforeDefault name type)) (literal content ++ trimEnd tail)
  rw [depthAfter_trim] at hliteral hwhole
  obtain ⟨q', hfirst⟩ :=
    exists_tokenPieces_literal (depthAfter 0 (beforeDefault name type)) content (trimEnd tail)
  rw [hliteral, List.tail_cons] at hfirst
  obtain ⟨rfl, -⟩ := List.cons.inj hfirst
  refine ⟨ps, p, q', qs, hbefore, ?_, ?_⟩
  · rw [laterTokens, hliteral, List.tail_cons]
  · rw [trim_withDefault]
    exact hwhole

variable {name type}

/-- **A default with all parentheses closed before it** adds to the tokens those of the literal and
the tail. -/
theorem exists_tokens_withDefault (h : depthAfter 0 (beforeDefault name type) ≤ 0) :
    ∃ q, tokens (withDefault name type content tail) = tokens (beforeDefault name type) ++
      ('\x27' :: q) :: laterTokens (depthAfter 0 (beforeDefault name type))
        (literal content ++ trimEnd tail) := by
  obtain ⟨ps, p, q, rest, hbefore, hrest, hwhole⟩ :=
    exists_tokenPieces_withDefault name type content tail
  rw [if_pos h, List.append_cons ps] at hwhole
  refine ⟨q, ?_⟩
  rw [tokens, ← tokenPieces, hwhole, tokens, ← tokenPieces, hbefore, ← hrest, List.filter_append,
    List.filter_cons_of_pos (by simp)]

/-- **A default within a parenthesis** goes on with the token in which that was opened. -/
theorem exists_tokens_withDefault_open (h : 0 < depthAfter 0 (beforeDefault name type)) :
    ∃ earlier a b q, ' ' ∉ a ∧
      tokens (beforeDefault name type) = earlier ++ [a ++ '(' :: b] ∧
      tokens (withDefault name type content tail) = earlier ++
        (a ++ '(' :: b ++ ' ' :: '\x27' :: q) ::
          laterTokens (depthAfter 0 (beforeDefault name type))
            (literal content ++ trimEnd tail) := by
  obtain ⟨ps, p, q, rest, hbefore, hrest, hwhole⟩ :=
    exists_tokenPieces_withDefault name type content tail
  rw [if_neg (Int.not_le.mpr h)] at hwhole
  have hparen : '(' ∈ p :=
    paren_mem_last_piece (Int.le_refl 0) (by rw [depthAfter_trim]; exact h) hbefore
  obtain ⟨a, b, rfl, hopen⟩ := List.eq_append_cons_of_mem hparen
  -- a blank within a token comes behind a parenthesis
  have hspace : ' ' ∉ a := by
    intro hspace
    obtain ⟨u, v, rfl⟩ := List.append_of_mem hspace
    have hmem : u ++ ' ' :: (v ++ '(' :: b) ∈
        tokenPieces 0 (trim (beforeDefault name type)) := by
      rw [hbefore]
      simp
    have hin := open_mem_of_mem_tokenPieces (Int.le_refl 0) hmem rfl
    exact hopen (List.mem_append_left _ hin)
  refine ⟨ps.filter (!·.isEmpty), a, b, q, hspace, ?_, ?_⟩
  · rw [tokens, ← tokenPieces, hbefore, List.filter_append, List.filter_cons_of_pos (by simp),
      List.filter_nil]
  · rw [tokens, ← tokenPieces, hwhole, ← hrest, List.filter_append,
      List.filter_cons_of_pos (by simp)]

end Column

/-! ### What the column is found to be -/

namespace ColumnDefinition

/-- The name and the base type of an accepted column. -/
def found? (element : Text) : Option (Text × Text) := (gist (read element)).toOption

variable (name type content tail : Text)

/-- A default with all parentheses closed before it makes no difference to the column, unless a
token in or behind the literal is misplaced. -/
theorem toOption_read_withDefault (h : depthAfter 0 (beforeDefault name type) ≤ 0) :
    (read (withDefault name type content tail)).toOption =
      if firstMisplacedAfter? none (laterTokens (depthAfter 0 (beforeDefault name type))
        (literal content ++ trimEnd tail)) = none then
        (read (beforeDefault name type)).toOption
      else none := by
  obtain ⟨q, htokens⟩ := exists_tokens_withDefault content tail h
  obtain ⟨earlier, hearlier⟩ := exists_tokens_beforeDefault name type h
  rw [read, htokens, hearlier, List.append_assoc, List.singleton_append, toOption_ofTokens_literal,
    ← hearlier, read]

variable {name type content tail} in
/-- An accepted column with a default is the column without it, if all parentheses are closed before
the default. -/
theorem read_beforeDefault (h : depthAfter 0 (beforeDefault name type) ≤ 0)
    {column : ColumnDefinition} (hread : read (withDefault name type content tail) = .ok column) :
    read (beforeDefault name type) = .ok column := by
  have hwith := toOption_read_withDefault name type content tail h
  rw [hread] at hwith
  split at hwith
  · cases hbefore : read (beforeDefault name type) with
    | error fault =>
      rw [hbefore] at hwith
      exact absurd hwith (by simp [Except.toOption])
    | ok column' =>
      rw [hbefore] at hwith
      rw [Option.some.inj hwith]
  · exact absurd hwith (by simp [Except.toOption])

/-- **What a column with a default is found to be**: what it is without the literal, unless a token
in or behind the literal is misplaced. -/
theorem found?_withDefault : found? (withDefault name type content tail) =
    if firstMisplacedAfter? none (laterTokens (depthAfter 0 (beforeDefault name type))
      (literal content ++ trimEnd tail)) = none then
      found? (beforeDefault name type)
    else none := by
  by_cases h : depthAfter 0 (beforeDefault name type) ≤ 0
  · rw [found?, toOption_gist, toOption_read_withDefault name type content tail h, found?,
      toOption_gist]
    split <;> rfl
  · obtain ⟨earlier, a, b, q, hspace, hbefore, hwith⟩ :=
      exists_tokens_withDefault_open content tail (Int.not_le.mp h)
    rw [found?, read, hwith, toOption_gist_open hspace b (by simp), found?, read, hbefore]

/-- **Contents that make no difference** to a column that is accepted without the literal are the
opaque ones. -/
theorem found?_withDefault_eq_iff :
    (∀ tail, found? (withDefault name type content tail) =
      found? (withDefault name type ['x'] tail)) ↔
      found? (beforeDefault name type) = none ∨
        IsOpaque (depthAfter 0 (beforeDefault name type)) content := by
  generalize hdepth : depthAfter 0 (beforeDefault name type) = depth
  have hx : IsOpaque depth ['x'] := isOpaque_of_no_separator (by decide) rfl
  have hfound {content : Text}
      (hplaced : firstMisplacedAfter? none (laterTokens depth (literal content)) = none)
      (tail : Text) : found? (withDefault name type content tail) =
        if firstMisplacedAfter? none (laterTokens (depthAfter depth content) (trimEnd tail)) = none
        then found? (beforeDefault name type) else none := by
    rw [found?_withDefault, hdepth, firstMisplacedAfter?_laterTokens_append hplaced]
  constructor
  · intro hsame
    refine or_iff_not_imp_left.mpr fun hcolumn => ?_
    -- the empty tail tells whether the literal itself has a token that may not stand
    have hplaced : firstMisplacedAfter? none (laterTokens depth (literal content)) = none := by
      by_contra hmisplaced
      have hempty := hsame []
      have hnil : literal content ++ trimEnd [] = literal content := List.append_nil _
      rw [found?_withDefault, hdepth, hnil, if_neg hmisplaced, hfound hx.placed] at hempty
      exact hcolumn hempty.symm
    -- and the other tails tell at which depth it ends
    have hlevel : depthAfter depth content = depthAfter depth ['x'] := by
      refine eq_of_placed_iff fun tail htrim => ?_
      have htold := hsame tail
      rw [hfound hplaced, hfound hx.placed, htrim] at htold
      constructor
      · intro hcontent
        by_contra hmisplaced
        rw [if_pos hcontent, if_neg hmisplaced] at htold
        exact hcolumn htold
      · intro hcontent
        by_contra hmisplaced
        rw [if_neg hmisplaced, if_pos hcontent] at htold
        exact hcolumn htold.symm
    refine ⟨?_, hplaced⟩
    rw [depthAfter_eq_count, depthAfter_eq_count] at hlevel
    have hx₁ : ['x'].count '(' = 0 := rfl
    have hx₂ : ['x'].count ')' = 0 := rfl
    omega
  · rintro (hnone | ⟨hbalanced, hplaced⟩) tail
    · rw [found?_withDefault, found?_withDefault, hnone, ite_self, ite_self]
    · have hlevel : depthAfter depth content = depthAfter depth ['x'] := by
        rw [depthAfter_eq_count, depthAfter_eq_count, hbalanced]
        simp
      rw [hfound hplaced, hfound hx.placed, hlevel]

/-- **Which contents of a default make no difference.**  A column with a default is what it is
without the literal, unless a token in or behind the literal is misplaced; so a default never
changes the name or the base type, and never the definition where all parentheses are closed before
it.  If there is a column without the literal, a content is as good as `x` behind every tail
exactly if it is opaque; contents without separators are, if their parentheses balance out. -/
theorem default_opaque_iff (name type content : Text) :
    (∀ tail, found? (withDefault name type content tail) =
      if firstMisplacedAfter? none (laterTokens (depthAfter 0 (beforeDefault name type))
        (literal content ++ trimEnd tail)) = none then
        found? (beforeDefault name type)
      else none) ∧
    (depthAfter 0 (beforeDefault name type) ≤ 0 → ∀ tail column,
      read (withDefault name type content tail) = .ok column →
        read (beforeDefault name type) = .ok column) ∧
    ((∀ tail, found? (withDefault name type content tail) =
      found? (withDefault name type ['x'] tail)) ↔
        found? (beforeDefault name type) = none ∨
          IsOpaque (depthAfter 0 (beforeDefault name type)) content) ∧
    (content.any isSeparator = false → content.count '(' = content.count ')' →
      IsOpaque (depthAfter 0 (beforeDefault name type)) content) := by
  exact ⟨found?_withDefault name type content, fun h _ _ => read_beforeDefault h,
    found?_withDefault_eq_iff name type content, isOpaque_of_no_separator⟩

/-- A default with parentheses that balance out. -/
theorem default_opaque_note :
    let before := beforeDefault "note".toList "TEXT".toList
    let column : ColumnDefinition := ⟨"note".toList, ⟨"TEXT".toList, 1⟩⟩
    depthAfter 0 before ≤ 0 ∧ IsOpaque (depthAfter 0 before) "f(x),g(y)".toList ∧
      read (withDefault "note".toList "TEXT".toList "f(x),g(y)".toList " NOT NULL".toList) =
        .ok column ∧
      read before = .ok column ∧
      found? (withDefault "note".toList "TEXT".toList "f(x),g(y)".toList " NOT NUL".toList) =
        found? (withDefault "note".toList "TEXT".toList ['x'] " NOT NUL".toList) := by
  intro before column
  have hdepth : depthAfter 0 before ≤ 0 := by decide +kernel
  have hread : read (withDefault "note".toList "TEXT".toList "f(x),g(y)".toList
      " NOT NULL".toList) = .ok column := by decide +kernel
  obtain ⟨-, hcolumn, hsame, hopaque⟩ :=
    default_opaque_iff "note".toList "TEXT".toList "f(x),g(y)".toList
  have hcontent := hopaque (by decide) (by decide)
  exact ⟨hdepth, hcontent, hread, hcolumn hdepth _ _ hread, hsame.mpr (Or.inr hcontent) _⟩

/-- A space makes a default fall apart, and a parenthesis hides whatever follows. -/
theorem default_not_opaque_note :
    withDefault "note".toList "TEXT".toList "a b".toList [] = "note TEXT DEFAULT 'a b'".toList ∧
      read (withDefault "note".toList "TEXT".toList "a b".toList []) =
        .error (.misplacedToken "note".toList "b'".toList) ∧
      read (withDefault "note".toList "TEXT".toList ['x'] []) =
        .ok ⟨"note".toList, ⟨"TEXT".toList, 1⟩⟩ ∧
      read (withDefault "note".toList "TEXT".toList ['('] " anything goes".toList) =
        .ok ⟨"note".toList, ⟨"TEXT".toList, 1⟩⟩ ∧
      read (withDefault "note".toList "TEXT".toList ['x'] " anything goes".toList) =
        .error (.misplacedToken "note".toList "anything".toList) := by
  decide +kernel

end ColumnDefinition

end SchemaIntake
