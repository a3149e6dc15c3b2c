import SchemaIntake.Proofs.Ddl.Delimiters

/-!
# Literals in a body

A literal with its inner quotes written twice leaves the run over a body as it finds it: the two
quotes of a pair close and open the literal again before anything else is read.  So no comma and no
parenthesis of the literal counts, whatever it holds, and all that follows it is cut as if it were
empty.

## Main definitions

* `literal w` — a text between single quotes.
* `doubled w` — a text with every single quote written twice.
* `Nesting.IsQuiet n t` — nothing in `t` ends an element or changes the depth.
* `delimitersAfter a b` — the delimiters of `b`, counted from its start, when `a` stands before it.

## Main results

* `Nesting.after_literal`, `Nesting.isQuiet_literal` — a literal is quiet and leaves no trace.
* `delimiters_append` — the delimiters of two texts put together.
* `elementPieces_insert` — the pieces of a body into which a quiet text is put.
* `delimiters_insert_literal` — **a literal is opaque**: only its length is seen from outside.
-/

namespace SchemaIntake

open Text

/-- A text between single quotes. -/
def literal (content : Text) : Text := '\x27' :: content ++ ['\x27']

/-- A text with every single quote written twice. -/
def doubled (w : Text) : Text := w.flatMap fun c => if c = '\x27' then ['\x27', '\x27'] else [c]

theorem doubled_cons (c : Char) (w : Text) :
    doubled (c :: w) = (if c = '\x27' then ['\x27', '\x27'] else [c]) ++ doubled w :=
  List.flatMap_cons

/-! ### Quiet texts -/

namespace Nesting

/-- Nothing in a text ends an element or changes the depth, if the text starts in the given
state. -/
def IsQuiet (n : Nesting) : Text → Prop
  | [] => True
  | c :: t => n.isDelimiter c = false ∧ (n.next c).depth = n.depth ∧ IsQuiet (n.next c) t

variable {n : Nesting} {t a b : Text}

theorem isQuiet_append : n.IsQuiet (a ++ b) ↔ n.IsQuiet a ∧ (n.after a).IsQuiet b := by
  induction a generalizing n with
  | nil => exact ⟨fun h => ⟨trivial, h⟩, fun h => h.2⟩
  | cons c a ih =>
    show _ ∧ _ ∧ (n.next c).IsQuiet (a ++ b) ↔ (_ ∧ _ ∧ _) ∧ ((n.next c).after a).IsQuiet b
    rw [ih, and_assoc, and_assoc]

/-- A quiet text keeps the depth throughout. -/
theorem IsQuiet.depth_after (h : n.IsQuiet t) {p : Text} (hp : p <+: t) :
    (n.after p).depth = n.depth := by
  induction p generalizing n t with
  | nil => rfl
  | cons c p ih =>
    obtain ⟨rest, rfl⟩ := hp
    obtain ⟨-, hdepth, hrest⟩ := h
    exact (ih hrest (List.prefix_append p rest)).trans hdepth

/-- There is no delimiter in a quiet text. -/
theorem IsQuiet.positionsWhere_eq_nil (h : n.IsQuiet t) :
    positionsWhere (fun before c => (n.after before).isDelimiter c) t = [] := by
  induction t generalizing n with
  | nil => rfl
  | cons c t ih =>
    obtain ⟨hdelimiter, -, hrest⟩ := h
    rw [positionsWhere_cons]
    have hhead : (n.after []).isDelimiter c = false := hdelimiter
    have htail := ih hrest
    rw [hhead]
    exact congrArg (List.map (· + 1)) htail

/-- A quiet text is one piece. -/
theorem IsQuiet.cutWhere_eq (h : n.IsQuiet t) : cutWhere next isDelimiter n t = [t] := by
  induction t generalizing n with
  | nil => rfl
  | cons c t ih =>
    obtain ⟨hdelimiter, -, hrest⟩ := h
    exact cutWhere_cons_of_keep hdelimiter (ih hrest)

/-! ### Literals -/

/-- Within quotes, quotes in pairs and other characters than a backslash change nothing. -/
theorem after_doubled (depth : Int) {w : Text} (hw : '\\' ∉ w) :
    (⟨depth, true, false⟩ : Nesting).after (doubled w) = ⟨depth, true, false⟩ ∧
      (⟨depth, true, false⟩ : Nesting).IsQuiet (doubled w) := by
  induction w with
  | nil => exact ⟨rfl, trivial⟩
  | cons c w ih =>
    rw [List.mem_cons, not_or] at hw
    obtain ⟨hafter, hquiet⟩ := ih hw.2
    have hfirst : (⟨depth, true, false⟩ : Nesting).after
          (if c = '\x27' then ['\x27', '\x27'] else [c]) = ⟨depth, true, false⟩ ∧
        (⟨depth, true, false⟩ : Nesting).IsQuiet
          (if c = '\x27' then ['\x27', '\x27'] else [c]) := by
      by_cases hc : c = '\x27'
      · -- the first quote closes the literal, the second one opens it again
        subst hc
        simp [after, next, IsQuiet, isDelimiter, parenStep]
      · simp [after, next, IsQuiet, isDelimiter, hc, Ne.symm hw.1]
    rw [doubled_cons, after_append, isQuiet_append, hfirst.1]
    exact ⟨hafter, hfirst.2, hquiet⟩

/-- **A literal leaves no trace** where it stands outside quotes and behind no backslash, and
nothing in it ends an element or changes the depth. -/
theorem after_literal (hquotes : n.inQuotes = false) (hescaped : n.escaped = false) {w : Text}
    (hw : '\\' ∉ w) :
    n.after (literal (doubled w)) = n ∧ n.IsQuiet (literal (doubled w)) := by
  obtain ⟨depth, inQuotes, escaped⟩ := n
  obtain rfl : inQuotes = false := hquotes
  obtain rfl : escaped = false := hescaped
  obtain ⟨hafter, hquiet⟩ := after_doubled depth hw
  have hopen : (⟨depth, false, false⟩ : Nesting).next '\x27' = ⟨depth, true, false⟩ := by
    simp [next, parenStep]
  have hclose : (⟨depth, true, false⟩ : Nesting).next '\x27' = ⟨depth, false, false⟩ := by
    simp [next]
  constructor
  · show ((⟨depth, false, false⟩ : Nesting).next '\x27').after (doubled w ++ ['\x27']) = _
    rw [hopen, after_append, hafter]
    exact hclose
  · refine ⟨by simp [isDelimiter], by rw [hopen], ?_⟩
    rw [hopen]
    refine isQuiet_append.mpr ⟨hquiet, ?_⟩
    rw [hafter]
    exact ⟨by simp [isDelimiter], by rw [hclose], trivial⟩

end Nesting

/-! ### Delimiters around a literal -/

/-- The delimiters of a text, counted from its start, when another one stands before it. -/
def delimitersAfter (before t : Text) : List Nat :=
  positionsWhere (fun more c => (Nesting.start.after (before ++ more)).isDelimiter c) t

/-- **The delimiters of two texts put together.** -/
theorem delimiters_append (a b : Text) :
    delimiters (a ++ b) = delimiters a ++ (delimitersAfter a b).map (· + a.length) :=
  positionsWhere_append _ a b

theorem delimitersAfter_eq (before t : Text) : delimitersAfter before t =
    positionsWhere (fun more c => ((Nesting.start.after before).after more).isDelimiter c) t := by
  unfold delimitersAfter
  simp only [Nesting.after_append]

/-- **The pieces of a body into which a quiet text is put** that leaves the state as it finds it:
the text joins the last piece in front of it and the first one behind it, and all others stay. -/
theorem elementPieces_insert {a t b p q : Text} {ps qs : List Text}
    (ha : elementPieces a = ps ++ [p])
    (hb : cutWhere Nesting.next Nesting.isDelimiter (Nesting.start.after a) b = q :: qs)
    (hafter : (Nesting.start.after a).after t = Nesting.start.after a)
    (hquiet : (Nesting.start.after a).IsQuiet t) :
    elementPieces (a ++ t ++ b) = ps ++ (p ++ t ++ q) :: qs := by
  -- the inserted text is of one piece, and joins the last one before it
  have hat : elementPieces (a ++ t) = ps ++ [p ++ t] := by
    obtain ⟨ps', p', q', qs', ha', ht', hat⟩ :=
      exists_cutWhere_append Nesting.next Nesting.isDelimiter Nesting.start a t
    have hone : [t] = q' :: qs' := hquiet.cutWhere_eq.symm.trans ht'
    obtain ⟨rfl, rfl⟩ := List.cons.inj hone
    obtain ⟨rfl, hp⟩ := List.append_inj' (ha.symm.trans ha') rfl
    obtain rfl : p = p' := by simpa using hp
    exact hat
  obtain ⟨ps', p', q', qs', hat', hb', hab⟩ :=
    exists_cutWhere_append Nesting.next Nesting.isDelimiter Nesting.start (a ++ t) b
  -- behind it, the splitter is where it was before
  have hstate : (a ++ t).foldl Nesting.next Nesting.start = Nesting.start.after a :=
    (Nesting.after_append _ a t).trans hafter
  rw [hstate, hb] at hb'
  obtain ⟨rfl, rfl⟩ := List.cons.inj hb'
  obtain ⟨rfl, hp⟩ := List.append_inj' (hat.symm.trans hat') rfl
  obtain rfl : p ++ t = p' := by simpa using hp
  exact hab

/-- **A literal is opaque.**  Put between two texts, the first of which ends outside quotes and
without a backslash, it adds no delimiter, keeps the depth, and leaves what follows in the state in
which the empty literal leaves it.  So a body with the literal is split as the one with the empty
literal, but for the one piece that the literal is in. -/
theorem delimiters_insert_literal {a w : Text}
    (hquotes : (Nesting.start.after a).inQuotes = false) (hbackslash : a.getLast? ≠ some '\\')
    (hw : '\\' ∉ w) (b : Text) :
    delimiters (a ++ literal (doubled w) ++ b) = delimiters a ++
      (delimitersAfter (a ++ literal []) b).map (· + (a.length + (literal (doubled w)).length)) ∧
    (∀ p, p <+: literal (doubled w) →
      (Nesting.start.after (a ++ p)).depth = (Nesting.start.after a).depth) ∧
    (∀ more, Nesting.start.after (a ++ literal (doubled w) ++ more) =
      Nesting.start.after (a ++ literal [] ++ more)) ∧
    ∃ ps p q qs, elementPieces (a ++ literal [] ++ b) = ps ++ (p ++ literal [] ++ q) :: qs ∧
      elementPieces (a ++ literal (doubled w) ++ b) =
        ps ++ (p ++ literal (doubled w) ++ q) :: qs := by
  -- a quote opens a literal unless a backslash stands before it
  have hescaped : (Nesting.start.after a).escaped = false := by
    rw [Nesting.after_eq_counts]
    exact beq_eq_false_iff_ne.mpr hbackslash
  obtain ⟨hafter, hquiet⟩ := Nesting.after_literal hquotes hescaped hw
  obtain ⟨hempty, hemptyQuiet⟩ : (Nesting.start.after a).after (literal []) =
      Nesting.start.after a ∧ (Nesting.start.after a).IsQuiet (literal []) :=
    Nesting.after_literal hquotes hescaped (w := []) List.not_mem_nil
  refine ⟨?_, fun p hp => ?_, fun more => ?_, ?_⟩
  · have hnone : delimitersAfter a (literal (doubled w)) = [] := by
      rw [delimitersAfter_eq, hquiet.positionsWhere_eq_nil]
    have hsame : delimitersAfter (a ++ literal (doubled w)) b =
        delimitersAfter (a ++ literal []) b := by
      rw [delimitersAfter_eq, delimitersAfter_eq, Nesting.after_append, Nesting.after_append,
        hafter, hempty]
    rw [delimiters_append, delimiters_append, hnone, hsame, List.map_nil, List.append_nil,
      List.length_append]
  · rw [Nesting.after_append]
    exact hquiet.depth_after hp
  · rw [Nesting.after_append, Nesting.after_append, Nesting.after_append, Nesting.after_append,
      hafter, hempty]
  · obtain ⟨ps, p, q, qs, ha, hb, -⟩ :=
      exists_cutWhere_append Nesting.next Nesting.isDelimiter Nesting.start a b
    exact ⟨ps, p, q, qs, elementPieces_insert ha hb hempty hemptyQuiet,
      elementPieces_insert ha hb hafter hquiet⟩

/-- A comma, a parenthesis and a quote within a literal, between an open parenthesis and a comma. -/
theorem delimiters_around_literal :
    let a := "n INT, tag TEXT DEFAULT ".toList
    let w := "it's, (ok".toList
    let b := ", x DECIMAL(10,2), y INT".toList
    (Nesting.start.after a).inQuotes = false ∧ a.getLast? ≠ some '\\' ∧ '\\' ∉ w ∧
      delimitersAfter (a ++ literal []) b = [0, 17] ∧
      delimiters (a ++ literal (doubled w) ++ b) = [5, 36, 53] ∧
      ∃ ps p q qs, elementPieces (a ++ literal [] ++ b) = ps ++ (p ++ literal [] ++ q) :: qs ∧
        elementPieces (a ++ literal (doubled w) ++ b) =
          ps ++ (p ++ literal (doubled w) ++ q) :: qs := by
  intro a w b
  have hquotes : (Nesting.start.after a).inQuotes = false := by decide +kernel
  have hbackslash : a.getLast? ≠ some '\\' := by decide +kernel
  have hw : '\\' ∉ w := by decide +kernel
  have hrest : delimitersAfter (a ++ literal []) b = [0, 17] := by decide +kernel
  obtain ⟨hdelimiters, -, -, hpieces⟩ := delimiters_insert_literal hquotes hbackslash hw b
  refine ⟨hquotes, hbackslash, hw, hrest, ?_, hpieces⟩
  rw [hdelimiters, hrest]
  decide +kernel

end SchemaIntake
