import SchemaIntake.Proofs.Ddl.WellNested
import SchemaIntake.Proofs.Text.Positions

/-!
# Where a body is cut into elements

The commas that end an element can be told without running over the body: it is enough to count
quotes and parentheses in the text before them.  The elements are the texts between these commas,
and as each of them starts where nothing is open, an element that is taken out of its body is not
cut again.

## Main definitions

* `bareQuotes t` — how many single quotes stand in a text without a backslash right before them.
* `outside p t` — how often a character stands behind an even number of such quotes.
* `delimiters body` — the positions of the commas that end an element.

## Main results

* `after_eq_counts` — the state of the run over a text is these counts.
* `mem_delimiters_iff` — **which commas end an element**, by counting.
* `elementPieces_eq_stretches`, `join_elementPieces`, `elementPieces_of_mem` — the pieces stand
  between the delimiters, make up the body again, and are not cut any further.
* `elements_between_delimiters` — **the elements of any body**.
-/

namespace SchemaIntake

open Text

/-! ### Counting quotes and parentheses -/

/-- How many single quotes stand in a text without a backslash right before them. -/
def bareQuotes (t : Text) : Nat :=
  (positionsWhere (fun before c => c == '\x27' && before.getLast? != some '\\') t).length

/-- How often a character stands in a text outside quotes, that is, behind an even number of single
quotes without a backslash. -/
def outside (p : Char) (t : Text) : Nat :=
  (positionsWhere (fun before c => c == p && bareQuotes before % 2 == 0) t).length

theorem bareQuotes_concat (t : Text) (c : Char) :
    bareQuotes (t ++ [c]) =
      bareQuotes t + if c == '\x27' && t.getLast? != some '\\' then 1 else 0 := by
  unfold bareQuotes
  rw [positionsWhere_concat, List.length_append]
  split <;> rfl

theorem outside_concat (p : Char) (t : Text) (c : Char) :
    outside p (t ++ [c]) =
      outside p t + if c == p && bareQuotes t % 2 == 0 then 1 else 0 := by
  unfold outside
  rw [positionsWhere_concat, List.length_append]
  split <;> rfl

namespace Nesting

theorem after_concat (n : Nesting) (t : Text) (c : Char) :
    n.after (t ++ [c]) = (n.after t).next c :=
  List.foldl_concat ..

/-- **The state of the run over a text** is what can be counted in it. -/
theorem after_eq_counts (t : Text) : start.after t =
    { depth := outside '(' t - outside ')' t
      inQuotes := bareQuotes t % 2 == 1
      escaped := t.getLast? == some '\\' } := by
  induction t using List.reverseRecOn with
  | nil => rfl
  | append_singleton t c ih =>
    rw [after_concat, ih, next, outside_concat, outside_concat, bareQuotes_concat,
      List.getLast?_concat]
    -- an even number of quotes is no odd one
    have hparity : (bareQuotes t % 2 == 0) = !(bareQuotes t % 2 == 1) := by
      rcases Nat.mod_two_eq_zero_or_one (bareQuotes t) with h | h <;> rw [h] <;> rfl
    congr 1
    · rw [hparity, parenStep]
      cases bareQuotes t % 2 == 1 with
      | true => simp
      | false =>
        by_cases hopen : c = '('
        · subst hopen
          simp
          omega
        · by_cases hclose : c = ')'
          · subst hclose
            simp
            omega
          · simp [hopen, hclose]
    · show (if c = '\x27' && !(t.getLast? == some '\\') then !(bareQuotes t % 2 == 1)
        else bareQuotes t % 2 == 1) = _
      by_cases hquote : c = '\x27' ∧ t.getLast? ≠ some '\\'
      · obtain ⟨rfl, hescaped⟩ := hquote
        rcases Nat.mod_two_eq_zero_or_one (bareQuotes t) with h | h <;>
          simp [hescaped, Nat.add_mod, h]
      · have hskip : (decide (c = '\x27') && !(t.getLast? == some '\\')) = false := by
          simpa [Decidable.imp_iff_not_or, not_and_or] using hquote
        have hsame : (c == '\x27' && t.getLast? != some '\\') = false := hskip
        rw [hskip, hsame]
        rfl

end Nesting

/-! ### Delimiters -/

/-- The positions of the commas that end an element of a body. -/
def delimiters (body : Text) : List Nat :=
  positionsWhere (fun before c => (Nesting.start.after before).isDelimiter c) body

/-- **Which commas end an element**: those with an even number of quotes and as many opening as
closing parentheses outside quotes before them. -/
theorem mem_delimiters_iff {body : Text} {i : Nat} : i ∈ delimiters body ↔
    body[i]? = some ',' ∧ bareQuotes (body.take i) % 2 = 0 ∧
      outside '(' (body.take i) = outside ')' (body.take i) := by
  have hstate (before : Text) (c : Char) : (Nesting.start.after before).isDelimiter c = true ↔
      c = ',' ∧ bareQuotes before % 2 = 0 ∧ outside '(' before = outside ')' before := by
    rw [Nesting.after_eq_counts, Nesting.isDelimiter]
    simp only [Bool.and_eq_true, beq_iff_eq, Bool.not_eq_true', beq_eq_false_iff_ne, and_assoc]
    refine and_congr_right fun _ => and_congr ?_ ?_ <;> omega
  unfold delimiters
  rw [mem_positionsWhere]
  constructor
  · rintro ⟨c, hc, hdelimiter⟩
    obtain ⟨rfl, hcounts⟩ := (hstate _ c).mp hdelimiter
    exact ⟨hc, hcounts⟩
  · rintro ⟨hc, hcounts⟩
    exact ⟨',', hc, (hstate _ ',').mpr ⟨rfl, hcounts⟩⟩

/-! ### The pieces between the delimiters -/

theorem elementPieces_eq_stretches (body : Text) :
    elementPieces body = stretches body (delimiters body) :=
  cutWhere_eq_stretches Nesting.next Nesting.isDelimiter Nesting.start body

/-- The pieces make up the body again. -/
theorem join_elementPieces (body : Text) : join [','] (elementPieces body) = body := by
  generalize hpieces : elementPieces body = pieces
  induction pieces generalizing body with
  | nil => exact absurd hpieces (cutWhere_ne_nil _ _ _ body)
  | cons p ps ih =>
    rcases elementPieces_eq_cons hpieces with ⟨rfl, rfl⟩ | ⟨rest, rfl, -, hps⟩
    · rw [join, List.intercalate_singleton]
    · obtain ⟨q, qs, hq⟩ :=
        exists_cutWhere_eq_cons Nesting.next Nesting.isDelimiter Nesting.start rest
      have hrest : ps = q :: qs := hps.trans hq
      subst hrest
      rw [join_cons_cons, ih rest hps.symm, List.append_assoc, List.singleton_append]

/-- **A piece that is taken out of its body is not cut again**: nothing is open where it starts. -/
theorem elementPieces_of_mem {body p : Text} (h : p ∈ elementPieces body) :
    elementPieces p = [p] := by
  generalize hpieces : elementPieces body = pieces at h
  induction pieces generalizing body with
  | nil => exact absurd h List.not_mem_nil
  | cons q qs ih =>
    rcases List.mem_cons.mp h with rfl | h
    · exact cutWhere_first_piece hpieces
    · rcases elementPieces_eq_cons hpieces with ⟨-, rfl⟩ | ⟨rest, -, -, hqs⟩
      · exact absurd h List.not_mem_nil
      · exact ih hqs.symm h

/-! ### The elements -/

theorem dropBlankLast_concat (ps : List Text) (last : Text) :
    dropBlankLast (ps ++ [last]) = if isAllBlank last then ps else ps ++ [last] := by
  induction ps with
  | nil => rfl
  | cons p ps ih =>
    obtain ⟨q, qs, hq⟩ := List.exists_cons_of_ne_nil (List.concat_ne_nil last ps)
    rw [List.cons_append, hq, dropBlankLast, ← hq, ih]
    split <;> rfl

/-- **The elements of any body** are the texts between its delimiters, less a blank one at the end;
with that one they make up the body, and each of them that is not blank is its own only element. -/
theorem elements_between_delimiters (body : Text) :
    (∀ i, i ∈ delimiters body ↔ body[i]? = some ',' ∧ bareQuotes (body.take i) % 2 = 0 ∧
      outside '(' (body.take i) = outside ')' (body.take i)) ∧
    (∃ earlier last, stretches body (delimiters body) = earlier ++ [last] ∧
      elements body = (if isAllBlank last then earlier else earlier ++ [last]) ∧
      body = join [','] (elements body) ++
        if isAllBlank last then if earlier = [] then last else ',' :: last else []) ∧
    ∀ element ∈ elements body, isAllBlank element = false → elements element = [element] := by
  obtain ⟨earlier, last, hpieces⟩ : ∃ earlier last, elementPieces body = earlier ++ [last] :=
    ⟨_, _, (List.dropLast_append_getLast (cutWhere_ne_nil _ _ _ body)).symm⟩
  have helements : elements body = if isAllBlank last then earlier else earlier ++ [last] := by
    rw [elements, hpieces, dropBlankLast_concat]
  refine ⟨fun i => mem_delimiters_iff, ⟨earlier, last, ?_, helements, ?_⟩, ?_⟩
  · rw [← elementPieces_eq_stretches, hpieces]
  · have hbody := join_elementPieces body
    rw [hpieces] at hbody
    rw [helements]
    -- a blank last piece is left out, and with it the comma before it, if there is one
    cases isAllBlank last with
    | false => simp [hbody]
    | true =>
      by_cases hearlier : earlier = []
      · subst hearlier
        simpa [join] using hbody.symm
      · rw [join_concat _ hearlier, List.append_assoc] at hbody
        simp [hearlier, ← hbody]
  · intro element hmem hblank
    -- whether or not the last piece is left out, an element is one of the pieces
    have hpiece : element ∈ elementPieces body := by
      rw [helements] at hmem
      rw [hpieces]
      split at hmem
      · exact List.mem_append_left [last] hmem
      · exact hmem
    rw [elements, elementPieces_of_mem hpiece, dropBlankLast, hblank]
    rfl

/-- A comma within quotes, one within parentheses, and a blank text after the last one. -/
theorem elements_of_quoted_and_nested :
    let body := "s TEXT DEFAULT 'it\\'s, ok', n DECIMAL(10,2),  ".toList
    let element := "s TEXT DEFAULT 'it\\'s, ok'".toList
    delimiters body = [26, 43] ∧ element ∈ elements body ∧ isAllBlank element = false ∧
      elements element = [element] := by
  intro body element
  have hmem : element ∈ elements body := by decide +kernel
  have hblank : isAllBlank element = false := by decide +kernel
  obtain ⟨-, -, hagain⟩ := elements_between_delimiters body
  exact ⟨by decide +kernel, hmem, hblank, hagain element hmem hblank⟩

end SchemaIntake
