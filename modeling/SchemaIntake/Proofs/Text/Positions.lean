import SchemaIntake.Proofs.Text.Cutting

/-!
# Positions in a text

`cutWhere` carries a state along and never says where it cuts.  The same cuts can be told by their
positions: the pieces are what stands between them.  What is said about a cut then speaks of the
text before it, and not of the run over the text.

## Main definitions

* `Text.positionsWhere selects t` — the positions of the characters of `t` that are selected by what
  stands before them.
* `Text.stretches t ps` — the texts between the positions `ps` of `t`.

## Main results

* `Text.positionsWhere_append` — the positions in `a ++ b`.
* `Text.cutWhere_eq_stretches` — **the pieces stand between the positions** that are cut at.
-/

namespace SchemaIntake

namespace Text

/-! ### Positions -/

/-- The positions of the characters that are selected by what stands before them. -/
def positionsWhere (selects : Text → Char → Bool) (t : Text) : List Nat :=
  (List.range t.length).filter fun i => t[i]?.any (selects (t.take i))

variable {selects : Text → Char → Bool} {t : Text}

@[simp] theorem positionsWhere_nil : positionsWhere selects [] = [] := rfl

theorem mem_positionsWhere {i : Nat} :
    i ∈ positionsWhere selects t ↔ ∃ c, t[i]? = some c ∧ selects (t.take i) c = true := by
  rw [positionsWhere, List.mem_filter, List.mem_range, Option.any_eq_true]
  constructor
  · exact fun h => h.2
  · rintro ⟨c, hc, hselects⟩
    obtain ⟨hi, -⟩ := List.getElem?_eq_some_iff.mp hc
    exact ⟨hi, c, hc, hselects⟩

/-- **The positions in two texts put together**: those in the second text are moved on. -/
theorem positionsWhere_append (selects : Text → Char → Bool) (a b : Text) :
    positionsWhere selects (a ++ b) = positionsWhere selects a ++
      (positionsWhere (fun before => selects (a ++ before)) b).map (· + a.length) := by
  rw [positionsWhere, List.length_append, List.range_add, List.filter_append]
  congr 1
  · -- before the second text nothing of it is seen
    rw [positionsWhere]
    refine List.filter_congr fun i hi => ?_
    have hlt : i < a.length := List.mem_range.mp hi
    rw [List.getElem?_append_left hlt, List.take_append_of_le_length (Nat.le_of_lt hlt)]
  · rw [positionsWhere, List.filter_map, funext (Nat.add_comm · a.length)]
    congr 1
    refine List.filter_congr fun i _ => ?_
    rw [Function.comp_apply, List.getElem?_append_right (Nat.le_add_right a.length i),
      Nat.add_sub_cancel_left, List.take_length_add_append]

theorem positionsWhere_cons (selects : Text → Char → Bool) (c : Char) (t : Text) :
    positionsWhere selects (c :: t) = (if selects [] c then [0] else []) ++
      (positionsWhere (fun before => selects (c :: before)) t).map (· + 1) := by
  have hsingle : positionsWhere selects [c] = if selects [] c then [0] else [] := by
    simp [positionsWhere, List.filter_cons]
  rw [← hsingle]
  exact positionsWhere_append selects [c] t

theorem positionsWhere_concat (selects : Text → Char → Bool) (t : Text) (c : Char) :
    positionsWhere selects (t ++ [c]) =
      positionsWhere selects t ++ if selects t c then [t.length] else [] := by
  rw [positionsWhere_append, positionsWhere_cons, List.append_nil]
  split <;> simp

/-! ### What stands between positions -/

/-- The texts between some positions: before the first one, between any two neighbours, and after
the last one. -/
def stretches (t : Text) (positions : List Nat) : List Text :=
  List.zipWith (fun i j => t.extract i j) (0 :: positions.map (· + 1)) (positions ++ [t.length])

/-- What stands between two positions stands between the next ones if a character comes in front. -/
theorem extract_cons_succ (c : Char) (t : Text) (i j : Nat) :
    (c :: t).extract (i + 1) (j + 1) = t.extract i j := by
  rw [List.extract_eq_take_drop, List.extract_eq_take_drop, List.drop_succ_cons,
    Nat.add_sub_add_right]

theorem zipWith_extract_cons (c : Char) (t : Text) (is js : List Nat) :
    List.zipWith (fun i j => (c :: t).extract i j) (is.map (· + 1)) (js.map (· + 1)) =
      List.zipWith (fun i j => t.extract i j) is js := by
  rw [List.zipWith_map]
  exact congrArg (List.zipWith · is js) (funext fun i => funext fun j => extract_cons_succ c t i j)

/-- A cut in front gives a piece without characters. -/
theorem stretches_cons_of_cut (c : Char) (t : Text) (ps : List Nat) :
    stretches (c :: t) (0 :: ps.map (· + 1)) = [] :: stretches t ps := by
  have hends : ps.map (· + 1) ++ [(c :: t).length] = (ps ++ [t.length]).map (· + 1) := by simp
  rw [stretches, List.cons_append, hends, List.zipWith_cons_cons, zipWith_extract_cons, stretches]
  rfl

/-- A character that is not cut at goes to the first piece. -/
theorem stretches_cons_of_keep (c : Char) (t : Text) (ps : List Nat) :
    stretches (c :: t) (ps.map (· + 1)) = (stretches t ps).modifyHead (c :: ·) := by
  have hends : ps.map (· + 1) ++ [(c :: t).length] = (ps ++ [t.length]).map (· + 1) := by simp
  have hfirst (j : Nat) : (c :: t).extract 0 (j + 1) = c :: t.extract 0 j := by
    rw [List.extract_eq_take_drop, List.extract_eq_take_drop]
    rfl
  rw [stretches, hends, stretches]
  cases hjs : ps ++ [t.length] with
  | nil => simp at hjs
  | cons j js =>
    rw [List.map_cons, List.zipWith_cons_cons, zipWith_extract_cons, hfirst, List.zipWith_cons_cons,
      List.modifyHead_cons]

section Cutting

variable {σ : Type} {next : σ → Char → σ} {isCut : σ → Char → Bool}

/-- **The pieces stand between the positions that are cut at.** -/
theorem cutWhere_eq_stretches (next : σ → Char → σ) (isCut : σ → Char → Bool) (s : σ) (t : Text) :
    cutWhere next isCut s t =
      stretches t (positionsWhere (fun before c => isCut (before.foldl next s) c) t) := by
  induction t generalizing s with
  | nil => rfl
  | cons c t ih =>
    -- behind the first character the run starts in the next state
    have hrest := ih (next s c)
    rw [positionsWhere_cons, cutWhere, hrest]
    change _ = stretches (c :: t) ((if isCut s c then [0] else []) ++ _)
    cases isCut s c with
    | true => exact (stretches_cons_of_cut c t _).symm
    | false => exact (stretches_cons_of_keep c t _).symm

end Cutting

end Text

end SchemaIntake
