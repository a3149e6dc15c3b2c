import SchemaIntake.Proofs.Json.Literals

/-!
# JSON values are read back

A value that is written in either layout is read back, whatever stands behind it, as long as its
numbers are numbers.  The count of steps that the reader is given is enough: a value takes no more
than two for each of its characters.

## Main definitions

* `Json.IsWritable v` — all numbers in a value are numbers.

## Main results

* `Json.readValue_renderAt` — a written value is read in front of any text that ends numbers.
* `Json.parse?_render` — **a written value is read back**.
-/

namespace SchemaIntake

open Text

namespace Json

/-! ### Values that can be written -/

mutual

/-- All numbers in a value are numbers. -/
def IsWritable : Json → Prop
  | .null => True
  | .bool _ => True
  | .number t => IsNumber t
  | .string _ => True
  | .array items => AreItemsWritable items
  | .object members => AreMembersWritable members

/-- All numbers in some items are numbers. -/
def AreItemsWritable : List Json → Prop
  | [] => True
  | item :: rest => item.IsWritable ∧ AreItemsWritable rest

/-- All numbers in the values of some members are numbers. -/
def AreMembersWritable : List (Literal × Json) → Prop
  | [] => True
  | (_, value) :: rest => value.IsWritable ∧ AreMembersWritable rest

end

theorem areItemsWritable_iff {items : List Json} :
    AreItemsWritable items ↔ ∀ v ∈ items, v.IsWritable := by
  induction items with
  | nil => simp [AreItemsWritable]
  | cons item rest ih => simp [AreItemsWritable, ih]

theorem areMembersWritable_iff {members : List (Literal × Json)} :
    AreMembersWritable members ↔ ∀ m ∈ members, m.2.IsWritable := by
  induction members with
  | nil => simp [AreMembersWritable]
  | cons member rest ih => simp [AreMembersWritable, ih]

/-! ### White space -/

section Gaps

variable (layout : Layout) (level : Nat) (t : Text)

theorem skipGap_cons {c : Char} (hc : isGap c = false) : skipGap (c :: t) = c :: t :=
  List.dropWhile_cons_of_neg (by simp [hc])

theorem skipGap_gap : skipGap (layout.gap level ++ t) = skipGap t := by
  cases layout with
  | compact => rfl
  | indented =>
    have hspaces : ∀ n, skipGap (List.replicate n ' ' ++ t) = skipGap t := by
      intro n
      induction n with
      | zero => rfl
      | succ n ih =>
        rw [List.replicate_succ, List.cons_append, skipGap, List.dropWhile_cons_of_pos (by decide)]
        exact ih
    rw [Layout.gap, List.cons_append, skipGap, List.dropWhile_cons_of_pos (by decide)]
    exact hspaces (2 * level)

theorem skipGap_afterColon : skipGap (layout.afterColon ++ t) = skipGap t := by
  cases layout <;> rfl

/-- What stands before a closing bracket or a comma ends a number. -/
theorem endsNumber_gap {t : Text} (h : EndsNumber t) : EndsNumber (layout.gap level ++ t) := by
  cases layout with
  | compact => exact h
  | indented => exact endsNumber_cons (by decide) _

variable {t}

/-- The reader of values does not look at white space. -/
theorem readValue_congr {u : Text} (h : skipGap t = skipGap u) (n : Nat) :
    readValue n t = readValue n u := by
  cases n with
  | zero => simp [readValue]
  | succ n => rw [readValue, readValue, h]

theorem readName_congr {u : Text} (h : skipGap t = skipGap u) : readName t = readName u := by
  rw [readName, readName, h]

theorem readItems_congr {u : Text} (h : skipGap t = skipGap u) (n : Nat) :
    readItems n t = readItems n u := by
  cases n with
  | zero => simp [readItems]
  | succ n => rw [readItems, readItems, readValue_congr h]

theorem readMembers_congr {u : Text} (h : skipGap t = skipGap u) (n : Nat) :
    readMembers n t = readMembers n u := by
  cases n with
  | zero => simp [readMembers]
  | succ n => rw [readMembers, readMembers, readName_congr h]

end Gaps

/-! ### The first character -/

/-- The characters that white space, brackets, strings and words start with. -/
def otherStarts : List Char := [' ', '\n', '\r', '\t', '[', ']', '{', '"', 'n', 't', 'f']

/-- None of them starts a number. -/
theorem not_mem_otherStarts {c : Char} (hc : c = '-' ∨ isDigit c = true) : c ∉ otherStarts := by
  have hall : otherStarts.all (fun d => !(d == '-' || isDigit d)) = true := by decide
  intro hmem
  have hc' := List.all_eq_true.mp hall c hmem
  rcases hc with rfl | hc
  · exact absurd hc' (by decide)
  · simp [hc] at hc'

/-- The first character of a value tells that it is neither white space nor the end of an array. -/
theorem exists_cons_renderAt (layout : Layout) (level : Nat) {v : Json} (hv : v.IsWritable) :
    ∃ c t, renderAt layout level v = c :: t ∧ isGap c = false ∧ c ≠ ']' := by
  cases v with
  | null => exact ⟨_, _, rfl, by decide, by decide⟩
  | bool b => cases b <;> exact ⟨_, _, rfl, by decide, by decide⟩
  | number written =>
    obtain ⟨c, t, rfl, hc⟩ := exists_cons_of_isNumber hv
    have hother := not_mem_otherStarts hc
    simp only [otherStarts, List.mem_cons, not_or] at hother
    exact ⟨c, t, rfl, by simp [isGap, hother], by simp [hother]⟩
  | string s =>
    obtain ⟨body, hbody, -⟩ := exists_stringLiteral_eq s
    exact ⟨'"', body, hbody, by decide, by decide⟩
  | array items => cases items <;> exact ⟨_, _, rfl, by decide, by decide⟩
  | object members =>
    cases members with
    | nil => exact ⟨_, _, rfl, by decide, by decide⟩
    | cons member rest => exact ⟨_, _, rfl, by decide, by decide⟩

/-! ### Values without parts -/

section Scalars

variable (n : Nat) (rest : Text)

/-- A value that starts with neither bracket has no parts. -/
theorem readValue_scalar {c : Char} (hgap : isGap c = false) (hbracket : c ≠ '[')
    (hbrace : c ≠ '{') (t : Text) : readValue (n + 1) (c :: t) = readScalar (c :: t) := by
  rw [readValue, skipGap_cons t hgap]
  split
  · next heq => exact absurd (List.cons.inj heq).1 hbracket
  · next heq => exact absurd (List.cons.inj heq).1 hbrace
  · rfl

theorem readValue_number {written : Text} (hnumber : IsNumber written) (hrest : EndsNumber rest) :
    readValue (n + 1) (written ++ rest) = some (.number written, rest) := by
  have hread : readNumber (written ++ rest) = some (written, rest) :=
    readNumber_append hrest hnumber
  obtain ⟨c, t, rfl, hc⟩ := exists_cons_of_isNumber hnumber
  have hother := not_mem_otherStarts hc
  simp only [otherStarts, List.mem_cons, not_or] at hother
  rw [List.cons_append] at hread ⊢
  rw [readValue_scalar n (by simp [isGap, hother]) (by simp [hother]) (by simp [hother]),
    readScalar]
  · rw [hread]
    rfl
  all_goals simp [hother]

theorem readValue_string (s : Literal) :
    readValue (n + 1) (stringLiteral s ++ rest) = some (.string s, rest) := by
  obtain ⟨body, hbody, hread⟩ := exists_stringLiteral_eq s
  rw [hbody, List.cons_append, readValue_scalar n (by decide) (by decide) (by decide), readScalar,
    hread]
  rfl

theorem readName_stringLiteral (s : Literal) :
    readName (stringLiteral s ++ ':' :: rest) = some (s, rest) := by
  obtain ⟨body, hbody, hread⟩ := exists_stringLiteral_eq s
  rw [hbody, List.cons_append, readName, skipGap_cons _ (by decide)]
  simp only [hread, Option.bind_some, skipGap_cons rest (show isGap ':' = false by decide)]

end Scalars

/-! ### Values with parts -/

theorem readValue_array (n : Nat) {t : Text} (ht : (skipGap t).head? ≠ some ']') :
    readValue (n + 1) ('[' :: t) = (readItems n t).map fun r => (.array r.1, r.2) := by
  rw [readValue, skipGap_cons _ (by decide)]
  split
  · next heq =>
    obtain rfl := (List.cons.inj heq).2
    split
    · next hclosed => exact absurd (by rw [hclosed]; rfl) ht
    · rfl
  · next heq => exact absurd (List.cons.inj heq).1 (by decide)
  · next hne _ => exact absurd rfl (hne t)

theorem readValue_object (n : Nat) {t : Text} (ht : (skipGap t).head? ≠ some '}') :
    readValue (n + 1) ('{' :: t) = (readMembers n t).map fun r => (.object r.1, r.2) := by
  rw [readValue, skipGap_cons _ (by decide)]
  split
  · next heq => exact absurd (List.cons.inj heq).1 (by decide)
  · next heq =>
    obtain rfl := (List.cons.inj heq).2
    split
    · next hclosed => exact absurd (by rw [hclosed]; rfl) ht
    · rfl
  · next _ hne => exact absurd rfl (hne t)

theorem readItems_last {n : Nat} {t after rest : Text} {item : Json}
    (hitem : readValue n t = some (item, after)) (hafter : skipGap after = ']' :: rest) :
    readItems (n + 1) t = some ([item], rest) := by
  rw [readItems, hitem, Option.bind_some]
  dsimp only
  rw [hafter]
  rfl

theorem readItems_more {n : Nat} {t after rest : Text} {item : Json}
    (hitem : readValue n t = some (item, after)) (hafter : skipGap after = ',' :: rest) :
    readItems (n + 1) t = (readItems n rest).map fun r => (item :: r.1, r.2) := by
  rw [readItems, hitem, Option.bind_some]
  dsimp only
  rw [hafter]
  rfl

theorem readMembers_last {n : Nat} {t u after rest : Text} {name : Literal} {value : Json}
    (hname : readName t = some (name, u)) (hvalue : readValue n u = some (value, after))
    (hafter : skipGap after = '}' :: rest) :
    readMembers (n + 1) t = some ([(name, value)], rest) := by
  rw [readMembers, hname, Option.bind_some, hvalue, Option.bind_some]
  dsimp only
  rw [hafter]
  rfl

theorem readMembers_more {n : Nat} {t u after rest : Text} {name : Literal} {value : Json}
    (hname : readName t = some (name, u)) (hvalue : readValue n u = some (value, after))
    (hafter : skipGap after = ',' :: rest) :
    readMembers (n + 1) t = (readMembers n rest).map fun r => ((name, value) :: r.1, r.2) := by
  rw [readMembers, hname, Option.bind_some, hvalue, Option.bind_some]
  dsimp only
  rw [hafter]
  rfl

theorem renderItems_cons (layout : Layout) (level : Nat) (item : Json) (items : List Json) :
    renderItems layout level (item :: items) =
      ',' :: (layout.gap level ++
        (renderAt layout level item ++ renderItems layout level items)) := by
  rw [renderItems]

theorem renderMembers_cons (layout : Layout) (level : Nat) (name : Literal) (value : Json)
    (members : List (Literal × Json)) :
    renderMembers layout level ((name, value) :: members) =
      ',' :: (layout.gap level ++ (stringLiteral name ++ (':' :: (layout.afterColon ++
        (renderAt layout level value ++ renderMembers layout level members))))) := by
  rw [renderMembers]

/-- An array is its opening bracket, its items without the first comma, and its closing bracket. -/
theorem renderAt_array_cons (layout : Layout) (level : Nat) (item : Json) (items : List Json) :
    renderAt layout level (.array (item :: items)) =
      '[' :: ((renderItems layout (level + 1) (item :: items)).tail ++
        (layout.gap level ++ [']'])) := by
  rw [renderAt, renderItems_cons, List.tail_cons]
  simp only [List.append_assoc]

/-- An object is its opening brace, its members without the first comma, and its closing brace. -/
theorem renderAt_object_cons (layout : Layout) (level : Nat) (member : Literal × Json)
    (members : List (Literal × Json)) :
    renderAt layout level (.object (member :: members)) =
      '{' :: ((renderMembers layout (level + 1) (member :: members)).tail ++
        (layout.gap level ++ ['}'])) := by
  obtain ⟨name, value⟩ := member
  rw [renderAt, renderMembers_cons, List.tail_cons]
  simp only [List.append_assoc, List.cons_append]

theorem skipGap_gap_cons (layout : Layout) (level : Nat) {c : Char} (hc : isGap c = false)
    (rest : Text) : skipGap (layout.gap level ++ c :: rest) = c :: rest := by
  rw [skipGap_gap, skipGap_cons _ hc]

/-- What follows an item or the value of a member ends a number. -/
theorem endsNumber_renderItems (layout : Layout) (level level' : Nat) (items : List Json)
    (rest : Text) :
    EndsNumber (renderItems layout level items ++ (layout.gap level' ++ ']' :: rest)) := by
  cases items with
  | nil => exact endsNumber_gap layout level' (endsNumber_cons (by decide) rest)
  | cons item items =>
    rw [renderItems_cons, List.cons_append]
    exact endsNumber_cons (by decide) _

theorem endsNumber_renderMembers (layout : Layout) (level level' : Nat)
    (members : List (Literal × Json)) (rest : Text) :
    EndsNumber (renderMembers layout level members ++ (layout.gap level' ++ '}' :: rest)) := by
  cases members with
  | nil => exact endsNumber_gap layout level' (endsNumber_cons (by decide) rest)
  | cons member members =>
    obtain ⟨name, value⟩ := member
    rw [renderMembers_cons, List.cons_append]
    exact endsNumber_cons (by decide) _

mutual

/-- **A written value is read in front of any text that ends numbers.** -/
theorem readValue_renderAt (layout : Layout) (level : Nat) :
    ∀ (v : Json) {n : Nat} {rest : Text}, v.IsWritable → EndsNumber rest →
      2 * (renderAt layout level v).length ≤ n →
        readValue n (renderAt layout level v ++ rest) = some (v, rest)
  | v, 0, rest, hv, _, hn => by
    obtain ⟨c, t, hc, -⟩ := exists_cons_renderAt layout level hv
    rw [hc, List.length_cons] at hn
    omega
  | .null, n + 1, rest, _, _, _ => by
    rw [renderAt]
    rfl
  | .bool true, n + 1, rest, _, _, _ => by
    rw [renderAt]
    rfl
  | .bool false, n + 1, rest, _, _, _ => by
    rw [renderAt]
    rfl
  | .number written, n + 1, rest, hv, hrest, _ => by
    rw [renderAt]
    exact readValue_number n rest hv hrest
  | .string s, n + 1, rest, _, _, _ => by
    rw [renderAt]
    exact readValue_string n rest s
  | .array [], n + 1, rest, _, _, _ => by
    rw [renderAt]
    rfl
  | .array (item :: items), n + 1, rest, hv, _, hn => by
    rw [renderAt_array_cons] at hn ⊢
    have hlength : 2 * (renderItems layout (level + 1) (item :: items)).length ≤ n + 1 := by
      simp only [List.length_cons, List.length_append, List.length_tail, List.length_nil] at hn
      omega
    have hitems : readItems n ((renderItems layout (level + 1) (item :: items)).tail ++
        (layout.gap level ++ ']' :: rest)) = some (item :: items, rest) :=
      readItems_renderItems layout (level + 1) (item :: items) (List.cons_ne_nil _ _) hv hlength
    -- the reader must not take what comes next for the end of an empty array
    have hfirst : (skipGap ((renderItems layout (level + 1) (item :: items)).tail ++
        (layout.gap level ++ ']' :: rest))).head? ≠ some ']' := by
      obtain ⟨c, t, hc, hgap, hne⟩ := exists_cons_renderAt layout (level + 1) hv.1
      rw [renderItems_cons, List.tail_cons, List.append_assoc, skipGap_gap, hc]
      simp only [List.cons_append, skipGap_cons _ hgap, List.head?_cons]
      exact fun h => hne (Option.some.inj h)
    simp only [List.cons_append, List.append_assoc, List.nil_append]
    rw [readValue_array n hfirst, hitems]
    rfl
  | .object [], n + 1, rest, _, _, _ => by
    rw [renderAt]
    rfl
  | .object ((name, value) :: members), n + 1, rest, hv, _, hn => by
    rw [renderAt_object_cons] at hn ⊢
    have hlength : 2 * (renderMembers layout (level + 1) ((name, value) :: members)).length ≤
        n + 1 := by
      simp only [List.length_cons, List.length_append, List.length_tail, List.length_nil] at hn
      omega
    have hmembers : readMembers n
        ((renderMembers layout (level + 1) ((name, value) :: members)).tail ++
          (layout.gap level ++ '}' :: rest)) = some ((name, value) :: members, rest) :=
      readMembers_renderMembers layout (level + 1) ((name, value) :: members)
        (List.cons_ne_nil _ _) hv hlength
    -- nor for that of an empty object
    have hfirst : (skipGap ((renderMembers layout (level + 1) ((name, value) :: members)).tail ++
        (layout.gap level ++ '}' :: rest))).head? ≠ some '}' := by
      obtain ⟨body, hbody, -⟩ := exists_stringLiteral_eq name
      rw [renderMembers_cons, List.tail_cons, List.append_assoc, skipGap_gap, hbody]
      simp only [List.cons_append, skipGap_cons _ (show isGap '"' = false by decide),
        List.head?_cons]
      decide
    simp only [List.cons_append, List.append_assoc, List.nil_append]
    rw [readValue_object n hfirst, hmembers]
    rfl

/-- The written items of an array, after the comma that stands before the first one, are read
through the closing bracket. -/
theorem readItems_renderItems (layout : Layout) (level : Nat) :
    ∀ (items : List Json) {n level' : Nat} {rest : Text}, items ≠ [] → AreItemsWritable items →
      2 * (renderItems layout level items).length ≤ n + 1 →
        readItems n ((renderItems layout level items).tail ++ (layout.gap level' ++ ']' :: rest)) =
          some (items, rest)
  | [], n, level', rest, hne, _, _ => absurd rfl hne
  | item :: items, 0, level', rest, _, _, hn => by
    rw [renderItems_cons, List.length_cons] at hn
    omega
  -- the fuel is spent on the first item and on the others in turn
  | item :: items, n + 1, level', rest, _, hv, hn => by
    rw [renderItems_cons, List.length_cons] at hn
    simp only [List.length_append] at hn
    have hitem := readValue_renderAt layout level item (n := n) hv.1
      (endsNumber_renderItems layout level level' items rest) (by omega)
    rw [renderItems_cons, List.tail_cons, List.append_assoc, List.append_assoc,
      readItems_congr (skipGap_gap layout level _)]
    cases items with
    | nil => exact readItems_last hitem (skipGap_gap_cons layout level' (by decide) rest)
    | cons next items =>
      have hrest : readItems n ((renderItems layout level (next :: items)).tail ++
          (layout.gap level' ++ ']' :: rest)) = some (next :: items, rest) :=
        readItems_renderItems layout level (next :: items) (List.cons_ne_nil _ _) hv.2 (by omega)
      have hcomma : skipGap (renderItems layout level (next :: items) ++
          (layout.gap level' ++ ']' :: rest)) =
            ',' :: ((renderItems layout level (next :: items)).tail ++
              (layout.gap level' ++ ']' :: rest)) := by
        rw [renderItems_cons, List.cons_append, skipGap_cons _ (by decide)]
        rfl
      rw [readItems_more hitem hcomma, hrest]
      rfl

/-- The written members of an object, after the comma that stands before the first one, are read
through the closing brace. -/
theorem readMembers_renderMembers (layout : Layout) (level : Nat) :
    ∀ (members : List (Literal × Json)) {n level' : Nat} {rest : Text}, members ≠ [] →
      AreMembersWritable members → 2 * (renderMembers layout level members).length ≤ n + 1 →
        readMembers n
          ((renderMembers layout level members).tail ++ (layout.gap level' ++ '}' :: rest)) =
            some (members, rest)
  | [], n, level', rest, hne, _, _ => absurd rfl hne
  | (name, value) :: members, 0, level', rest, _, _, hn => by
    rw [renderMembers_cons, List.length_cons] at hn
    omega
  | (name, value) :: members, n + 1, level', rest, _, hv, hn => by
    rw [renderMembers_cons, List.length_cons] at hn
    simp only [List.length_append, List.length_cons] at hn
    have hvalue := readValue_renderAt layout level value (n := n) hv.1
      (endsNumber_renderMembers layout level level' members rest) (by omega)
    rw [← readValue_congr (skipGap_afterColon layout _)] at hvalue
    rw [renderMembers_cons, List.tail_cons, List.append_assoc,
      readMembers_congr (skipGap_gap layout level _)]
    simp only [List.append_assoc, List.cons_append]
    cases members with
    | nil =>
      exact readMembers_last (readName_stringLiteral _ name) hvalue
        (skipGap_gap_cons layout level' (by decide) rest)
    | cons next members =>
      have hrest : readMembers n ((renderMembers layout level (next :: members)).tail ++
          (layout.gap level' ++ '}' :: rest)) = some (next :: members, rest) :=
        readMembers_renderMembers layout level (next :: members) (List.cons_ne_nil _ _) hv.2
          (by omega)
      have hcomma : skipGap (renderMembers layout level (next :: members) ++
          (layout.gap level' ++ '}' :: rest)) =
            ',' :: ((renderMembers layout level (next :: members)).tail ++
              (layout.gap level' ++ '}' :: rest)) := by
        rw [renderMembers_cons, List.cons_append, skipGap_cons _ (by decide)]
        rfl
      rw [readMembers_more (readName_stringLiteral _ name) hvalue hcomma, hrest]
      rfl

end

/-- **A written value is read back**, also with white space behind it. -/
theorem parse?_render (layout : Layout) {v : Json} (hv : v.IsWritable) {t : Text}
    (ht : ∀ c ∈ t, isGap c = true) : parse? (v.render layout ++ t) = some v := by
  have hrest : EndsNumber t := by
    intro c hc
    have hgap := ht c (List.mem_of_mem_head? hc)
    have hall : ∀ c, isGap c = true → isDigit c = false ∧ c ≠ '.' ∧ c ≠ 'e' ∧ c ≠ 'E' := by
      intro c hc
      simp only [isGap, Bool.or_eq_true, beq_iff_eq] at hc
      rcases hc with ((rfl | rfl) | rfl) | rfl <;> decide
    exact hall c hgap
  have hskip : skipGap t = [] := List.dropWhile_eq_nil_iff.mpr ht
  have hlength : 2 * (renderAt layout 0 v).length ≤ 2 * (renderAt layout 0 v ++ t).length + 1 := by
    rw [List.length_append]
    omega
  rw [parse?, render, readValue_renderAt layout 0 v hv hrest hlength, Option.bind_some, hskip]
  rfl

end Json

end SchemaIntake
