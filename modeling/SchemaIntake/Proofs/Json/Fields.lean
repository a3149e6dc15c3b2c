import Mathlib.Data.List.Perm.Basic
import SchemaIntake.Proofs.Json.Values

/-!
# Fields of objects

A field of a structure is looked up by its name.  So neither the order of the members nor members
with other names matter, at the top of a value or, where all its parts are looked up in this way,
at any depth.

## Main definitions

* `Json.field? members name` — the value of the only member with a name.
* `Json.IsRearranged names v w` — an object with its members in another order, and among them
  members with other names.
* `Json.IgnoresOrder read` — a reader that does not tell a value from one with sorted members.
* `Wire.IsReadBack names a` — a value is read back in whatever way it is written.

## Main results

* `Json.fields?_of_isRearranged`, `Json.fields?_sortKeys` — the fields of other ways to write.
* `Wire.isReadBack_of_fields` — **a structure that is read back from its JSON value is read back
  from its text, in whatever way this is written**.
-/

namespace SchemaIntake

open Text

namespace Json

/-! ### Lists that are read item by item -/

theorem mapM_congr {α β : Type} {xs : List α} {f g : α → Option β} (h : ∀ x ∈ xs, f x = g x) :
    xs.mapM f = xs.mapM g := by
  induction xs with
  | nil => rfl
  | cons x xs ih =>
    rw [List.mapM_cons, List.mapM_cons, h x List.mem_cons_self,
      ih fun y hy => h y (List.mem_cons_of_mem x hy)]

theorem mapM_map {α β γ : Type} (xs : List α) (f : α → Option β) (g : β → γ) :
    (xs.mapM fun x => (f x).map g) = (xs.mapM f).map (List.map g) := by
  induction xs with
  | nil => rfl
  | cons x xs ih =>
    rw [List.mapM_cons, List.mapM_cons, ih]
    cases f x with
    | none => rfl
    | some y => cases xs.mapM f <;> rfl

/-! ### Looking a field up -/

/-- The value of the only member with a name.  There is no answer where there are several. -/
def field? (members : List (Literal × Json)) (name : Text) : Option Field :=
  match members.filter (·.1 = some name) with
  | [] => some none
  | [member] => some (some member.2)
  | _ => none

theorem fields?_object (names : List Text) (members : List (Literal × Json)) :
    fields? names (.object members) =
      if members.all (·.1.isSome) then names.mapM (field? members) else none := rfl

variable {members others rearranged : List (Literal × Json)} {name : Text}

/-- The order of the members does not matter. -/
theorem field?_of_perm (h : rearranged.Perm members) :
    field? rearranged name = field? members name := by
  have hfilter := h.filter (·.1 = some name)
  unfold field?
  generalize rearranged.filter (·.1 = some name) = found at hfilter
  generalize members.filter (·.1 = some name) = found' at hfilter
  match found' with
  | [] => rw [List.perm_nil.mp hfilter]
  | [member] => rw [List.perm_singleton.mp hfilter]
  | a :: b :: rest =>
    have hlength := hfilter.length_eq
    match found with
    | [] => simp at hlength
    | [member] => simp at hlength
    | _ :: _ :: _ => rfl

/-- Members with other names do not matter. -/
theorem field?_append (h : ∀ m ∈ others, m.1 ≠ some name) :
    field? (members ++ others) name = field? members name := by
  have hothers : others.filter (·.1 = some name) = [] := by
    rw [List.filter_eq_nil_iff]
    intro m hm
    simpa using h m hm
  rw [field?, List.filter_append, hothers, List.append_nil, field?]

theorem field?_map (f : Json → Json) :
    field? (members.map fun m => (m.1, f m.2)) name = (field? members name).map (Option.map f) := by
  have hfilter : (members.map fun m => (m.1, f m.2)).filter (·.1 = some name) =
      (members.filter (·.1 = some name)).map fun m => (m.1, f m.2) := by
    rw [List.filter_map]
    rfl
  unfold field?
  rw [hfilter]
  generalize members.filter (·.1 = some name) = found
  match found with
  | [] => rfl
  | [member] => rfl
  | _ :: _ :: _ => rfl

/-! ### Other ways to write an object -/

/-- Another way to write an object: its members in any order, and among them any members with other
names than those given. -/
def IsRearranged (names : List Text) (v w : Json) : Prop :=
  ∃ members others rearranged, v = .object members ∧ w = .object rearranged ∧
    rearranged.Perm (members ++ others) ∧
    ∀ m ∈ others, m.2.IsWritable ∧ ∃ name, m.1 = some name ∧ name ∉ names

theorem fields?_of_isRearranged {names : List Text} {v w : Json} (h : IsRearranged names v w) :
    fields? names w = fields? names v := by
  obtain ⟨members, others, rearranged, rfl, rfl, hperm, hothers⟩ := h
  have hnamed : others.all (·.1.isSome) = true := by
    rw [List.all_eq_true]
    intro m hm
    obtain ⟨-, name, hname, -⟩ := hothers m hm
    simp [hname]
  -- foreign members have other names, and the order does not matter to a search for one name
  have hfield : ∀ name ∈ names, field? rearranged name = field? members name := by
    intro name hname
    rw [field?_of_perm hperm, field?_append]
    intro m hm heq
    obtain ⟨-, other, hother, hne⟩ := hothers m hm
    obtain rfl := Option.some.inj (hother.symm.trans heq)
    exact hne hname
  rw [fields?_object, fields?_object, hperm.all_eq, List.all_append, hnamed, Bool.and_true]
  rw [mapM_congr hfield]

/-! ### Sorting -/

theorem perm_insertMember (m : Literal × Json) (members : List (Literal × Json)) :
    (insertMember m members).Perm (m :: members) := by
  induction members with
  | nil => exact List.Perm.refl _
  | cons other rest ih =>
    rw [insertMember]
    split
    · exact List.Perm.refl _
    · exact (ih.cons other).trans (List.Perm.swap m other rest)

/-- To sort the members of an object is to sort in their values and then to put them in order. -/
theorem perm_sortMembers (members : List (Literal × Json)) :
    (sortMembers members).Perm (members.map fun m => (m.1, m.2.sortKeys)) := by
  induction members with
  | nil =>
    rw [sortMembers]
    exact List.Perm.refl _
  | cons member rest ih =>
    obtain ⟨name, value⟩ := member
    rw [sortMembers, List.map_cons]
    exact (perm_insertMember _ _).trans (ih.cons _)

theorem sortItems_eq (items : List Json) : sortItems items = items.map sortKeys := by
  induction items with
  | nil => rw [sortItems, List.map_nil]
  | cons item rest ih => rw [sortItems, ih, List.map_cons]

/-- The fields of a value with sorted members are those of the value, with sorted members. -/
theorem fields?_sortKeys (names : List Text) (v : Json) :
    fields? names v.sortKeys = (fields? names v).map (List.map (Option.map sortKeys)) := by
  cases v with
  | object members =>
    have hperm := perm_sortMembers members
    have hfield : ∀ name ∈ names, field? (sortMembers members) name =
        (field? members name).map (Option.map sortKeys) := fun name _ => by
      rw [field?_of_perm hperm, field?_map]
    rw [sortKeys, fields?_object, fields?_object, hperm.all_eq, List.all_map, mapM_congr hfield,
      mapM_map]
    change (if members.all (·.1.isSome) then _ else _) = _
    split <;> rfl
  | array items =>
    rw [sortKeys, sortItems_eq, fields?, fields?, List.length_map]
    split
    · simp [List.map_append, List.map_map, Function.comp_def]
    · rfl
  | null => rfl
  | bool b => rfl
  | number t => rfl
  | string s => rfl

/-! ### Readers that ignore the order of members -/

/-- A reader does not tell a value from the same value with its members sorted. -/
def IgnoresOrder {α : Type} (read : Json → Option α) : Prop := ∀ v, read v.sortKeys = read v

section Readers

variable {α : Type} {read : Json → Option α}

theorem ignoresOrder_text? : IgnoresOrder text? := by
  intro v
  cases v <;> rfl

theorem ignoresOrder_bool? : IgnoresOrder bool? := by
  intro v
  cases v <;> rfl

theorem ignoresOrder_natural? : IgnoresOrder natural? := by
  intro v
  cases v <;> rfl

theorem ignoresOrder_integer? : IgnoresOrder integer? := by
  intro v
  cases v <;> rfl

theorem oneOf?_of_length_ne {all : List α} {name : α → Text} {members : List (Literal × Json)}
    (h : members.length ≠ 1) : oneOf? all name (.object members) = none := by
  match members with
  | [] => rfl
  | [_] => exact absurd rfl h
  | (literal, value) :: _ :: _ => cases literal <;> cases value <;> rfl

theorem ignoresOrder_oneOf? (all : List α) (name : α → Text) : IgnoresOrder (oneOf? all name) := by
  intro v
  match v with
  | .null | .bool _ | .number _ | .string _ => rfl
  | .array items => rw [sortKeys, oneOf?, oneOf?] <;> exact nofun
  | .object [] => rfl
  | .object [(literal, value)] =>
    cases literal with
    | none => cases value <;> rfl
    | some t => cases value <;> rfl
  | .object (a :: b :: rest) =>
    have hlength := (perm_sortMembers (a :: b :: rest)).length_eq
    rw [List.length_map] at hlength
    rw [sortKeys, oneOf?_of_length_ne (by simp [hlength]), oneOf?_of_length_ne (by simp)]

theorem IgnoresOrder.list? (h : IgnoresOrder read) : IgnoresOrder (Json.list? read) := by
  intro v
  cases v with
  | array items =>
    rw [sortKeys, sortItems_eq, Json.list?, Json.list?, List.mapM_map]
    exact mapM_congr fun item _ => h item
  | _ => rfl

theorem IgnoresOrder.required (h : IgnoresOrder read) (field : Field) :
    Field.required read (field.map sortKeys) = Field.required read field := by
  cases field with
  | none => rfl
  | some v => exact h v

theorem IgnoresOrder.withDefault (h : IgnoresOrder read) (default : α) (field : Field) :
    Field.withDefault default read (field.map sortKeys) = Field.withDefault default read field := by
  cases field with
  | none => rfl
  | some v => exact h v

theorem IgnoresOrder.optional (h : IgnoresOrder read) (field : Field) :
    Field.optional read (field.map sortKeys) = Field.optional read field := by
  cases field with
  | none => rfl
  | some v =>
    have hv := congrArg (Option.map some) (h v)
    cases v <;> first | rfl | exact hv

/-- A structure is read from its fields, each of them in a way that ignores the order. -/
theorem ignoresOrder_of_fields {names : List Text} {read : List Field → Option α}
    (h : ∀ fields, read (fields.map (Option.map sortKeys)) = read fields) :
    IgnoresOrder fun v => (fields? names v).bind read := by
  intro v
  dsimp only
  rw [fields?_sortKeys]
  cases fields? names v with
  | none => rfl
  | some fields => exact h fields

end Readers

/-! ### Numbers stay numbers -/

mutual

/-- To sort the members of a value does not touch its numbers. -/
theorem isWritable_sortKeys : ∀ v : Json, v.IsWritable → v.sortKeys.IsWritable
  | .null, _ | .bool _, _ | .string _, _ => by simp [sortKeys, IsWritable]
  | .number _, h => by simpa [sortKeys] using h
  | .array items, h => by
    rw [IsWritable] at h
    rw [sortKeys, IsWritable]
    exact areItemsWritable_sortItems items h
  | .object members, h => by
    rw [IsWritable] at h
    rw [sortKeys, IsWritable]
    exact areMembersWritable_sortMembers members h

theorem areItemsWritable_sortItems :
    ∀ items : List Json, AreItemsWritable items → AreItemsWritable (sortItems items)
  | [], _ => by simp [sortItems, AreItemsWritable]
  | item :: rest, h => by
    rw [AreItemsWritable] at h
    rw [sortItems, AreItemsWritable]
    exact ⟨isWritable_sortKeys item h.1, areItemsWritable_sortItems rest h.2⟩

theorem areMembersWritable_sortMembers :
    ∀ members : List (Literal × Json), AreMembersWritable members →
      AreMembersWritable (sortMembers members)
  | [], _ => by simp [sortMembers, AreMembersWritable]
  | (name, value) :: rest, h => by
    rw [AreMembersWritable] at h
    have hvalue := isWritable_sortKeys value h.1
    have hrest := areMembersWritable_sortMembers rest h.2
    rw [sortMembers, areMembersWritable_iff]
    intro m hm
    rcases List.mem_cons.mp ((perm_insertMember _ _).mem_iff.mp hm) with rfl | hm
    · exact hvalue
    · exact areMembersWritable_iff.mp hrest m hm

end

theorem isWritable_of_isRearranged {names : List Text} {v w : Json} (h : IsRearranged names v w)
    (hv : v.IsWritable) : w.IsWritable := by
  obtain ⟨members, others, rearranged, rfl, rfl, hperm, hothers⟩ := h
  rw [IsWritable, areMembersWritable_iff] at hv ⊢
  intro m hm
  rcases List.mem_append.mp (hperm.mem_iff.mp hm) with hm | hm
  · exact hv m hm
  · exact (hothers m hm).1

end Json

namespace Wire

variable {α : Type} [Wire α]

/-- A value is read back in whatever way it is written: in both layouts, with its members sorted or
not, with the members at the top in any order and with any members under other names. -/
def IsReadBack (names : List Text) (a : α) : Prop :=
  ∀ v, v = encode a ∨ v = (encode a).sortKeys → ∀ layout,
    ofText? (v.render layout) = some a ∧
      ∀ w, Json.IsRearranged names v w → ofText? (w.render layout) = some a

theorem ofText?_render {v : Json} (hv : v.IsWritable) (layout : Json.Layout) :
    ofText? (α := α) (v.render layout) = decode? v := by
  have hparse := Json.parse?_render layout hv (t := []) (by simp)
  rw [List.append_nil] at hparse
  rw [ofText?, hparse, Option.bind_some]

/-- A structure that is read back from its JSON value is read back from its text, in whatever way
this is written. -/
theorem isReadBack_of_fields {names : List Text} {read : List Json.Field → Option α}
    (hdecode : ∀ v, decode? v = (Json.fields? names v).bind read)
    (horder : Json.IgnoresOrder (decode? (α := α))) {a : α}
    (hwritable : (encode a).IsWritable) (hback : decode? (encode a) = some a) :
    IsReadBack names a := by
  intro v hv layout
  have hv : v.IsWritable ∧ decode? v = some a := by
    rcases hv with rfl | rfl
    · exact ⟨hwritable, hback⟩
    · exact ⟨Json.isWritable_sortKeys _ hwritable, (horder _).trans hback⟩
  refine ⟨(ofText?_render hv.1 layout).trans hv.2, fun w hw => ?_⟩
  rw [ofText?_render (Json.isWritable_of_isRearranged hw hv.1) layout, hdecode,
    Json.fields?_of_isRearranged hw, ← hdecode, hv.2]

end Wire

end SchemaIntake
