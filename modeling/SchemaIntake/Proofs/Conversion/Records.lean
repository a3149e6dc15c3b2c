import Mathlib.Tactic.Tauto
import SchemaIntake.Conversion.Session

/-!
# Changes to records

A record is changed in three ways once it has been created: work on it starts, it comes to a
design, or it comes to none.  Every call that changes a record makes one of these changes to the
record with a given id and leaves all others alone.

## Main definitions

* `Change`, `Change.apply` — a change, and what it makes of a record.
* `Conversion.changed c changes`, `Store.changed store id changes` — some changes in order, to a
  record and to the record of a conversion in a store.

## Main results

* `Store.updateFirst_cases` — what a change of one record does to the records.
* `Store.get?_changed`, `Store.get?_add` — what is found in a store after some changes, and once a
  record has been added.
* `Session.markProcessing_eq`, `Session.markCompleted_eq`, `Session.markFailed_eq` — a call fails
  or makes its one change.
-/

namespace SchemaIntake

open Text

/-! ### Changes -/

/-- A change that a call makes to the record of a conversion. -/
inductive Change
  /-- Work on the conversion starts. -/
  | started
  /-- The conversion has come to a design. -/
  | completed (design : Text)
  /-- The conversion has come to no design. -/
  | failed (message : Text)
deriving DecidableEq, Repr

def Change.apply : Change → Conversion → Conversion
  | started, c => { c with status := .processing }
  | completed design, c =>
    { c with status := .completed, result := some design, errorMessage := none }
  | failed message, c => { c with status := .failed, errorMessage := some message }

/-- The status after a change, which does not depend on the one before. -/
def Change.status : Change → Status
  | started => .processing
  | completed _ => .completed
  | failed _ => .failed

@[simp] theorem Change.status_apply (change : Change) (c : Conversion) :
    (change.apply c).status = change.status := by
  cases change <;> rfl

@[simp] theorem Change.id_apply (change : Change) (c : Conversion) :
    (change.apply c).id = c.id := by
  cases change <;> rfl

def Conversion.changed (c : Conversion) (changes : List Change) : Conversion :=
  changes.foldl (fun c change => change.apply c) c

@[simp] theorem Conversion.changed_nil (c : Conversion) : c.changed [] = c := rfl

@[simp] theorem Conversion.changed_cons (c : Conversion) (change : Change)
    (changes : List Change) : c.changed (change :: changes) = (change.apply c).changed changes :=
  rfl

theorem Conversion.changed_append (c : Conversion) (first second : List Change) :
    c.changed (first ++ second) = (c.changed first).changed second := by
  rw [Conversion.changed, List.foldl_append]
  rfl

/-! ### Stores -/

namespace Store

variable {id : Text} {change : Conversion → Conversion}

/-- **What a change of one record does to the records**: nothing where there is no such record, and
otherwise it puts the changed record in the place of the first one with the id. -/
theorem updateFirst_cases (records : List Conversion) :
    ((∀ c ∈ records, c.id ≠ id) ∧ updateFirst id change records = records) ∨
      ∃ before c after, records = before ++ c :: after ∧ c.id = id ∧
        (∀ b ∈ before, b.id ≠ id) ∧
          updateFirst id change records = before ++ change c :: after := by
  induction records with
  | nil => exact Or.inl ⟨by simp, rfl⟩
  | cons c rest ih =>
    rw [updateFirst]
    by_cases hc : c.id = id
    · rw [if_pos hc]
      exact Or.inr ⟨[], c, rest, rfl, hc, by simp, rfl⟩
    · rw [if_neg hc]
      rcases ih with ⟨hnone, hrest⟩ | ⟨before, c', after, rfl, hid, hbefore, hrest⟩
      · exact Or.inl ⟨by simpa [hc] using hnone, by rw [hrest]⟩
      · refine Or.inr ⟨c :: before, c', after, rfl, hid, ?_, by rw [hrest, List.cons_append]⟩
        simpa [hc] using hbefore

/-- A change of the first record with an id shows wherever that record is looked up, and nowhere
else. -/
theorem find?_updateFirst (hid : ∀ c : Conversion, c.id = id → (change c).id = id)
    (records : List Conversion) (other : Text) :
    (updateFirst id change records).find? (·.id = other) =
      if other = id then (records.find? (·.id = id)).map change
      else records.find? (·.id = other) := by
  induction records with
  | nil => simp [updateFirst]
  | cons c rest ih =>
    rw [updateFirst]
    -- whether the first record is the one that changes, and whether it is the one that is looked up
    by_cases hc : c.id = id
    · rw [if_pos hc]
      by_cases hother : other = id
      · simp [hid c hc, hc, hother]
      · have hne : id ≠ other := Ne.symm hother
        simp [hid c hc, hc, hne, hother]
    · rw [if_neg hc]
      by_cases hother : other = id
      · rw [if_pos hother] at ih ⊢
        subst hother
        simp [hc, ih]
      · rw [if_neg hother] at ih ⊢
        by_cases hfound : c.id = other
        · simp [hfound]
        · simp [hfound, ih]

theorem get?_eq_none_iff {store : Store} :
    store.get? id = none ↔ ∀ c ∈ store.records, c.id ≠ id := by
  simp [get?]

/-- **What is found once a record has been added**: that record under its id, and every other record
as it was. -/
theorem get?_add (store : Store) (c : Conversion) (id : Text) :
    (store.add c).get? id = if id = c.id then some c else store.get? id := by
  rw [get?, add]
  cases hfound : store.get? c.id with
  | some old =>
    -- the old record with the id has made way
    rw [Option.isSome_some, if_pos rfl, find?_updateFirst fun _ _ => rfl, ← get?, ← get?, hfound]
    rfl
  | none =>
    rw [Option.isSome_none, if_neg Bool.false_ne_true, List.find?_append, ← get?]
    by_cases hid : id = c.id
    · rw [if_pos hid, hid, hfound]
      simp
    · rw [if_neg hid, List.find?_singleton, if_neg (by simpa using Ne.symm hid), Option.or_none]

/-- A record with a new id comes behind all others. -/
theorem records_add_of_get?_eq_none {store : Store} {c : Conversion} (h : store.get? c.id = none) :
    (store.add c).records = store.records ++ [c] := by
  rw [add, h]
  rfl

/-- Whatever its id, adding a record brings no other one in. -/
theorem eq_or_mem_of_mem_records_add {store : Store} {c c' : Conversion}
    (h : c' ∈ (store.add c).records) : c' = c ∨ c' ∈ store.records := by
  rw [add] at h
  cases hfound : (store.get? c.id).isSome with
  | false =>
    rw [hfound] at h
    simpa [or_comm] using h
  | true =>
    rw [hfound, if_pos rfl] at h
    rcases updateFirst_cases store.records with ⟨-, hsame⟩ | ⟨b, old, a, hsplit, -, -, hone⟩
    · rw [hsame] at h
      exact Or.inr h
    · rw [hone] at h
      rw [hsplit]
      simp only [List.mem_append, List.mem_cons] at h ⊢
      tauto

/-- The store after some changes to the record of a conversion.  Where there is no such record,
nothing changes. -/
def changed (store : Store) (id : Text) (changes : List Change) : Store :=
  changes.foldl (fun store change =>
    { store with records := updateFirst id change.apply store.records }) store

@[simp] theorem changed_nil (store : Store) (id : Text) : store.changed id [] = store := rfl

theorem changed_cons (store : Store) (id : Text) (change : Change) (changes : List Change) :
    store.changed id (change :: changes) =
      changed { store with records := updateFirst id change.apply store.records } id changes := rfl

/-- Changes draw no id. -/
@[simp] theorem drawn_changed (store : Store) (id : Text) (changes : List Change) :
    (store.changed id changes).drawn = store.drawn := by
  induction changes generalizing store with
  | nil => rfl
  | cons change changes ih => rw [changed_cons, ih]

/-- **What is found after some changes**: the changed record under its id, and every other record
as it was. -/
theorem get?_changed (store : Store) (id other : Text) (changes : List Change) :
    (store.changed id changes).get? other =
      if other = id then (store.get? id).map (·.changed changes) else store.get? other := by
  induction changes generalizing store with
  | nil =>
    rw [changed_nil]
    split
    · next h => simp [h]
    · rfl
  | cons change changes ih =>
    have hid : ∀ c : Conversion, c.id = id → (change.apply c).id = id :=
      fun c hc => (change.id_apply c).trans hc
    rw [changed_cons, ih, get?, get?, find?_updateFirst hid, find?_updateFirst hid, ← get?]
    split
    · rw [if_pos rfl, Option.map_map]
      rfl
    · rfl

end Store

/-! ### Calls -/

namespace Session

/-- The session after some changes to the record of a conversion. -/
def changed (s : Session) (id : Text) (changes : List Change) : Session :=
  { s with store := s.store.changed id changes }

/-- Why a call that changes the record of a conversion fails, if it does. -/
def refusal? (s : Session) (call : Call) (id : Text) : Option CallError :=
  if call ∈ s.failing then some call.failure
  else if (s.store.get? id).isSome then none
  else some (.recordNotFound id)

theorem refusal?_eq_none_iff {s : Session} {call : Call} {id : Text} :
    s.refusal? call id = none ↔ call ∉ s.failing ∧ ∃ c, s.store.get? id = some c := by
  rw [refusal?, ← Option.isSome_iff_exists]
  by_cases hfailing : call ∈ s.failing
  · simp [hfailing]
  · cases h : s.store.get? id <;> simp [hfailing]

/-- The answer of a call that makes one change. -/
theorem guarded_update_eq (s : Session) (call : Call) (id : Text) (change : Change) :
    s.guarded call (s.withStore (s.store.update id change.apply)) =
      match s.refusal? call id with
      | some e => .error e
      | none => .ok (s.changed id [change]) := by
  rw [guarded, refusal?]
  split
  · rfl
  · rw [Store.update]
    split <;> rfl

theorem markProcessing_eq (s : Session) (id : Text) : s.markProcessing id =
    match s.refusal? .markProcessing id with
    | some e => .error e
    | none => .ok (s.changed id [.started]) :=
  s.guarded_update_eq .markProcessing id .started

theorem markCompleted_eq (s : Session) (id design : Text) : s.markCompleted id design =
    match s.refusal? .markCompleted id with
    | some e => .error e
    | none => .ok (s.changed id [.completed design]) :=
  s.guarded_update_eq .markCompleted id (.completed design)

theorem markFailed_eq (s : Session) (id message : Text) : s.markFailed id message =
    match s.refusal? .markFailed id with
    | some e => .error e
    | none => .ok (s.changed id [.failed message]) :=
  s.guarded_update_eq .markFailed id (.failed message)

end Session

end SchemaIntake
