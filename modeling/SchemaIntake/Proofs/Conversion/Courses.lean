import Mathlib.Data.List.Basic
import SchemaIntake.Proofs.Conversion.Lifecycle

/-!
# The records along a run

Steps are taken one after the other, each at its own moment.  A step changes no more than one
record, the one that it names, and of that one only the status, the design and the error message;
these three always fit together.  A record that is created takes the place of the one with its id.
So it is for fresh ids only that the store holds all records that have been created, in the order
of their creation.

## Main definitions

* `Event`, `Session.takes settings s e` — a step with its moment, and the session after it.
* `Session.course settings s events` — the session after several of them.
* `Session.collected`, `Session.created` — what the steps of a run contribute, in order, and the
  records that they create.
* `Conversion.asCreated c` — a record as it was when it was created.
* `Conversion.FitsStatus c` — the design and the error message fit the status.
* `Session.IsNumbered settings s` — the records bear the ids that have been drawn.

## Main results

* `Session.step_cases` — what a step does to the store.
* `Session.IsNumbered.isSpent_of_mem`, `Session.IsNumbered.records_step_cases` — fresh ids are spent
  once they are drawn, and what a step does to the records then.
* `Session.records_along_course` — **the records along a run**.
-/

namespace SchemaIntake

open Text

/-! ### Runs in time -/

def Settings.atMoment (settings : Settings) (now : Moment) : Settings :=
  { settings with now := now }

/-- A step and the moment at which it is taken. -/
structure Event where
  now : Moment
  step : Step
deriving DecidableEq, Repr

namespace Session

/-- The session after a step that is taken at its moment. -/
def takes (settings : Settings) (s : Session) (e : Event) : Session :=
  (s.step (settings.atMoment e.now) e.step).2

/-- The session after some steps that are taken at their moments. -/
def course (settings : Settings) (s : Session) (events : List Event) : Session :=
  events.foldl (takes settings) s

theorem course_cons (settings : Settings) (s : Session) (e : Event) (events : List Event) :
    s.course settings (e :: events) = (s.takes settings e).course settings events := rfl

/-- What the steps of a run contribute, in order. -/
def collected {α : Type} (settings : Settings)
    (contribution? : Settings → Session → Step → Option α) (s : Session) : List Event → List α
  | [] => []
  | e :: events =>
    (contribution? (settings.atMoment e.now) s e.step).toList ++
      (s.takes settings e).collected settings contribution? events

/-- The records that are created along a run, in order. -/
def created (settings : Settings) (s : Session) (events : List Event) : List Conversion :=
  s.collected settings (fun settings s step => step.created? settings s) events

end Session

/-! ### One record -/

namespace Conversion

/-- The record as it was when it was created. -/
def asCreated (c : Conversion) : Conversion :=
  { c with status := .pending, result := none, errorMessage := none }

/-- The design and the error message of a record fit its status. -/
structure FitsStatus (c : Conversion) : Prop where
  /-- A conversion that has not been worked on has neither. -/
  pending : c.status = .pending → c.result = none ∧ c.errorMessage = none
  /-- One that has come to its design has it, and no error message. -/
  completed : c.status = .completed → (∃ design, c.result = some design) ∧ c.errorMessage = none
  /-- One that has failed says why. -/
  failed : c.status = .failed → ∃ message, c.errorMessage = some message

theorem asCreated_apply (change : Change) (c : Conversion) :
    (change.apply c).asCreated = c.asCreated := by
  cases change <;> rfl

/-- A change makes a record fit, whatever it was like before. -/
theorem fitsStatus_apply (change : Change) (c : Conversion) : (change.apply c).FitsStatus := by
  cases change with
  | started => exact ⟨nofun, nofun, nofun⟩
  | completed design => exact ⟨nofun, fun _ => ⟨⟨design, rfl⟩, rfl⟩, nofun⟩
  | failed message => exact ⟨nofun, nofun, fun _ => ⟨message, rfl⟩⟩

variable (c : Conversion) (changes : List Change)

theorem id_changed : (c.changed changes).id = c.id := by
  induction changes generalizing c with
  | nil => rfl
  | cons change changes ih => rw [changed_cons, ih, Change.id_apply]

theorem asCreated_changed : (c.changed changes).asCreated = c.asCreated := by
  induction changes generalizing c with
  | nil => rfl
  | cons change changes ih => rw [changed_cons, ih, asCreated_apply]

variable {c}

theorem FitsStatus.changed (h : c.FitsStatus) : (c.changed changes).FitsStatus := by
  induction changes generalizing c with
  | nil => exact h
  | cons change changes ih => exact ih (fitsStatus_apply change c)

end Conversion

/-! ### All records -/

namespace Store

variable {id : Text}

/-- Two changes of the first record with an id are one. -/
theorem updateFirst_updateFirst {first second : Conversion → Conversion}
    (hid : ∀ c, (first c).id = c.id) (records : List Conversion) :
    updateFirst id second (updateFirst id first records) =
      updateFirst id (fun c => second (first c)) records := by
  induction records with
  | nil => rfl
  | cons c rest ih =>
    rw [updateFirst, updateFirst]
    by_cases hc : c.id = id
    · rw [if_pos hc, if_pos hc, updateFirst, if_pos ((hid c).trans hc)]
    · rw [if_neg hc, if_neg hc, updateFirst, if_neg hc, ih]

theorem updateFirst_self (records : List Conversion) :
    updateFirst id (fun c => c) records = records := by
  induction records with
  | nil => rfl
  | cons c rest ih =>
    rw [updateFirst, ih]
    split <;> rfl

theorem records_changed (store : Store) (id : Text) (changes : List Change) :
    (store.changed id changes).records = updateFirst id (·.changed changes) store.records := by
  induction changes generalizing store with
  | nil => exact (updateFirst_self store.records).symm
  | cons change changes ih =>
    rw [changed_cons, ih, updateFirst_updateFirst change.id_apply]
    rfl

theorem changed_eq (store : Store) (id : Text) (changes : List Change) :
    store.changed id changes =
      { store with records := updateFirst id (·.changed changes) store.records } := by
  rw [← records_changed, ← drawn_changed store id changes]

/-- What a change leaves alone in a record stays as it is in all of them. -/
theorem map_updateFirst {α : Type} {f : Conversion → α} {change : Conversion → Conversion}
    (h : ∀ c, f (change c) = f c) (records : List Conversion) :
    (updateFirst id change records).map f = records.map f := by
  induction records with
  | nil => rfl
  | cons c rest ih =>
    rw [updateFirst]
    split
    · rw [List.map_cons, List.map_cons, h]
    · rw [List.map_cons, List.map_cons, ih]

theorem map_id_changed (store : Store) (id : Text) (changes : List Change) :
    (store.changed id changes).records.map (·.id) = store.records.map (·.id) := by
  rw [records_changed]
  exact map_updateFirst (fun c => c.id_changed changes) store.records

theorem map_asCreated_changed (store : Store) (id : Text) (changes : List Change) :
    (store.changed id changes).records.map Conversion.asCreated =
      store.records.map Conversion.asCreated := by
  rw [records_changed]
  exact map_updateFirst (fun c => c.asCreated_changed changes) store.records

end Store

/-! ### One step -/

/-- The conversion that a step is about: that of a direct call to the store, or that of the message
that it works on or gives up. -/
def Step.named? (s : Session) (step : Step) : Option Text :=
  match step with
  | .markProcessing id => some id
  | .markCompleted id _ => some id
  | .markFailed id _ => some id
  | step => (step.delivery? s).map (·.message.conversionId)

/-- A step that delivers a message names the conversion of the message and creates no record. -/
theorem Step.named?_of_delivery {s : Session} {step : Step} {d : Delivery}
    (h : step.delivery? s = some d) (settings : Settings) :
    step.named? s = some d.message.conversionId ∧ step.created? settings s = none := by
  have hnamed := congrArg (Option.map fun d : Delivery => d.message.conversionId) h
  cases step with
  | processMessage m => exact ⟨hnamed, rfl⟩
  | process body => exact ⟨hnamed, rfl⟩
  | popProcess => exact ⟨hnamed, rfl⟩
  | deadLetter body => exact ⟨hnamed, rfl⟩
  | popDeadLetter => exact ⟨hnamed, rfl⟩
  | _ => exact absurd h (by simp [delivery?])

namespace Session

/-- A direct call to the store makes its change or none. -/
theorem exists_changes_of_call (s : Session) (answer : Answer) (call : Call) (id : Text)
    (change : Change) : ∃ changes, (s.answerWith answer
      (s.guarded call (s.withStore (s.store.update id change.apply)))).2.store =
        s.store.changed id changes := by
  rw [guarded_update_eq]
  cases s.refusal? call id with
  | some e => exact ⟨[], rfl⟩
  | none => exact ⟨[change], rfl⟩

theorem exists_changes_of_isMark (settings : Settings) (s : Session) {step : Step}
    (h : step.isMark = true) : ∃ id changes, step.named? s = some id ∧
      step.created? settings s = none ∧
        (s.step settings step).2.store = s.store.changed id changes := by
  cases step with
  | markProcessing id =>
    obtain ⟨changes, hstore⟩ := s.exists_changes_of_call .nothing .markProcessing id .started
    exact ⟨id, changes, rfl, rfl, hstore⟩
  | markCompleted id design =>
    obtain ⟨changes, hstore⟩ :=
      s.exists_changes_of_call .nothing .markCompleted id (.completed design)
    exact ⟨id, changes, rfl, rfl, hstore⟩
  | markFailed id message =>
    obtain ⟨changes, hstore⟩ := s.exists_changes_of_call .nothing .markFailed id (.failed message)
    exact ⟨id, changes, rfl, rfl, hstore⟩
  | _ => exact absurd h (by simp [Step.isMark])

/-- **What a step does to the store**: it makes some changes to the record of the conversion that it
names, or it adds the record that it creates, if it creates one. -/
theorem step_cases (settings : Settings) (s : Session) (step : Step) :
    (∃ id changes, step.named? s = some id ∧ step.created? settings s = none ∧
      (s.step settings step).2.store = s.store.changed id changes) ∨
    (s.step settings step).2.store = (step.created? settings s).elim s.store s.store.add := by
  cases hdelivery : step.delivery? s with
  | some d =>
    obtain ⟨hnamed, hcreated⟩ := Step.named?_of_delivery hdelivery settings
    have hstore := store_step_of_delivery settings s hdelivery
    exact Or.inl ⟨_, d.changes settings s, hnamed, hcreated, hstore⟩
  | none =>
    cases hmark : step.isMark with
    | true => exact Or.inl (exists_changes_of_isMark settings s hmark)
    | false => exact Or.inr (store_step_of_no_delivery settings s hdelivery hmark)

/-- A record that has just been created is as it was created, and fits. -/
theorem fitsStatus_of_created? {settings : Settings} {s : Session} {step : Step} {c : Conversion}
    (h : step.created? settings s = some c) : c.asCreated = c ∧ c.FitsStatus := by
  obtain ⟨sqlContent, optimization, tablesExtracted, hnew⟩ := of_created? h
  obtain ⟨expiry, rfl⟩ := of_newRecord_eq_ok hnew
  exact ⟨rfl, ⟨fun _ => ⟨rfl, rfl⟩, nofun, nofun⟩⟩

theorem fitsStatus_step (settings : Settings) {s : Session}
    (h : ∀ c ∈ s.store.records, c.FitsStatus) (step : Step) :
    ∀ c ∈ (s.step settings step).2.store.records, c.FitsStatus := by
  intro c hc
  rcases step_cases settings s step with ⟨id, changes, -, -, hstore⟩ | hstore
  · rw [hstore, Store.records_changed] at hc
    -- one record has changed at most, and a change makes it fit
    rcases Store.updateFirst_cases s.store.records with ⟨-, hsame⟩ | ⟨b, c', a, hsplit, -, -, hone⟩
    · exact h c (hsame ▸ hc)
    · rw [hone, List.mem_append, List.mem_cons] at hc
      rcases hc with hc | rfl | hc
      · exact h c (by simp [hsplit, hc])
      · exact (h c' (by simp [hsplit])).changed changes
      · exact h c (by simp [hsplit, hc])
  · cases hcreated : step.created? settings s with
    | none =>
      rw [hstore, hcreated] at hc
      exact h c hc
    | some new =>
      rw [hstore, hcreated] at hc
      rcases Store.eq_or_mem_of_mem_records_add hc with rfl | hc
      · exact (fitsStatus_of_created? hcreated).2
      · exact h c hc

/-! ### Fresh ids -/

/-- The records bear the ids that have been drawn. -/
def IsNumbered (settings : Settings) (s : Session) : Prop :=
  s.store.records.map (·.id) = (List.range s.store.drawn).map settings.idOf

variable {settings : Settings} {s : Session}

/-- If no id is drawn twice, that of a record is spent. -/
theorem IsNumbered.isSpent_of_mem (h : s.IsNumbered settings)
    (hfresh : Function.Injective settings.idOf) {c : Conversion} (hc : c ∈ s.store.records) :
    s.IsSpent settings c.id := by
  have hid : c.id ∈ (List.range s.store.drawn).map settings.idOf := by
    rw [← h]
    exact List.mem_map_of_mem hc
  obtain ⟨k, hk, hdrawn⟩ := List.mem_map.mp hid
  rw [List.mem_range] at hk
  intro n hn hsame
  have hnumber : n = k := hfresh (hsame.trans hdrawn.symm)
  omega

/-- If no id is drawn twice, a record that a step creates comes behind all others. -/
theorem IsNumbered.records_add_created (h : s.IsNumbered settings)
    (hfresh : Function.Injective settings.idOf) {step : Step} {c : Conversion}
    (hcreated : step.created? settings s = some c) :
    (s.store.add c).records = s.store.records ++ [c] := by
  apply Store.records_add_of_get?_eq_none
  rw [Store.get?_eq_none_iff, id_of_created? hcreated]
  intro other hother
  exact (h.isSpent_of_mem hfresh hother _ (Nat.le_refl _)).symm

/-- **What a step does to the records if no id is drawn twice.** -/
theorem IsNumbered.records_step_cases (h : s.IsNumbered settings)
    (hfresh : Function.Injective settings.idOf) (step : Step) :
    (∃ id changes, step.named? s = some id ∧ step.created? settings s = none ∧
      (s.step settings step).2.store = s.store.changed id changes) ∨
    (s.step settings step).2.store.records =
        s.store.records ++ (step.created? settings s).toList ∧
      (s.step settings step).2.store.drawn =
        s.store.drawn + (step.created? settings s).toList.length := by
  rcases step_cases settings s step with hchanged | hstore
  · exact Or.inl hchanged
  · right
    rw [hstore]
    cases hcreated : step.created? settings s with
    | none => exact ⟨(List.append_nil _).symm, rfl⟩
    | some c => exact ⟨h.records_add_created hfresh hcreated, rfl⟩

theorem IsNumbered.step (h : s.IsNumbered settings) (hfresh : Function.Injective settings.idOf)
    (step : Step) : (s.step settings step).2.IsNumbered settings := by
  rcases h.records_step_cases hfresh step with ⟨id, changes, -, -, hstore⟩ | ⟨hrecords, hdrawn⟩
  · -- changes leave the ids alone
    rw [IsNumbered, hstore, Store.drawn_changed, Store.map_id_changed]
    exact h
  · rw [IsNumbered, hrecords, hdrawn]
    cases hcreated : step.created? settings s with
    | none =>
      rw [Option.toList_none, List.append_nil]
      exact h
    | some c =>
      rw [Option.toList_some, List.map_append, h, List.length_singleton, List.range_succ,
        List.map_append, List.map_singleton, List.map_singleton, id_of_created? hcreated]

theorem map_asCreated_step (h : s.IsNumbered settings)
    (hfresh : Function.Injective settings.idOf) (step : Step) :
    (s.step settings step).2.store.records.map Conversion.asCreated =
      s.store.records.map Conversion.asCreated ++ (step.created? settings s).toList := by
  rcases h.records_step_cases hfresh step with ⟨id, changes, -, hcreated, hstore⟩ | ⟨hrecords, -⟩
  · -- the record that is changed is still the one that was created
    rw [hstore, hcreated, Store.map_asCreated_changed, Option.toList_none, List.append_nil]
  · rw [hrecords, List.map_append]
    cases hcreated : step.created? settings s with
    | none => rfl
    | some c =>
      rw [Option.toList_some, List.map_singleton, (fitsStatus_of_created? hcreated).1]

/-! ### Runs -/

variable (settings) (events : List Event)

theorem fitsStatus_course (h : ∀ c ∈ s.store.records, c.FitsStatus) :
    ∀ c ∈ (s.course settings events).store.records, c.FitsStatus := by
  induction events generalizing s with
  | nil => exact h
  | cons e events ih => exact ih (fitsStatus_step _ h e.step)

variable {settings}

theorem IsNumbered.takes (h : s.IsNumbered settings) (hfresh : Function.Injective settings.idOf)
    (e : Event) : (s.takes settings e).IsNumbered settings := by
  -- the ids do not depend on the moment
  have hnow : s.IsNumbered (settings.atMoment e.now) := h
  exact hnow.step hfresh e.step

theorem IsNumbered.course (h : s.IsNumbered settings) (hfresh : Function.Injective settings.idOf) :
    (s.course settings events).IsNumbered settings := by
  induction events generalizing s with
  | nil => exact h
  | cons e events ih => exact ih (h.takes hfresh e)

theorem isNumbered_start (settings : Settings) : start.IsNumbered settings := rfl

/-- A run keeps all records and adds those that it creates. -/
theorem map_asCreated_course (h : s.IsNumbered settings)
    (hfresh : Function.Injective settings.idOf) :
    (s.course settings events).store.records.map Conversion.asCreated =
      s.store.records.map Conversion.asCreated ++ s.created settings events := by
  -- the ids stay numbered along the way, so every step may be looked at by itself
  induction events generalizing s with
  | nil => exact (List.append_nil _).symm
  | cons e events ih =>
    have hnow : s.IsNumbered (settings.atMoment e.now) := h
    rw [course_cons, ih (h.takes hfresh e), takes, map_asCreated_step hnow hfresh,
      List.append_assoc]
    rfl

/-- **The records along a run.**  Let no id be drawn twice.  Whatever steps are taken from the
start, and whichever calls fail: the store holds the records that have been created, the newest
first where they are looked up, and each says of its conversion what it said when it was created,
but for the status, the design and the error message.  These three fit together.  One more step
adds the record that it creates, or changes these three in one record at most, that of the
conversion that the step names. -/
theorem records_along_course (settings : Settings) (hfresh : Function.Injective settings.idOf)
    (events : List Event) :
    let s := start.course settings events
    s.store.newestFirst.map Conversion.asCreated = (start.created settings events).reverse ∧
      (.list ∉ s.failing → s.list = .ok s.store.newestFirst) ∧
      (∀ c ∈ s.store.records, c.FitsStatus) ∧
      ∀ e : Event,
        (s.takes settings e).store.records = s.store.records ++
            (e.step.created? (settings.atMoment e.now) s).toList ∨
          ∃ before c c' after, s.store.records = before ++ c :: after ∧
            (s.takes settings e).store.records = before ++ c' :: after ∧
            c'.asCreated = c.asCreated ∧ e.step.named? s = some c.id := by
  intro s
  have hnumbered : s.IsNumbered settings := (isNumbered_start settings).course events hfresh
  refine ⟨?_, fun hlist => if_neg hlist, ?_, fun e => ?_⟩
  · rw [Store.newestFirst, List.map_reverse,
      map_asCreated_course events (isNumbered_start settings) hfresh]
    rfl
  · exact fitsStatus_course settings events (s := start) (by simp [start, Store.empty])
  · have hnow : s.IsNumbered (settings.atMoment e.now) := hnumbered
    -- a step that names a conversion without a record counts as one that adds nothing
    rcases hnow.records_step_cases hfresh e.step with
      ⟨id, changes, hnamed, hcreated, hstore⟩ | ⟨hrecords, -⟩
    · rcases Store.updateFirst_cases s.store.records with
        ⟨-, hsame⟩ | ⟨before, c, after, hsplit, hid, -, hone⟩
      · left
        rw [takes, hstore, Store.records_changed, hsame, hcreated, Option.toList_none,
          List.append_nil]
      · right
        refine ⟨before, c, c.changed changes, after, hsplit, ?_, c.asCreated_changed changes, ?_⟩
        · rw [takes, hstore, Store.records_changed, hone]
        · rw [hnamed, hid]
    · exact Or.inl hrecords

/-- Two conversions created at different moments, one of them by a request; the one comes to its
design, the other fails. -/
theorem records_of_two_conversions :
    let settings : Settings :=
      ⟨3600, true, "design".toList, ⟨0, 0⟩, fun n => List.replicate (n + 1) 'i'⟩
    let body := "\x7b\"sqlContent\": \"CREATE TABLE t (id INT);\"\x7d".toList
    let events : List Event := [⟨⟨0, 0⟩, .submit body⟩, ⟨⟨60, 0⟩, .create "sql".toList .balanced 1⟩,
      ⟨⟨61, 0⟩, .popProcess⟩, ⟨⟨62, 0⟩, .markFailed "ii".toList "no design".toList⟩]
    let s := start.course settings events
    Function.Injective settings.idOf ∧ s.list = .ok s.store.newestFirst ∧
      s.store.newestFirst.map Conversion.asCreated = (start.created settings events).reverse ∧
      (s.store.newestFirst.map fun c => (c.id, c.status, c.createdAt)) =
        [("ii".toList, .failed, "1970-01-01T00:01:00Z".toList),
          ("i".toList, .completed, "1970-01-01T00:00:00Z".toList)] ∧
      ∀ c ∈ s.store.records, c.FitsStatus := by
  intro settings body events
  have hfresh : Function.Injective settings.idOf := by
    intro a b h
    simpa [settings] using congrArg List.length h
  have hlist : Call.list ∉ (start.course settings events).failing := by decide +kernel
  obtain ⟨hcreated, hlisted, hfits, -⟩ := records_along_course settings hfresh events
  refine ⟨hfresh, hlisted hlist, hcreated, ?_, hfits⟩
  decide +kernel

end Session

end SchemaIntake
