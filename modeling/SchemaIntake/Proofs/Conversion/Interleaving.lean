import Mathlib.Data.List.Nodup
import Mathlib.Data.List.Perm.Basic
import Mathlib.Data.Nat.Init
import Mathlib.Logic.Function.Basic
import SchemaIntake.Proofs.Conversion.Courses

/-!
# Work on several messages at once

Several workers share one session.  Each works on a message of its own, call by call, and between
any two of its calls other workers may make theirs and other records may be created.  For each
message it is fixed which calls fail and which design is found.  As long as no two of the messages
are about one conversion, the order of the calls does not matter: the records and the answers are
those of working on one message after the other, in whichever order.

Before any of this can be compared, the records are given in one closed form.  Every record is the
one that was there at the start, or was created since, after the changes of the one worker that is
concerned with it, and how many of these changes have been made depends on how far that worker has
come.

## Main definitions

* `Job`, `Creation` — work on a message and the creation of a record, with the calls that fail.
* `Progress` — how far a worker has come.
* `Workers` — a session and how far the workers on its conversions have come.
* `Workers.moved settings w move`, `Workers.after settings w moves` — one call of a worker at a
  time, in any order.
* `Workers.finished settings w move`, `Workers.inTurn settings w moves` — one message after the
  other.
* `Store.changedEach`, `Store.withChanges` — records, and a store, after each conversion has gone
  through changes of its own.
* `Workers.IsAt` — where the workers are, and what the records say by then.

## Main results

* `Workers.finished_work_eq` — work on a message is its calls, one after the other.
* `Workers.isAt_moved_work`, `Workers.isAt_after` — the closed form is kept by a call and by any
  number of them.
* `Workers.after_eq_inTurn` — **workers do not get in each other's way**.
-/

namespace SchemaIntake

open Text

/-! ### Calls -/

/-- Work on a message, with what is fixed about its calls. -/
structure Job where
  message : Message
  failing : List Call
  /-- The design that is found, unless looking for one fails. -/
  design : Text
deriving DecidableEq, Repr

structure Creation where
  now : Moment
  sqlContent : Text
  optimization : Optimization
  /-- How many tables the schema text defines. -/
  tablesExtracted : Nat
  failing : List Call
deriving DecidableEq, Repr

/-- How far a worker has come with a message. -/
inductive Progress
  /-- Nothing has been done yet. -/
  | waiting
  /-- It has been noted that the conversion is being worked on. -/
  | started
  /-- A design has been asked for. -/
  | designed (design : Except CallError Text)
  /-- The work is over. -/
  | ended (answer : Except CallError Status)

/-- How many calls are left at most. -/
def Progress.left : Progress → Nat
  | waiting => 3
  | started => 2
  | designed _ => 1
  | ended _ => 0

/-- The session in which exactly the given calls are failing. -/
def Session.under (s : Session) (failing : List Call) : Session := { s with failing := failing }

namespace Job

def id (job : Job) : Text := job.message.conversionId

/-- The settings under which the design of this work is found. -/
def settings (job : Job) (settings : Settings) : Settings := { settings with design := job.design }

/-- The next call of a worker that has come to some point in some session: how far it has come
then, and the session after the call. -/
def next (job : Job) (settings : Settings) : Progress × Session → Progress × Session
  | (.waiting, s) =>
    match s.markProcessing job.id with
    | .error e => (.ended (.error e), s)
    | .ok s => (.started, s)
  | (.started, s) =>
    (.designed (s.generate (job.settings settings) job.message.sqlContent
      job.message.optimization), s)
  | (.designed (.ok design), s) =>
    match s.markCompleted job.id design with
    | .error e => (.ended (.error e), s)
    | .ok s => (.ended (.ok .completed), s)
  | (.designed (.error e), s) =>
    match s.markFailed job.id e.message with
    | .error _ => (.ended (.ok .failed), s)
    | .ok s => (.ended (.ok .failed), s)
  | (.ended answer, s) => (.ended answer, s)

end Job

/-! ### Workers -/

/-- A session and how far the workers on its conversions have come. -/
@[ext] structure Workers where
  /-- The session that the workers share. -/
  session : Session
  /-- How far the worker on a conversion has come. -/
  progress : Text → Progress

/-- What can happen while there are workers. -/
inductive Move
  | work (job : Job)
  | create (creation : Creation)
deriving DecidableEq, Repr

namespace Move

def job? : Move → Option Job
  | work job => some job
  | create _ => none

def creation? : Move → Option Creation
  | work _ => none
  | create creation => some creation

end Move

namespace Workers

/-- All messages are waiting. -/
def start (s : Session) : Workers := ⟨s, fun _ => .waiting⟩

/-- A worker has come to some point and leaves a session, in which the calls that failed for this
worker alone do not fail any more. -/
def leaves (w : Workers) (id : Text) (r : Progress × Session) : Workers :=
  ⟨r.2.under w.session.failing, Function.update w.progress id r.1⟩

/-- A record is created, if the call does not fail. -/
def creates (settings : Settings) (w : Workers) (c : Creation) : Workers :=
  match (w.session.under c.failing).create (settings.atMoment c.now) c.sqlContent c.optimization
      c.tablesExtracted with
  | .error _ => w
  | .ok (_, s) => { w with session := s.under w.session.failing }

/-- A worker makes its next call, or a record is created. -/
def moved (settings : Settings) (w : Workers) : Move → Workers
  | .work job =>
    w.leaves job.id (job.next settings (w.progress job.id, w.session.under job.failing))
  | .create c => w.creates settings c

/-- Any number of calls, in order. -/
def after (settings : Settings) (w : Workers) (moves : List Move) : Workers :=
  moves.foldl (moved settings) w

/-- A message is worked on without interruption, or a record is created. -/
def finished (settings : Settings) (w : Workers) : Move → Workers
  | .work job =>
    let r := (w.session.under job.failing).processMessage (job.settings settings) job.message
    w.leaves job.id (.ended r.1, r.2)
  | .create c => w.creates settings c

/-- Messages are worked on one after the other. -/
def inTurn (settings : Settings) (w : Workers) (moves : List Move) : Workers :=
  moves.foldl (finished settings) w

variable {settings : Settings} {w : Workers}

theorem after_cons (move : Move) (moves : List Move) :
    w.after settings (move :: moves) = (w.moved settings move).after settings moves := rfl

theorem inTurn_cons (move : Move) (moves : List Move) :
    w.inTurn settings (move :: moves) = (w.finished settings move).inTurn settings moves := rfl

theorem progress_leaves (id : Text) (r : Progress × Session) (other : Text) :
    (w.leaves id r).progress other = if other = id then r.1 else w.progress other :=
  Function.update_apply _ _ _ _

theorem leaves_leaves (id : Text) (first second : Progress × Session) :
    (w.leaves id first).leaves id second = w.leaves id second := by
  rw [leaves, leaves, leaves, Function.update_idem]
  rfl

theorem progress_creates (c : Creation) : (w.creates settings c).progress = w.progress := by
  rw [creates]
  split <;> rfl

end Workers

/-! ### Records after changes of their own -/

namespace Store

/-- Records after each conversion has gone through changes of its own.  Where several records have
one id, the first of them is changed. -/
def changedEach : (Text → List Change) → List Conversion → List Conversion
  | _, [] => []
  | changes, c :: rest =>
    c.changed (changes c.id) :: changedEach (Function.update changes c.id []) rest

theorem changedEach_none (records : List Conversion) :
    changedEach (fun _ => []) records = records := by
  induction records with
  | nil => rfl
  | cons c rest ih =>
    have hnone : Function.update (fun _ : Text => ([] : List Change)) c.id [] = fun _ => [] :=
      Function.update_eq_self c.id _
    rw [changedEach, hnone, ih, Conversion.changed_nil]

theorem map_id_changedEach (changes : Text → List Change) (records : List Conversion) :
    (changedEach changes records).map (·.id) = records.map (·.id) := by
  induction records generalizing changes with
  | nil => rfl
  | cons c rest ih => rw [changedEach, List.map_cons, List.map_cons, ih, Conversion.id_changed]

/-- Where a record has no changes of its own, neither has it behind any other one. -/
theorem update_nil_eq_nil {changes : Text → List Change} {id : Text} (h : changes id = [])
    (other : Text) : Function.update changes other [] id = [] := by
  rw [Function.update_apply]
  split
  · rfl
  · exact h

/-- A record that comes behind all others and is not changed yet. -/
theorem changedEach_concat {changes : Text → List Change} {c : Conversion}
    (h : changes c.id = []) (records : List Conversion) :
    changedEach changes (records ++ [c]) = changedEach changes records ++ [c] := by
  induction records generalizing changes with
  | nil =>
    rw [List.nil_append, changedEach, changedEach, changedEach, h, Conversion.changed_nil]
    rfl
  | cons first rest ih =>
    rw [List.cons_append, changedEach, ih (update_nil_eq_nil h first.id), changedEach,
      List.cons_append]

/-- A record that takes the place of another one and is not changed yet. -/
theorem changedEach_updateFirst {changes : Text → List Change} {c : Conversion}
    (h : changes c.id = []) (records : List Conversion) :
    changedEach changes (updateFirst c.id (fun _ => c) records) =
      updateFirst c.id (fun _ => c) (changedEach changes records) := by
  induction records generalizing changes with
  | nil => rfl
  | cons first rest ih =>
    rw [updateFirst, changedEach, updateFirst, Conversion.id_changed]
    by_cases hfirst : first.id = c.id
    · rw [if_pos hfirst, if_pos hfirst, changedEach, h, Conversion.changed_nil, hfirst]
    · rw [if_neg hfirst, if_neg hfirst, changedEach, ih (update_nil_eq_nil h first.id)]

/-- **Changes of one record come after those that it has gone through.** -/
theorem updateFirst_changedEach (changes : Text → List Change) (id : Text) (more : List Change)
    (records : List Conversion) :
    updateFirst id (·.changed more) (changedEach changes records) =
      changedEach (Function.update changes id (changes id ++ more)) records := by
  induction records generalizing changes with
  | nil => rfl
  | cons c rest ih =>
    rw [changedEach, changedEach, updateFirst, Conversion.id_changed]
    by_cases hc : c.id = id
    · subst hc
      rw [if_pos rfl, Function.update_self, Conversion.changed_append, Function.update_idem]
    · -- the changes of other records can be given in either order
      have hne : id ≠ c.id := fun h => hc h.symm
      rw [if_neg hc, ih, Function.update_of_ne hc, Function.update_of_ne hne,
        Function.update_comm hc]

theorem isSome_get?_iff (store : Store) (id : Text) :
    (store.get? id).isSome = true ↔ id ∈ store.records.map (·.id) := by
  rw [get?, List.find?_isSome, List.mem_map]
  simp only [decide_eq_true_eq]

/-- The store after each conversion has gone through changes of its own. -/
def withChanges (store : Store) (changes : Text → List Change) : Store :=
  { store with records := changedEach changes store.records }

theorem isSome_get?_withChanges (store : Store) (changes : Text → List Change) (id : Text) :
    ((store.withChanges changes).get? id).isSome = (store.get? id).isSome := by
  rw [Bool.eq_iff_iff, isSome_get?_iff, isSome_get?_iff, withChanges, map_id_changedEach]

/-- **A record that is added and not changed yet** may as well be added before the changes. -/
theorem withChanges_add {changes : Text → List Change} {c : Conversion} (h : changes c.id = [])
    (store : Store) : (store.add c).withChanges changes = (store.withChanges changes).add c := by
  have hfound := store.isSome_get?_withChanges changes c.id
  rw [add, add, hfound]
  split
  · rw [withChanges, changedEach_updateFirst h]
    rfl
  · rw [withChanges, changedEach_concat h]
    rfl

/-- More changes of one record come after those that there have been. -/
theorem changed_withChanges (store : Store) (changes : Text → List Change) (id : Text)
    (more : List Change) : (store.withChanges changes).changed id more =
      store.withChanges (Function.update changes id (changes id ++ more)) := by
  rw [changed_eq, withChanges, withChanges, updateFirst_changedEach]

end Store

/-! ### One worker -/

namespace Job

variable (job : Job) (settings : Settings)

/-- What a worker has to go by: the calls that make up work on a message, made one after the
other, are that work. -/
theorem next_next_next (s : Session) :
    job.next settings (job.next settings (job.next settings (.waiting, s))) =
      (.ended (s.processMessage (job.settings settings) job.message).1,
        (s.processMessage (job.settings settings) job.message).2) := by
  rw [Session.processMessage, next, id]
  cases s.markProcessing job.message.conversionId with
  | error e => rfl
  | ok started =>
    rw [next]
    dsimp only
    -- the third call depends on what the second one has found
    cases started.generate (job.settings settings) job.message.sqlContent
        job.message.optimization with
    | ok design =>
      rw [next, id]
      dsimp only
      cases started.markCompleted job.message.conversionId design <;> rfl
    | error e =>
      rw [next, id]
      dsimp only
      cases started.markFailed job.message.conversionId e.message <;> rfl

/-- The changes that a worker has made by some point, if work has begun in the given session. -/
def changesAt (s : Session) : Progress → List Change
  | .waiting => []
  | .started => [.started]
  | .designed _ => [.started]
  | .ended _ => (s.under job.failing).workChanges (job.settings settings) job.message

/-- A worker can come to some point, if work has begun in the given session. -/
def Reaches (s : Session) : Progress → Prop
  | .waiting => True
  | .started => (s.under job.failing).refusal? .markProcessing job.id = none
  | .designed design => (s.under job.failing).refusal? .markProcessing job.id = none ∧
      design = (s.under job.failing).generate (job.settings settings) job.message.sqlContent
        job.message.optimization
  | .ended answer => answer = (s.under job.failing).workAnswer job.message

variable {job} {s s' : Session}

/-- A call is refused in one session as in another one that has a record of the conversion if the
first has. -/
theorem refusal?_under (h : (s'.store.get? job.id).isSome = (s.store.get? job.id).isSome)
    (call : Call) : (s'.under job.failing).refusal? call job.id =
      (s.under job.failing).refusal? call job.id := by
  rw [Session.refusal?, Session.refusal?, Session.under, Session.under, h]

/-- The last call of a worker, in any session that has a record of the conversion if the one has in
which work began. -/
theorem exists_changes_last (h : (s'.store.get? job.id).isSome = (s.store.get? job.id).isSome)
    (hrefusal : (s.under job.failing).refusal? .markProcessing job.id = none) :
    let r := job.next settings (.designed ((s.under job.failing).generate (job.settings settings)
      job.message.sqlContent job.message.optimization), s'.under job.failing)
    ∃ changes, r.2 = (s'.under job.failing).changed job.id changes ∧
      r.1 = .ended ((s.under job.failing).workAnswer job.message) ∧
      (s.under job.failing).workChanges (job.settings settings) job.message =
        .started :: changes := by
  intro r
  obtain ⟨c, hc⟩ := (Session.refusal?_eq_none_iff.mp hrefusal).2
  -- the record that was there when work began is there for the last call
  have hlast (call : Call) : (s'.under job.failing).refusal? call job.id =
      if call ∈ job.failing then some call.failure else none := by
    have hfound : ((s.under job.failing).store.get? job.id).isSome = true := by
      rw [hc]
      rfl
    rw [refusal?_under h, Session.refusal?_of_get? hfound]
    rfl
  -- from here on only membership in the failing calls decides
  have hgenerated : (s.under job.failing).generate (job.settings settings)
      job.message.sqlContent job.message.optimization =
        if .generate ∈ job.failing then .error Call.generate.failure else .ok job.design := rfl
  have hanswer : (s.under job.failing).workAnswer job.message =
      if .generate ∈ job.failing then .ok .failed
      else if .markCompleted ∈ job.failing then .error Call.markCompleted.failure
      else .ok .completed := by
    rw [Session.workAnswer, ← id, hrefusal]
    rfl
  have hchanges : (s.under job.failing).workChanges (job.settings settings) job.message =
      .started :: if .generate ∈ job.failing then
          if .markFailed ∈ job.failing then [] else [.failed Call.generate.failure.message]
        else if .markCompleted ∈ job.failing then [] else [.completed job.design] := by
    rw [Session.workChanges, ← id, hrefusal]
    rfl
  rw [hanswer, hchanges]
  dsimp only [r]
  rw [hgenerated]
  by_cases hgenerate : Call.generate ∈ job.failing
  · rw [if_pos hgenerate, if_pos hgenerate, if_pos hgenerate, next, Session.markFailed_eq, hlast]
    by_cases hfailed : Call.markFailed ∈ job.failing
    · rw [if_pos hfailed, if_pos hfailed]
      exact ⟨[], rfl, rfl, rfl⟩
    · rw [if_neg hfailed, if_neg hfailed]
      exact ⟨_, rfl, rfl, rfl⟩
  · rw [if_neg hgenerate, if_neg hgenerate, if_neg hgenerate, next, Session.markCompleted_eq, hlast]
    by_cases hcompleted : Call.markCompleted ∈ job.failing
    · rw [if_pos hcompleted, if_pos hcompleted, if_pos hcompleted]
      exact ⟨[], rfl, rfl, rfl⟩
    · rw [if_neg hcompleted, if_neg hcompleted, if_neg hcompleted]
      exact ⟨_, rfl, rfl, rfl⟩

/-- **One call of a worker**, in any session that has a record of the conversion if the one has in
which work began: it makes some changes to that record and takes the worker to the next point. -/
theorem exists_changes_next (h : (s'.store.get? job.id).isSome = (s.store.get? job.id).isSome)
    {p : Progress} (hp : job.Reaches settings s p) :
    let r := job.next settings (p, s'.under job.failing)
    ∃ changes, r.2 = (s'.under job.failing).changed job.id changes ∧
      job.Reaches settings s r.1 ∧
      job.changesAt settings s r.1 = job.changesAt settings s p ++ changes := by
  intro r
  dsimp only [r]
  cases p with
  | waiting =>
    rw [next, Session.markProcessing_eq, refusal?_under h]
    cases hrefusal : (s.under job.failing).refusal? .markProcessing job.id with
    | some e =>
      rw [id] at hrefusal
      refine ⟨[], rfl, ?_, ?_⟩
      · simp only [Reaches, Session.workAnswer, hrefusal]
      · simp only [changesAt, Session.workChanges, hrefusal]
        rfl
    | none => exact ⟨[.started], rfl, hrefusal, rfl⟩
  -- asking for a design changes no record
  | started => exact ⟨[], rfl, ⟨hp, rfl⟩, rfl⟩
  | designed design =>
    obtain ⟨hrefusal, rfl⟩ := hp
    obtain ⟨changes, hsession, hended, hchanges⟩ :=
      exists_changes_last settings h hrefusal
    refine ⟨changes, hsession, ?_, ?_⟩
    · rw [hended]
      rfl
    · rw [hended]
      exact hchanges
  | ended answer => exact ⟨[], rfl, hp, (List.append_nil _).symm⟩

/-- A call of a worker neither makes other calls fail nor keeps them from failing. -/
theorem failing_next (r : Progress × Session) : (job.next settings r).2.failing = r.2.failing := by
  obtain ⟨p, s⟩ := r
  cases p with
  | waiting =>
    rw [next, Session.markProcessing_eq]
    cases s.refusal? .markProcessing job.id <;> rfl
  | started => rfl
  | designed design =>
    cases design with
    | ok design =>
      rw [next, Session.markCompleted_eq]
      cases s.refusal? .markCompleted job.id <;> rfl
    | error e =>
      rw [next, Session.markFailed_eq]
      cases s.refusal? .markFailed job.id <;> rfl
  | ended answer => rfl

theorem left_next_le (p : Progress) (s : Session) :
    (job.next settings (p, s)).1.left ≤ p.left - 1 := by
  cases p with
  | waiting =>
    rw [next]
    cases s.markProcessing job.id with
    | error e => exact Nat.zero_le _
    | ok s => exact Nat.le_refl _
  | started => exact Nat.le_refl _
  | designed design =>
    cases design with
    | ok design =>
      rw [next]
      cases s.markCompleted job.id design <;> exact Nat.le_refl _
    | error e =>
      rw [next]
      cases s.markFailed job.id e.message <;> exact Nat.le_refl _
  | ended answer => exact Nat.le_refl _

end Job

/-! ### All workers -/

namespace Workers

variable {settings : Settings} {w : Workers} {job : Job}

/-- A call after a call of the same worker. -/
theorem moved_leaves {r : Progress × Session} (h : r.2.failing = job.failing) :
    (w.leaves job.id r).moved settings (.work job) = w.leaves job.id (job.next settings r) := by
  have hsession : (w.leaves job.id r).session.under job.failing = r.2 := by
    rw [← h]
    rfl
  rw [moved, hsession, progress_leaves, if_pos rfl, leaves_leaves]

/-- **Work on a message is its calls**, one after the other. -/
theorem finished_work_eq (h : w.progress job.id = .waiting) :
    w.finished settings (.work job) =
      w.after settings [.work job, .work job, .work job] := by
  have hfirst : w.moved settings (.work job) =
      w.leaves job.id (job.next settings (.waiting, w.session.under job.failing)) := by
    rw [moved, h]
  have hfailing := job.failing_next settings (.waiting, w.session.under job.failing)
  -- each call leaves the failing calls as they are, so the next one finds what it would have found
  rw [after_cons, after_cons, after_cons, hfirst, moved_leaves hfailing,
    moved_leaves ((Job.failing_next settings _).trans hfailing), Job.next_next_next]
  rfl

/-! ### The closed form -/

/-- The workers have come so far after work on some messages has begun in a given session and some
records have been created: all records are those that there were at the start and those that have
been created, after the changes that the workers have made until now. -/
structure IsAt (settings : Settings) (s : Session) (jobs : List Job) (created : List Conversion)
    (changes : Text → List Change) (w : Workers) : Prop where
  /-- The session is the one at the start, but for the records. -/
  session : w.session =
    { s with store := (created.foldl Store.add s.store).withChanges changes }
  /-- The changes are those of the workers. -/
  changes_of_job : ∀ job ∈ jobs, changes job.id = job.changesAt settings s (w.progress job.id)
  /-- The workers have come to where the calls that fail let them come. -/
  reaches : ∀ job ∈ jobs, job.Reaches settings s (w.progress job.id)
  /-- All other records are as they were. -/
  changes_of_other : ∀ id, (∀ job ∈ jobs, job.id ≠ id) → changes id = []
  /-- Nobody works on other conversions. -/
  waiting_of_other : ∀ id, (∀ job ∈ jobs, job.id ≠ id) → w.progress id = .waiting
  /-- The records that have been created are not those of the messages. -/
  created_other : ∀ c ∈ created, ∀ job ∈ jobs, job.id ≠ c.id

variable {s : Session} {jobs : List Job} {created : List Conversion}
  {changes : Text → List Change}

theorem isAt_start (settings : Settings) (s : Session) (jobs : List Job) :
    IsAt settings s jobs [] (fun _ => []) (start s) := by
  refine ⟨?_, fun _ _ => rfl, fun _ _ => trivial, fun _ _ => rfl, fun _ _ => rfl, by simp⟩
  rw [List.foldl_nil, Store.withChanges, Store.changedEach_none]
  rfl

/-- Records that are created leave those with other ids alone. -/
theorem get?_foldl_add {id : Text} (h : ∀ c ∈ created, c.id ≠ id) (store : Store) :
    (created.foldl Store.add store).get? id = store.get? id := by
  induction created generalizing store with
  | nil => rfl
  | cons c created ih =>
    have hfirst : id ≠ c.id := (h c List.mem_cons_self).symm
    have hrest : ∀ other ∈ created, other.id ≠ id :=
      fun other hother => h other (List.mem_cons_of_mem c hother)
    rw [List.foldl_cons, ih hrest, Store.get?_add, if_neg hfirst]

theorem drawn_foldl_add (created : List Conversion) (store : Store) :
    (created.foldl Store.add store).drawn = store.drawn + created.length := by
  induction created generalizing store with
  | nil => rfl
  | cons c created ih =>
    have hfirst : (store.add c).drawn = store.drawn + 1 := rfl
    rw [List.foldl_cons, ih, hfirst, List.length_cons]
    omega

/-- A record of a message is there exactly if it was there when work began. -/
theorem IsAt.isSome_get? (h : IsAt settings s jobs created changes w) (hjob : job ∈ jobs) :
    (w.session.store.get? job.id).isSome = (s.store.get? job.id).isSome := by
  have hother : ∀ c ∈ created, c.id ≠ job.id := fun c hc => (h.created_other c hc job hjob).symm
  rw [h.session, Store.isSome_get?_withChanges, get?_foldl_add hother]

/-- **A call of a worker** keeps the closed form. -/
theorem isAt_moved_work (hapart : (jobs.map Job.id).Nodup) (hjob : job ∈ jobs)
    (h : IsAt settings s jobs created changes w) :
    ∃ changes, IsAt settings s jobs created changes (w.moved settings (.work job)) := by
  obtain ⟨more, hsession, hreaches, hchanges⟩ :=
    Job.exists_changes_next settings (h.isSome_get? hjob) (h.reaches job hjob)
  -- the changes made for this conversion go on, and no other job of the list is about it
  refine ⟨Function.update changes job.id (changes job.id ++ more), ?_, ?_, ?_, ?_, ?_, ?_⟩
  · have hchanged : (w.moved settings (.work job)).session = w.session.changed job.id more := by
      rw [moved, leaves, hsession]
      rfl
    rw [hchanged, h.session, Session.changed]
    dsimp only
    rw [Store.changed_withChanges]
  · intro other hother
    rw [moved, progress_leaves]
    by_cases hid : other.id = job.id
    · obtain rfl := List.inj_on_of_nodup_map hapart hother hjob hid
      rw [if_pos rfl, Function.update_self, hchanges, h.changes_of_job other hother]
    · rw [if_neg hid, Function.update_of_ne hid, h.changes_of_job other hother]
  · intro other hother
    rw [moved, progress_leaves]
    by_cases hid : other.id = job.id
    · obtain rfl := List.inj_on_of_nodup_map hapart hother hjob hid
      rw [if_pos rfl]
      exact hreaches
    · rw [if_neg hid]
      exact h.reaches other hother
  · intro id hid
    rw [Function.update_of_ne (hid job hjob).symm]
    exact h.changes_of_other id hid
  · intro id hid
    rw [moved, progress_leaves, if_neg (hid job hjob).symm]
    exact h.waiting_of_other id hid
  · exact h.created_other

/-- Work on a message without interruption keeps it. -/
theorem isAt_finished_work (hapart : (jobs.map Job.id).Nodup) (hjob : job ∈ jobs)
    (hwaiting : w.progress job.id = .waiting) (h : IsAt settings s jobs created changes w) :
    ∃ changes, IsAt settings s jobs created changes (w.finished settings (.work job)) := by
  rw [finished_work_eq hwaiting]
  obtain ⟨_, hfirst⟩ := isAt_moved_work hapart hjob h
  obtain ⟨_, hsecond⟩ := isAt_moved_work hapart hjob hfirst
  exact isAt_moved_work hapart hjob hsecond

/-- The records that have been created once one more creation has been tried.  What workers do to
the records until then is left aside. -/
def createdWith (settings : Settings) (s : Session) (created : List Conversion) (c : Creation) :
    List Conversion :=
  created ++ (({ s with store := created.foldl Store.add s.store }.under c.failing).newRecord
    (settings.atMoment c.now) c.sqlContent c.optimization c.tablesExtracted).toOption.toList

/-- A new record depends on how many ids have been drawn, and not on what the records say. -/
theorem newRecord_congr {settings : Settings} {s s' : Session}
    (hdrawn : s.store.drawn = s'.store.drawn) (hfailing : s.failing = s'.failing)
    (sqlContent : Text) (optimization : Optimization) (tablesExtracted : Nat) :
    s.newRecord settings sqlContent optimization tablesExtracted =
      s'.newRecord settings sqlContent optimization tablesExtracted := by
  rw [Session.newRecord, Session.newRecord, Session.guarded, Session.guarded, hdrawn, hfailing]

/-- **A creation** keeps the closed form if it is not one of a record that a message is about. -/
theorem isAt_creates {c : Creation}
    (hother : ∀ job ∈ jobs, job.id ≠ settings.idOf (s.store.drawn + created.length))
    (h : IsAt settings s jobs created changes w) :
    IsAt settings s jobs (createdWith settings s created c) changes (w.creates settings c) := by
  let joined : Session := { s with store := created.foldl Store.add s.store }
  have hdrawn : (w.session.under c.failing).store.drawn = (joined.under c.failing).store.drawn := by
    rw [h.session]
    rfl
  rw [creates, Session.create_eq, newRecord_congr hdrawn rfl, createdWith]
  cases hnew : (joined.under c.failing).newRecord (settings.atMoment c.now)
      c.sqlContent c.optimization c.tablesExtracted with
  | error e =>
    rw [Except.toOption, Option.toList_none, List.append_nil]
    exact h
  | ok record =>
    have hid : ∀ job ∈ jobs, job.id ≠ record.id := by
      obtain ⟨expiry, rfl⟩ := Session.of_newRecord_eq_ok hnew
      intro job hjob
      have hfresh := hother job hjob
      rwa [← drawn_foldl_add] at hfresh
    -- no message is about the new record, so the changes made so far pass it by
    rw [Except.toOption, Option.toList_some]
    refine ⟨?_, h.changes_of_job, h.reaches, h.changes_of_other, h.waiting_of_other, ?_⟩
    · rw [List.foldl_append, List.foldl_cons, List.foldl_nil,
        Store.withChanges_add (h.changes_of_other record.id hid)]
      dsimp only [Except.map]
      rw [h.session]
      rfl
    · intro c hc
      rcases List.mem_append.mp hc with hc | hc
      · exact h.created_other c hc
      · obtain rfl := List.mem_singleton.mp hc
        exact hid

theorem length_createdWith (settings : Settings) (s : Session) (created : List Conversion)
    (c : Creation) :
    created.length ≤ (createdWith settings s created c).length ∧
      (createdWith settings s created c).length ≤ created.length + 1 := by
  rw [createdWith, List.length_append]
  have hone {α : Type} (o : Option α) : o.toList.length ≤ 1 := by
    cases o <;> simp
  exact ⟨Nat.le_add_right _ _, Nat.add_le_add_left (hone _) _⟩

/-- The ids that so many records draw after those that have been created are not those of the
messages. -/
def GivesOtherIds (settings : Settings) (s : Session) (jobs : List Job) (first number : Nat) :
    Prop :=
  ∀ n, first ≤ n → n < first + number →
    ∀ job ∈ jobs, job.id ≠ settings.idOf (s.store.drawn + n)

/-- A creation uses up one id at most. -/
theorem GivesOtherIds.next {number : Nat}
    (h : GivesOtherIds settings s jobs created.length (number + 1)) (c : Creation) :
    (∀ job ∈ jobs, job.id ≠ settings.idOf (s.store.drawn + created.length)) ∧
      GivesOtherIds settings s jobs (createdWith settings s created c).length number := by
  obtain ⟨hge, hle⟩ := length_createdWith settings s created c
  exact ⟨h created.length (Nat.le_refl _) (by omega), fun n hn hlt => h n (by omega) (by omega)⟩

/-- **Any number of calls** keep the closed form, whatever their order. -/
theorem isAt_after (hapart : (jobs.map Job.id).Nodup) {moves : List Move}
    (hmoves : ∀ job ∈ moves.filterMap Move.job?, job ∈ jobs)
    (hothers : GivesOtherIds settings s jobs created.length
      (moves.filterMap Move.creation?).length)
    (h : IsAt settings s jobs created changes w) :
    ∃ changes, IsAt settings s jobs
      ((moves.filterMap Move.creation?).foldl (createdWith settings s) created) changes
        (w.after settings moves) := by
  induction moves generalizing w created changes with
  | nil => exact ⟨changes, h⟩
  | cons move moves ih =>
    cases move with
    | work job =>
      have hjob : job ∈ jobs := hmoves job (by simp [Move.job?])
      obtain ⟨next, hnext⟩ := isAt_moved_work hapart hjob h
      exact ih (fun other hother => hmoves other (by simp [Move.job?, hother])) hothers hnext
    | create c =>
      obtain ⟨hid, hothers⟩ := hothers.next c
      exact ih hmoves hothers (isAt_creates hid h)

/-- Work on one message after the other keeps the closed form as well. -/
theorem isAt_inTurn (hapart : (jobs.map Job.id).Nodup) {order : List Move}
    (horder : ((order.filterMap Move.job?).map Job.id).Nodup)
    (hwaiting : ∀ job ∈ order.filterMap Move.job?, job ∈ jobs ∧ w.progress job.id = .waiting)
    (hothers : GivesOtherIds settings s jobs created.length
      (order.filterMap Move.creation?).length)
    (h : IsAt settings s jobs created changes w) :
    ∃ changes, IsAt settings s jobs
      ((order.filterMap Move.creation?).foldl (createdWith settings s) created) changes
        (w.inTurn settings order) := by
  induction order generalizing w created changes with
  | nil => exact ⟨changes, h⟩
  | cons move order ih =>
    cases move with
    | work job =>
      obtain ⟨hjob, hfirst⟩ := hwaiting job (by simp [Move.job?])
      have hfilter : (Move.work job :: order).filterMap Move.job? =
          job :: order.filterMap Move.job? := rfl
      rw [hfilter, List.map_cons, List.nodup_cons] at horder
      obtain ⟨hnotmem, hrest⟩ := horder
      obtain ⟨next, hnext⟩ := isAt_finished_work hapart hjob hfirst h
      refine ih hrest (fun other hother => ?_) hothers hnext
      -- the messages whose turn has not come are about other conversions
      have hne : other.id ≠ job.id := fun hid =>
        hnotmem (hid ▸ List.mem_map_of_mem hother)
      obtain ⟨hmem, hstill⟩ := hwaiting other (by simp [hfilter, hother])
      rw [finished, progress_leaves, if_neg hne]
      exact ⟨hmem, hstill⟩
    | create c =>
      obtain ⟨hid, hothers⟩ := hothers.next c
      refine ih horder (fun job hjob => ?_) hothers (isAt_creates hid h)
      obtain ⟨hmem, hstill⟩ := hwaiting job hjob
      rw [finished, progress_creates]
      exact ⟨hmem, hstill⟩

/-- Where all work is over, the closed form leaves nothing open. -/
theorem IsAt.unique {w' : Workers} {changes' : Text → List Change}
    (h : IsAt settings s jobs created changes w) (h' : IsAt settings s jobs created changes' w')
    (hended : ∀ job ∈ jobs, ∃ answer, w.progress job.id = .ended answer)
    (hended' : ∀ job ∈ jobs, ∃ answer, w'.progress job.id = .ended answer) : w = w' := by
  -- an answer depends on the session at the start alone
  have hone : ∀ job ∈ jobs, w.progress job.id = w'.progress job.id := by
    intro job hjob
    obtain ⟨answer, hanswer⟩ := hended job hjob
    obtain ⟨answer', hanswer'⟩ := hended' job hjob
    have hfirst := h.reaches job hjob
    have hsecond := h'.reaches job hjob
    rw [hanswer] at hfirst
    rw [hanswer'] at hsecond
    rw [hanswer, hanswer', hfirst, hsecond]
  -- a conversion has its worker, or nobody has touched it
  have hprogress : w.progress = w'.progress := by
    funext id
    by_cases hid : ∃ job ∈ jobs, job.id = id
    · obtain ⟨job, hjob, rfl⟩ := hid
      exact hone job hjob
    · have hother : ∀ job ∈ jobs, job.id ≠ id := fun job hjob h => hid ⟨job, hjob, h⟩
      rw [h.waiting_of_other id hother, h'.waiting_of_other id hother]
  have hchanges : changes = changes' := by
    funext id
    by_cases hid : ∃ job ∈ jobs, job.id = id
    · obtain ⟨job, hjob, rfl⟩ := hid
      rw [h.changes_of_job job hjob, h'.changes_of_job job hjob, hprogress]
    · have hother : ∀ job ∈ jobs, job.id ≠ id := fun job hjob h => hid ⟨job, hjob, h⟩
      rw [h.changes_of_other id hother, h'.changes_of_other id hother]
  have hsession : w.session = w'.session := by
    rw [h.session, h'.session, hchanges]
  exact Workers.ext hsession hprogress

/-! ### The end of the work -/

/-- A call of a worker is one call less that is left. -/
theorem left_after_le (settings : Settings) (w : Workers) (id : Text) (moves : List Move) :
    ((w.after settings moves).progress id).left ≤
      (w.progress id).left - (moves.filterMap Move.job?).countP (·.id = id) := by
  induction moves generalizing w with
  | nil => exact Nat.le_refl _
  | cons move moves ih =>
    rw [after_cons]
    have hrest := ih (w.moved settings move)
    cases move with
    | work job =>
      have hcount : ((Move.work job :: moves).filterMap Move.job?).countP (·.id = id) =
          (moves.filterMap Move.job?).countP (·.id = id) + if job.id = id then 1 else 0 := by
        have hfilter : (Move.work job :: moves).filterMap Move.job? =
            job :: moves.filterMap Move.job? := rfl
        rw [hfilter, List.countP_cons]
        simp only [decide_eq_true_eq]
      rw [hcount]
      rw [moved, progress_leaves] at hrest
      -- only calls for this conversion count
      by_cases hid : job.id = id
      · subst hid
        have hone := job.left_next_le settings (w.progress job.id)
          (w.session.under job.failing)
        rw [if_pos rfl] at hrest ⊢
        rw [moved]
        omega
      · rw [if_neg (fun h => hid h.symm)] at hrest
        rw [if_neg hid]
        exact hrest
    | create c =>
      rw [moved, progress_creates] at hrest
      exact hrest

theorem eq_ended_of_left_eq_zero {p : Progress} (h : p.left = 0) : ∃ answer, p = .ended answer := by
  cases p with
  | ended answer => exact ⟨answer, rfl⟩
  | waiting => exact absurd h (by decide)
  | started => exact absurd h (by decide)
  | designed design => exact absurd h (Nat.succ_ne_zero 0)

/-- Three calls bring any work to its end. -/
theorem ended_after {moves : List Move} (h : 3 ≤ (moves.filterMap Move.job?).count job)
    (s : Session) : ∃ answer, ((start s).after settings moves).progress job.id = .ended answer := by
  have hcount : (moves.filterMap Move.job?).count job ≤
      (moves.filterMap Move.job?).countP (·.id = job.id) := by
    refine List.countP_mono_left fun other _ hother => ?_
    rw [eq_of_beq hother]
    exact decide_eq_true rfl
  have hleft := left_after_le settings (start s) job.id moves
  have hthree : ((start s).progress job.id).left = 3 := rfl
  exact eq_ended_of_left_eq_zero (by omega)

/-- Work that has come to its end, or has its turn still to come, is over in the end. -/
theorem ended_inTurn {order : List Move} {id : Text}
    (h : (∃ answer, w.progress id = .ended answer) ∨
      ∃ job ∈ order.filterMap Move.job?, job.id = id) :
    ∃ answer, (w.inTurn settings order).progress id = .ended answer := by
  induction order generalizing w with
  | nil => simpa [inTurn] using h
  | cons move order ih =>
    rw [inTurn_cons]
    apply ih
    cases move with
    | work job =>
      have hfilter : (Move.work job :: order).filterMap Move.job? =
          job :: order.filterMap Move.job? := rfl
      rw [finished, progress_leaves]
      by_cases hid : id = job.id
      · rw [if_pos hid]
        exact Or.inl ⟨_, rfl⟩
      · rw [if_neg hid]
        rw [hfilter] at h
        rcases h with hended | ⟨other, hother, hsame⟩
        · exact Or.inl hended
        · rcases List.mem_cons.mp hother with rfl | hother
          · exact absurd hsame.symm hid
          · exact Or.inr ⟨other, hother, hsame⟩
    | create c =>
      rw [finished, progress_creates]
      exact h

/-- **Workers do not get in each other's way.**  Let there be messages about different conversions,
and let it be fixed for each which of its calls fail and which design is found.  The workers make
their calls in any order, and other records are created in between.  Every worker comes to its end
with three calls at most.  Once all have come to theirs, the session and with it every record, and
the answers of all workers, are those of working on the messages one after the other in any order,
wherever the same creations take place between them. -/
theorem after_eq_inTurn (settings : Settings) (s : Session) {jobs : List Job}
    {moves order : List Move} (hapart : (jobs.map Job.id).Nodup)
    (hmoves : ∀ job ∈ moves.filterMap Move.job?, job ∈ jobs)
    (hothers : GivesOtherIds settings s jobs 0 (moves.filterMap Move.creation?).length)
    (horder : (order.filterMap Move.job?).Perm jobs)
    (hcreations : order.filterMap Move.creation? = moves.filterMap Move.creation?) :
    let w := (start s).after settings moves
    (∀ job ∈ jobs, 3 ≤ (moves.filterMap Move.job?).count job →
      ∃ answer, w.progress job.id = .ended answer) ∧
    ((∀ job ∈ jobs, ∃ answer, w.progress job.id = .ended answer) →
      w = (start s).inTurn settings order) := by
  intro w
  refine ⟨fun job _ hcount => ended_after hcount s, fun hended => ?_⟩
  -- both runs end in the closed form, with the same records created
  have hstart := isAt_start settings s jobs
  obtain ⟨changes, hafter⟩ := isAt_after hapart hmoves hothers hstart
  have hturns : ((order.filterMap Move.job?).map Job.id).Nodup :=
    (horder.map Job.id).nodup_iff.mpr hapart
  have hwaiting : ∀ job ∈ order.filterMap Move.job?,
      job ∈ jobs ∧ (start s).progress job.id = .waiting :=
    fun job hjob => ⟨horder.mem_iff.mp hjob, rfl⟩
  rw [← hcreations] at hothers hafter
  obtain ⟨changes', hinTurn⟩ := isAt_inTurn hapart hturns hwaiting hothers hstart
  refine hafter.unique hinTurn hended fun job hjob => ended_inTurn ?_
  exact Or.inr ⟨job, horder.mem_iff.mpr hjob, rfl⟩

/-- Three workers, one of whom finds no record and one no design, while a record is created. -/
theorem inTurn_of_three_workers :
    let settings : Settings := ⟨3600, true, "design".toList, ⟨0, 0⟩, decimal⟩
    let create (sql : String) : Step := .create sql.toList .balanced 1
    let s := (Session.start.course settings [⟨⟨0, 0⟩, create "a"⟩, ⟨⟨1, 0⟩, create "b"⟩])
    let job (id : String) (failing : List Call) : Job :=
      ⟨⟨id.toList, "sql".toList, .balanced, 1⟩, failing, ("design of " ++ id).toList⟩
    let a := job "0" []
    let b := job "1" [.generate]
    let c := job "9" []
    let other := Move.create ⟨⟨60, 0⟩, "c".toList, .balanced, 1, []⟩
    let moves := [.work a, .work b, .work a, .work c, other, .work b, .work a, .work c, .work b,
      .work c]
    let order := [.work c, .work b, other, .work a]
    let w := (start s).after settings moves
    w = (start s).inTurn settings order ∧
      (w.session.store.records.map fun c => (c.id, c.status)) =
        [("0".toList, .completed), ("1".toList, .failed), ("2".toList, .pending)] := by
  intro settings create s job a b c other moves order w
  have hapart : ([a, b, c].map Job.id).Nodup := by decide +kernel
  have hmoves : ∀ job ∈ moves.filterMap Move.job?, job ∈ [a, b, c] := by decide +kernel
  have hothers : GivesOtherIds settings s [a, b, c] 0 1 := by
    unfold GivesOtherIds
    decide +kernel
  have horder : (order.filterMap Move.job?).Perm [a, b, c] := by decide +kernel
  have hcreations : order.filterMap Move.creation? = moves.filterMap Move.creation? := by
    decide +kernel
  have hthree : ∀ job ∈ [a, b, c], 3 ≤ (moves.filterMap Move.job?).count job := by decide +kernel
  obtain ⟨hends, hsame⟩ := after_eq_inTurn settings s hapart hmoves hothers horder hcreations
  refine ⟨hsame fun job hjob => hends job hjob (hthree job hjob), ?_⟩
  decide +kernel

end Workers

end SchemaIntake
