import SchemaIntake.Proofs.Conversion.Intake
import SchemaIntake.Proofs.Conversion.Work

/-!
# The life of a conversion

As long as no new record draws its id, a record is changed only while a message about its conversion
is worked on or given up.  What that does to the status does not depend on the status: work starts
anew and a message is given up even where the conversion has already ended.  So a conversion that
has ended stays as it is until another message about it comes, and may then be worked on again or be
said to have failed.

## Main definitions

* `Delivery`, `Step.delivery? s step` — the message that a step works on or gives up.
* `Session.after settings s steps` — the session after some steps.
* `Session.history settings s id steps` — the changes that some steps make to one record.
* `Session.IsSpent settings s id` — no record that is created from now on bears the id.
* `Status.advancesTo`, `Status.reopensTo` — the steps of the life of a conversion, and the ways
  out of its end.

## Main results

* `Session.store_step_of_delivery`, `Session.store_step_of_no_delivery` — what a step does to the
  store.
* `Session.get?_step` — what a step makes of a record.
* `Session.get?_after` — what a run makes of a record.
* `Session.statuses_along_run` — **which statuses follow each other along a run**.
-/

namespace SchemaIntake

open Text

/-! ### Deliveries -/

/-- What is done with a message. -/
inductive Delivery
  /-- The message is worked on. -/
  | work (m : Message)
  /-- The message is given up. -/
  | giveUp (m : Message)
deriving DecidableEq, Repr

namespace Delivery

def message : Delivery → Message
  | work m => m
  | giveUp m => m

/-- The changes that a delivery makes to the record of its conversion. -/
def changes (settings : Settings) (s : Session) : Delivery → List Change
  | work m => s.workChanges settings m
  | giveUp m => s.giveUpChanges m

/-- Either way, the changes are one of few. -/
theorem changes_cases (settings : Settings) (s : Session) (d : Delivery) :
    d.changes settings s = [] ∨ d.changes settings s = [.started] ∨
      (∃ design, d.changes settings s = [.started, .completed design]) ∨
      (∃ message, d.changes settings s = [.started, .failed message]) ∨
      ∃ message, d.changes settings s = [.failed message] := by
  cases d with
  | work m =>
    rw [changes, Session.workChanges]
    split
    · simp
    · split
      · split <;> simp
      · split <;> simp
  | giveUp m =>
    rw [changes, Session.giveUpChanges]
    split <;> simp

end Delivery

/-- The message that a step works on or gives up. -/
def Step.delivery? (s : Session) : Step → Option Delivery
  | .processMessage m => some (.work m)
  | .process body => (Wire.ofText? body).map .work
  | .popProcess => s.queue.head?.map .work
  | .deadLetter body => (Wire.ofText? body).map .giveUp
  | .popDeadLetter =>
    (s.queue.head?.bind fun m => Wire.ofText? (Wire.toText .compact m)).map .giveUp
  | _ => none

/-- Whether a step is a call of the store that changes a record directly. -/
def Step.isMark : Step → Bool
  | .markProcessing _ => true
  | .markCompleted _ _ => true
  | .markFailed _ _ => true
  | _ => false

namespace Session

/-! ### One step -/

theorem answerStatus_snd (r : Except CallError Status × Session) : (answerStatus r).2 = r.2 := by
  obtain ⟨answer, s⟩ := r
  cases answer <;> rfl

/-- Whatever becomes of a message that is given up, its changes are made. -/
theorem answerWith_deadLetter (s : Session) (answer : Answer) (body : Text) :
    (s.answerWith answer (s.deadLetter body)).2.store =
      match Wire.ofText? (α := Message) body with
      | none => s.store
      | some m => s.store.changed m.conversionId (s.giveUpChanges m) := by
  rw [deadLetter_eq]
  cases Wire.ofText? (α := Message) body with
  | none => rfl
  | some m =>
    dsimp only
    cases hrefusal : s.refusal? .markFailed m.conversionId with
    | some e => simp [answerWith, giveUpChanges, hrefusal]
    | none => rfl

/-- A request adds the record that it creates, if it creates one. -/
theorem store_submit (settings : Settings) (s : Session) (body : Text) :
    (s.submit settings body).2.store =
      (s.accepted settings body).toOption.elim s.store s.store.add := by
  rw [submit_eq]
  cases s.accepted settings body with
  | error e => rfl
  | ok c =>
    dsimp only
    split
    · rfl
    · split <;> rfl

/-- **A step that delivers a message** makes the changes of the delivery. -/
theorem store_step_of_delivery (settings : Settings) (s : Session) {step : Step} {d : Delivery}
    (h : step.delivery? s = some d) : (s.step settings step).2.store =
      s.store.changed d.message.conversionId (d.changes settings s) := by
  cases step with
  | processMessage m =>
    obtain rfl := Option.some.inj h
    rw [step, answerStatus_snd, processMessage_eq]
    rfl
  | process body =>
    obtain ⟨m, hm, rfl⟩ := Option.map_eq_some_iff.mp h
    rw [step, answerStatus_snd, process, hm]
    dsimp only
    rw [processMessage_eq]
    rfl
  | popProcess =>
    obtain ⟨m, hm, rfl⟩ := Option.map_eq_some_iff.mp h
    obtain ⟨rest, hqueue⟩ := List.head?_eq_some_iff.mp hm
    rw [step, pop?, hqueue]
    dsimp only
    rw [answerStatus_snd, processMessage_eq]
    rfl
  | deadLetter body =>
    obtain ⟨m, hm, rfl⟩ := Option.map_eq_some_iff.mp h
    rw [step, answerWith_deadLetter, hm]
    rfl
  | popDeadLetter =>
    obtain ⟨m, hm, rfl⟩ := Option.map_eq_some_iff.mp h
    -- the message is written out to be given up, and read back from that
    obtain ⟨sent, hsent, hread⟩ := Option.bind_eq_some_iff.mp hm
    obtain ⟨rest, hqueue⟩ := List.head?_eq_some_iff.mp hsent
    rw [step, pop?, hqueue]
    dsimp only
    rw [answerWith_deadLetter, hread]
    rfl
  | _ => exact absurd h (by simp [Step.delivery?])

/-- **A step that delivers no message** adds the record that it creates, if it creates one, and
leaves the store alone otherwise, unless it is a direct call to the store. -/
theorem store_step_of_no_delivery (settings : Settings) (s : Session) {step : Step}
    (h : step.delivery? s = none) (hmark : step.isMark = false) :
    (s.step settings step).2.store = (step.created? settings s).elim s.store s.store.add := by
  cases step with
  | submit body =>
    have hsubmit := store_submit settings s body
    rw [step]
    split <;> simp_all [Step.created?]
  | create sqlContent optimization tablesExtracted =>
    rw [step, create_eq, Step.created?]
    cases s.newRecord settings sqlContent optimization tablesExtracted with
    | error e => rfl
    | ok c => rfl
  | markProcessing id => exact absurd hmark (by simp [Step.isMark])
  | markCompleted id design => exact absurd hmark (by simp [Step.isMark])
  | markFailed id message => exact absurd hmark (by simp [Step.isMark])
  | processMessage m => exact absurd h (by simp [Step.delivery?])
  | fail calls => rfl
  | get id =>
    rw [step]
    split <;> rfl
  | list =>
    rw [step]
    split <;> rfl
  | send body =>
    rw [step]
    split
    · rfl
    · rw [send_eq]
      split <;> rfl
  | messages => rfl
  | pop =>
    rw [step, pop?]
    cases s.queue <;> rfl
  | process body =>
    rw [Step.delivery?, Option.map_eq_none_iff] at h
    rw [step, answerStatus_snd, process, h]
    rfl
  | popProcess =>
    rw [Step.delivery?, Option.map_eq_none_iff, List.head?_eq_none_iff] at h
    rw [step, pop?, h]
    rfl
  | deadLetter body =>
    rw [Step.delivery?, Option.map_eq_none_iff] at h
    rw [step, answerWith_deadLetter, h]
    rfl
  | popDeadLetter =>
    rw [Step.delivery?, Option.map_eq_none_iff] at h
    rw [step, pop?]
    cases hqueue : s.queue with
    | nil => rfl
    | cons m rest =>
      -- a message that waits, but that its own text does not stand for
      rw [hqueue, List.head?_cons, Option.bind_some] at h
      dsimp only
      rw [answerWith_deadLetter, h]
      rfl

/-! ### One record -/

/-- The changes that a step makes to the record of a conversion. -/
def changesTo (settings : Settings) (s : Session) (id : Text) (step : Step) : List Change :=
  match step.delivery? s with
  | some d => if d.message.conversionId = id then d.changes settings s else []
  | none => []

/-- An id is spent if no record bears it that is created from now on. -/
def IsSpent (settings : Settings) (s : Session) (id : Text) : Prop :=
  ∀ n, s.store.drawn ≤ n → settings.idOf n ≠ id

/-- Ids are drawn one after the other, and none is given back. -/
theorem drawn_le_step (settings : Settings) (s : Session) {step : Step}
    (hmark : step.isMark = false) : s.store.drawn ≤ (s.step settings step).2.store.drawn := by
  cases hdelivery : step.delivery? s with
  | some d =>
    rw [store_step_of_delivery settings s hdelivery]
    exact Nat.le_of_eq (Store.drawn_changed _ _ _).symm
  | none =>
    rw [store_step_of_no_delivery settings s hdelivery hmark]
    cases step.created? settings s with
    | none => exact Nat.le_refl _
    | some c => exact Nat.le_succ _

theorem IsSpent.step {settings : Settings} {s : Session} {id : Text} (h : s.IsSpent settings id)
    {step : Step} (hmark : step.isMark = false) :
    (s.step settings step).2.IsSpent settings id := by
  intro n hn
  exact h n (Nat.le_trans (drawn_le_step settings s hmark) hn)

/-- **What a step makes of a record** whose id is spent: the changes of the message that the step
delivers, if that is a message about the conversion. -/
theorem get?_step {settings : Settings} {s : Session} {step : Step} (hmark : step.isMark = false)
    {id : Text} (hspent : s.IsSpent settings id) {c : Conversion} (hc : s.store.get? id = some c) :
    (s.step settings step).2.store.get? id =
      some (c.changed (s.changesTo settings id step)) := by
  rw [changesTo]
  cases hdelivery : step.delivery? s with
  | none =>
    rw [store_step_of_no_delivery settings s hdelivery hmark]
    cases hcreated : step.created? settings s with
    | none => exact hc
    | some new =>
      -- the new record does not come in the place of this one
      have hne : id ≠ new.id := by
        rw [id_of_created? hcreated]
        exact (hspent _ (Nat.le_refl _)).symm
      rw [Option.elim_some, Store.get?_add, if_neg hne]
      exact hc
  | some d =>
    rw [store_step_of_delivery settings s hdelivery, Store.get?_changed]
    dsimp only
    by_cases hid : d.message.conversionId = id
    · rw [if_pos hid, if_pos hid.symm, hid, hc, Option.map_some]
    · rw [if_neg hid, if_neg (Ne.symm hid), hc, Conversion.changed_nil]

end Session

/-! ### Statuses that follow each other -/

/-- The steps of the life of a conversion. -/
def Status.advancesTo : Status → Status → Bool
  | pending, processing => true
  | pending, failed => true
  | processing, completed => true
  | processing, failed => true
  | _, _ => false

/-- The ways out of the end of a conversion. -/
def Status.reopensTo : Status → Status → Bool
  | completed, processing => true
  | completed, failed => true
  | failed, processing => true
  | _, _ => false

/-- Whether a record of one status may next have the other one. -/
def Status.MayBecome (a b : Status) : Prop :=
  a = b ∨ a.advancesTo b = true ∨ a.reopensTo b = true

instance (a b : Status) : Decidable (a.MayBecome b) := by
  unfold Status.MayBecome
  infer_instance

/-- The statuses that a record goes through under some changes, its own first. -/
def Conversion.statuses (c : Conversion) : List Change → List Status
  | [] => [c.status]
  | change :: changes => c.status :: (change.apply c).statuses changes

theorem Conversion.statuses_eq_cons (c : Conversion) (changes : List Change) :
    ∃ rest, c.statuses changes = c.status :: rest := by
  cases changes with
  | nil => exact ⟨[], rfl⟩
  | cons change changes => exact ⟨_, rfl⟩

/-- Changes one after the other: if the statuses of each part may follow each other, so may those
of the whole. -/
theorem Conversion.isChain_statuses_append {c : Conversion} {first second : List Change}
    (hfirst : (c.statuses first).IsChain Status.MayBecome)
    (hsecond : ((c.changed first).statuses second).IsChain Status.MayBecome) :
    (c.statuses (first ++ second)).IsChain Status.MayBecome := by
  induction first generalizing c with
  | nil => exact hsecond
  | cons change first ih =>
    rw [List.cons_append, statuses]
    rw [statuses] at hfirst
    obtain ⟨rest, hrest⟩ := (change.apply c).statuses_eq_cons first
    obtain ⟨rest', hrest'⟩ := (change.apply c).statuses_eq_cons (first ++ second)
    rw [hrest, List.isChain_cons_cons, ← hrest] at hfirst
    rw [hrest', List.isChain_cons_cons, ← hrest']
    exact ⟨hfirst.1, ih hfirst.2 hsecond⟩

/-- **One delivery**, whatever the status that it finds. -/
theorem Delivery.isChain_statuses (settings : Settings) (s : Session) (d : Delivery)
    (c : Conversion) : (c.statuses (d.changes settings s)).IsChain Status.MayBecome := by
  -- work may start and a message may be given up in any status
  have hstarted : ∀ a : Status, a.MayBecome .processing := by
    intro a
    cases a <;> decide
  have hfailed : ∀ a : Status, a.MayBecome .failed := by
    intro a
    cases a <;> decide
  have hcompleted : Status.processing.MayBecome .completed := by decide
  rcases d.changes_cases settings s with h | h | ⟨design, h⟩ | ⟨message, h⟩ | ⟨message, h⟩
  · rw [h]
    exact .singleton _
  · rw [h]
    exact .cons_cons (hstarted c.status) (.singleton _)
  · rw [h]
    exact .cons_cons (hstarted c.status) (.cons_cons hcompleted (.singleton _))
  · rw [h]
    exact .cons_cons (hstarted c.status) (.cons_cons (hfailed .processing) (.singleton _))
  · rw [h]
    exact .cons_cons (hfailed c.status) (.singleton _)

namespace Session

/-! ### Runs -/

def after (settings : Settings) (s : Session) (steps : List Step) : Session :=
  ((s.run settings steps).getLast?.map (·.2)).getD s

theorem after_cons (settings : Settings) (s : Session) (step : Step) (steps : List Step) :
    s.after settings (step :: steps) = (s.step settings step).2.after settings steps := by
  rw [after, run, List.getLast?_cons, Option.map_some, Option.getD_some, after]
  cases ((s.step settings step).2.run settings steps).getLast? <;> rfl

/-- The messages that some steps work on or give up. -/
def deliveries (settings : Settings) (s : Session) : List Step → List Delivery
  | [] => []
  | step :: steps =>
    (step.delivery? s).toList ++ (s.step settings step).2.deliveries settings steps

/-- The changes that some steps make to the record of a conversion. -/
def history (settings : Settings) (s : Session) (id : Text) : List Step → List Change
  | [] => []
  | step :: steps =>
    s.changesTo settings id step ++ (s.step settings step).2.history settings id steps

variable (settings : Settings) {s : Session} {steps : List Step} {id : Text} {c : Conversion}

/-- **What a run makes of a record** whose id is spent: the changes of its history, in order. -/
theorem get?_after (hmark : ∀ step ∈ steps, step.isMark = false)
    (hspent : s.IsSpent settings id) (hc : s.store.get? id = some c) :
    (s.after settings steps).store.get? id =
      some (c.changed (s.history settings id steps)) := by
  induction steps generalizing s c with
  | nil => exact hc
  | cons step steps ih =>
    have hfirst : step.isMark = false := hmark step List.mem_cons_self
    have hrest : ∀ other ∈ steps, other.isMark = false :=
      fun other hother => hmark other (List.mem_cons_of_mem step hother)
    have hstep := get?_step hfirst hspent hc
    rw [after_cons, ih hrest (hspent.step hfirst) hstep, history, Conversion.changed_append]

/-- The statuses of a history may follow each other. -/
theorem isChain_statuses_history (steps : List Step) (c : Conversion) :
    (c.statuses (s.history settings id steps)).IsChain Status.MayBecome := by
  induction steps generalizing s c with
  | nil => exact List.IsChain.singleton _
  | cons step steps ih =>
    rw [history]
    refine Conversion.isChain_statuses_append ?_ (ih _)
    rw [changesTo]
    split
    · next d _ =>
      split
      · exact d.isChain_statuses settings s c
      · exact List.IsChain.singleton _
    · exact List.IsChain.singleton _

/-- Without a message about a conversion nothing is changed in its record. -/
theorem history_eq_nil
    (h : ∀ d ∈ s.deliveries settings steps, d.message.conversionId ≠ id) :
    s.history settings id steps = [] := by
  induction steps generalizing s with
  | nil => rfl
  | cons step steps ih =>
    rw [deliveries] at h
    rw [history, ih fun d hd => h d (List.mem_append_right _ hd), List.append_nil, changesTo]
    cases hdelivery : step.delivery? s with
    | none => rfl
    | some d => exact if_neg (h d (by simp [hdelivery]))

/-- **Which statuses follow each other along a run.**  Along any run without direct calls to the
store, and as long as new records draw other ids, a record goes through the changes of its history.
From one status to the next, the conversion takes a step of its life, or it is reopened.  As long as
no message about the conversion is worked on or given up, the record stays as it is. -/
theorem statuses_along_run (hmark : ∀ step ∈ steps, step.isMark = false)
    (hspent : s.IsSpent settings id) (hc : s.store.get? id = some c) :
    (s.after settings steps).store.get? id =
        some (c.changed (s.history settings id steps)) ∧
      (c.statuses (s.history settings id steps)).IsChain
        (fun a b => a = b ∨ a.advancesTo b = true ∨ a.reopensTo b = true) ∧
      ((∀ d ∈ s.deliveries settings steps, d.message.conversionId ≠ id) →
        (s.after settings steps).store.get? id = some c) := by
  have hafter := get?_after settings hmark hspent hc
  refine ⟨hafter, isChain_statuses_history settings steps c, fun hnone => ?_⟩
  rw [hafter, history_eq_nil settings hnone, Conversion.changed_nil]

/-- A conversion comes to a design, is worked on again without one, and is given up; work on the
other conversion and one more request do not touch it. -/
theorem statuses_of_redelivered :
    let settings : Settings :=
      ⟨3600, true, "design".toList, ⟨0, 0⟩, fun n => List.replicate (n + 1) 'i'⟩
    let s := start.after settings
      [.create "a".toList .balanced 1, .create "b".toList .balanced 1]
    let c : Conversion := ⟨"i".toList, .pending, "1970-01-01T00:00:00Z".toList, 3600,
      "1970-01-01".toList, "a".toList, .balanced, 1, none, none⟩
    let body := "\x7b\"sqlContent\": \"CREATE TABLE t (id INT);\"\x7d".toList
    let steps : List Step := [.processMessage c.message, .fail [.generate],
      .processMessage c.message, .deadLetter (Wire.toText .compact c.message)]
    let others : List Step := [.processMessage ⟨"ii".toList, "b".toList, .balanced, 1⟩,
      .submit body]
    s.IsSpent settings "i".toList ∧ s.store.get? "i".toList = some c ∧
      (c.statuses (s.history settings "i".toList steps)).IsChain
        (fun a b => a = b ∨ a.advancesTo b = true ∨ a.reopensTo b = true) ∧
      c.statuses (s.history settings "i".toList steps) =
        [.pending, .processing, .completed, .processing, .failed, .failed] ∧
      (s.after settings others).store.get? "i".toList = some c := by
  intro settings s c body steps others
  have hspent : s.IsSpent settings "i".toList := by
    -- two ids are drawn, and all others are longer
    have hdrawn : s.store.drawn = 2 := by decide +kernel
    intro n hn h
    have hlength : n + 1 = 1 := by simpa [settings] using congrArg List.length h
    omega
  have hc : s.store.get? "i".toList = some c := by decide +kernel
  have hsteps : ∀ step ∈ steps, step.isMark = false := by decide +kernel
  have hothers : ∀ step ∈ others, step.isMark = false := by decide +kernel
  have hdeliveries : ∀ d ∈ s.deliveries settings others,
      d.message.conversionId ≠ "i".toList := by decide +kernel
  obtain ⟨-, hchain, -⟩ := statuses_along_run settings hsteps hspent hc
  obtain ⟨-, -, hsame⟩ := statuses_along_run settings hothers hspent hc
  exact ⟨hspent, hc, hchain, by decide +kernel, hsame hdeliveries⟩

/-- A conversion that has come to its design is said to have failed once its message is given up,
and is worked on again when the message comes again; one that has failed may still come to a
design. -/
theorem ended_conversion_reopened :
    let settings : Settings := ⟨3600, true, "design".toList, ⟨0, 0⟩, decimal⟩
    let body := "\x7b\"sqlContent\": \"CREATE TABLE t (id INT);\"\x7d".toList
    let m : Message := ⟨"0".toList, "CREATE TABLE t (id INT);".toList, .balanced, 1⟩
    let text := Wire.toText .compact m
    let completed := start.after settings [.submit body, .popProcess]
    let failed := completed.after settings [.deadLetter text]
    completed.IsStored "0".toList .completed ∧ failed.IsStored "0".toList .failed ∧
      (completed.after settings [.fail [.markCompleted], .process text]).IsStored "0".toList
        .processing ∧
      (failed.after settings [.process text]).IsStored "0".toList .completed := by
  decide +kernel

end Session

end SchemaIntake
