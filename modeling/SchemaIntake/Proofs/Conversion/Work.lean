import Mathlib.Data.List.Basic
import SchemaIntake.Proofs.Conversion.Records

/-!
# Work on messages

Work on a message makes up to three calls, each of which may fail.  Its answer and the changes
that it makes are given here for every case at once.  The status that is answered is the one that
the record is left with, but in one case: where there is no design and this cannot be noted, the
conversion is said to have failed and its record says that it is still being worked on.

## Main definitions

* `Session.workAnswer`, `Session.workChanges` — the answer of work on a message, and the changes
  that it makes to the record of the conversion.
* `Session.IsStored s id status` — the record of a conversion has the status.
* `Session.LosesFailures s` — neither a design can be had nor its lack be noted.

## Main results

* `Session.processMessage_eq`, `Session.deadLetter_eq` — what becomes of a message.
* `Session.isStored_of_answer_iff` — **when the answer is what is stored**.
-/

namespace SchemaIntake

open Text

namespace Session

/-! ### Answers and changes -/

def workAnswer (s : Session) (m : Message) : Except CallError Status :=
  match s.refusal? .markProcessing m.conversionId with
  | some e => .error e
  | none =>
    if .generate ∈ s.failing then .ok .failed
    else if .markCompleted ∈ s.failing then .error Call.markCompleted.failure
    else .ok .completed

/-- The changes that work on a message makes to the record of its conversion, one for each call
to the store that succeeds. -/
def workChanges (settings : Settings) (s : Session) (m : Message) : List Change :=
  if (s.refusal? .markProcessing m.conversionId).isSome then []
  else .started ::
    if .generate ∈ s.failing then
      if .markFailed ∈ s.failing then [] else [.failed Call.generate.failure.message]
    else if .markCompleted ∈ s.failing then [] else [.completed settings.design]

/-- The changes that giving up a message makes to the record of its conversion. -/
def giveUpChanges (s : Session) (m : Message) : List Change :=
  if (s.refusal? .markFailed m.conversionId).isSome then [] else [.failed retriesExceeded]

/-! ### What becomes of a message -/

theorem failing_changed (s : Session) (id : Text) (changes : List Change) :
    (s.changed id changes).failing = s.failing := rfl

theorem isSome_get?_changed (s : Session) (id : Text) (changes : List Change) :
    ((s.changed id changes).store.get? id).isSome = (s.store.get? id).isSome := by
  rw [changed, Store.get?_changed, if_pos rfl, Option.isSome_map]

/-- Changes to a record neither make a call fail nor keep it from failing. -/
theorem refusal?_changed (s : Session) (call : Call) (id : Text) (changes : List Change) :
    (s.changed id changes).refusal? call id = s.refusal? call id := by
  rw [refusal?, refusal?, isSome_get?_changed]
  rfl

/-- Where there is a record, a call is refused exactly if it is failing. -/
theorem refusal?_of_get? {s : Session} {id : Text} (h : (s.store.get? id).isSome = true)
    (call : Call) : s.refusal? call id =
      if call ∈ s.failing then some call.failure else none := by
  rw [refusal?, if_pos h]

/-- **Work on a message** gives its answer and makes its changes. -/
theorem processMessage_eq (settings : Settings) (s : Session) (m : Message) :
    s.processMessage settings m =
      (s.workAnswer m, s.changed m.conversionId (s.workChanges settings m)) := by
  rw [processMessage, markProcessing_eq, workAnswer, workChanges]
  cases hrefusal : s.refusal? .markProcessing m.conversionId with
  | some e => rfl
  | none =>
    obtain ⟨c, hc⟩ := (refusal?_eq_none_iff.mp hrefusal).2
    have hfound : (s.store.get? m.conversionId).isSome = true := by
      rw [hc]
      rfl
    -- the record that has just been changed is there for the second change as well
    have hstarted (call : Call) := s.refusal?_changed call m.conversionId [.started]
    rw [Option.isSome_none, if_neg Bool.false_ne_true]
    dsimp only
    rw [generate, guarded, failing_changed]
    by_cases hgenerate : Call.generate ∈ s.failing
    · rw [if_pos hgenerate, if_pos hgenerate, if_pos hgenerate]
      dsimp only
      rw [markFailed_eq, hstarted, refusal?_of_get? hfound]
      by_cases hfailed : Call.markFailed ∈ s.failing
      · rw [if_pos hfailed, if_pos hfailed]
      · rw [if_neg hfailed, if_neg hfailed]
        rfl
    · rw [if_neg hgenerate, if_neg hgenerate, if_neg hgenerate]
      dsimp only
      rw [markCompleted_eq, hstarted, refusal?_of_get? hfound]
      by_cases hcompleted : Call.markCompleted ∈ s.failing
      · rw [if_pos hcompleted, if_pos hcompleted, if_pos hcompleted]
      · rw [if_neg hcompleted, if_neg hcompleted, if_neg hcompleted]
        rfl

/-- **A message that is given up** is refused or makes its change. -/
theorem deadLetter_eq (s : Session) (body : Text) : s.deadLetter body =
    match Wire.ofText? (α := Message) body with
    | none => .error .undecodable
    | some m =>
      match s.refusal? .markFailed m.conversionId with
      | some e => .error e
      | none => .ok (s.changed m.conversionId (s.giveUpChanges m)) := by
  rw [deadLetter]
  cases Wire.ofText? (α := Message) body with
  | none => rfl
  | some m =>
    dsimp only
    rw [markFailed_eq, giveUpChanges]
    cases s.refusal? .markFailed m.conversionId <;> rfl

/-! ### What is answered and what is stored -/

/-- The record of a conversion has a given status. -/
def IsStored (s : Session) (id : Text) (status : Status) : Prop :=
  (s.store.get? id).map (·.status) = some status

instance (s : Session) (id : Text) (status : Status) : Decidable (s.IsStored id status) := by
  unfold IsStored
  infer_instance

/-- Neither a design can be had nor can it be noted that there is none. -/
def LosesFailures (s : Session) : Prop := .generate ∈ s.failing ∧ .markFailed ∈ s.failing

instance (s : Session) : Decidable s.LosesFailures := by
  unfold LosesFailures
  infer_instance

/-- After some changes a record has the status of the last one. -/
theorem isStored_changed_concat {s : Session} {id : Text} {c : Conversion}
    (h : s.store.get? id = some c) (changes : List Change) (change : Change) :
    (s.changed id (changes ++ [change])).IsStored id change.status := by
  rw [IsStored, changed, Store.get?_changed, if_pos rfl, h, Option.map_some, Option.map_some,
    Conversion.changed_append, Conversion.changed_cons, Conversion.changed_nil,
    Change.status_apply]

theorem IsStored.unique {s : Session} {id : Text} {a b : Status} (ha : s.IsStored id a)
    (hb : s.IsStored id b) : a = b :=
  Option.some.inj (ha.symm.trans hb)

/-- What is stored after work on a message that gives a status: the status, unless the failure is
lost; then the record says that the conversion is still being worked on. -/
theorem isStored_of_processMessage {settings : Settings} {s s' : Session} {m : Message}
    {status : Status} (h : s.processMessage settings m = (.ok status, s')) :
    (¬ s.LosesFailures → s'.IsStored m.conversionId status) ∧
      (s.LosesFailures → status = .failed ∧ s'.IsStored m.conversionId .processing) := by
  rw [processMessage_eq] at h
  obtain ⟨hanswer, rfl⟩ := Prod.mk.inj h
  rw [workAnswer] at hanswer
  rw [workChanges]
  cases hrefusal : s.refusal? .markProcessing m.conversionId with
  | some e => simp [hrefusal] at hanswer
  | none =>
    obtain ⟨c, hc⟩ := (refusal?_eq_none_iff.mp hrefusal).2
    rw [hrefusal] at hanswer
    dsimp only at hanswer
    rw [if_neg (by simp)]
    -- the last call that is made decides what is stored
    by_cases hgenerate : Call.generate ∈ s.failing
    · rw [if_pos hgenerate] at hanswer ⊢
      obtain rfl := Except.ok.inj hanswer
      by_cases hfailed : Call.markFailed ∈ s.failing
      · rw [if_pos hfailed]
        refine ⟨fun hnot => absurd ⟨hgenerate, hfailed⟩ hnot, fun _ => ⟨rfl, ?_⟩⟩
        exact isStored_changed_concat hc [] .started
      · rw [if_neg hfailed]
        refine ⟨fun _ => ?_, fun hlost => absurd hlost.2 hfailed⟩
        exact isStored_changed_concat hc [.started] (.failed Call.generate.failure.message)
    · rw [if_neg hgenerate] at hanswer ⊢
      split at hanswer
      · exact absurd hanswer (by simp)
      · next hcompleted =>
        obtain rfl := Except.ok.inj hanswer
        rw [if_neg hcompleted]
        refine ⟨fun _ => ?_, fun hlost => absurd hlost.1 hgenerate⟩
        exact isStored_changed_concat hc [.started] (.completed settings.design)

/-- A message that is given as text is worked on like any other. -/
theorem exists_message_of_process {settings : Settings} {s s' : Session} {body : Text}
    {status : Status} (h : s.process settings body = (.ok status, s')) :
    ∃ m : Message, Wire.ofText? body = some m ∧ s.processMessage settings m = (.ok status, s') := by
  rw [process] at h
  split at h
  · exact absurd (Prod.mk.inj h).1 (by simp)
  · next m hm => exact ⟨m, hm, h⟩

/-- **When the answer is what is stored.**  Whenever work on a message gives a status, the record
of the conversion has that status exactly if it is not the case that both the design generator
and noting its failure are failing.  In that case the answer is that the conversion has failed,
and the record says that it is being worked on. -/
theorem isStored_of_answer_iff (settings : Settings) (s s' : Session) (status : Status) :
    (∀ m : Message, s.processMessage settings m = (.ok status, s') →
      (s'.IsStored m.conversionId status ↔ ¬ s.LosesFailures) ∧
      (s.LosesFailures → status = .failed ∧ s'.IsStored m.conversionId .processing)) ∧
    ∀ body : Text, s.process settings body = (.ok status, s') →
      ∃ m : Message, Wire.ofText? body = some m ∧
        (s'.IsStored m.conversionId status ↔ ¬ s.LosesFailures) ∧
        (s.LosesFailures → status = .failed ∧ s'.IsStored m.conversionId .processing) := by
  have hmessage : ∀ m : Message, s.processMessage settings m = (.ok status, s') →
      (s'.IsStored m.conversionId status ↔ ¬ s.LosesFailures) ∧
      (s.LosesFailures → status = .failed ∧ s'.IsStored m.conversionId .processing) := by
    intro m h
    obtain ⟨hkept, hlost⟩ := isStored_of_processMessage h
    refine ⟨⟨fun hstored hloses => ?_, hkept⟩, hlost⟩
    -- a record that is being worked on has not failed
    obtain ⟨rfl, hprocessing⟩ := hlost hloses
    exact absurd (hstored.unique hprocessing) (by decide)
  refine ⟨hmessage, fun body h => ?_⟩
  obtain ⟨m, hm, hprocess⟩ := exists_message_of_process h
  exact ⟨m, hm, hmessage m hprocess⟩

/-- A failure that can be noted is stored, whether the message is given as such or as text. -/
theorem isStored_noted_failure :
    let settings : Settings := ⟨3600, true, "design".toList, ⟨0, 0⟩, decimal⟩
    let s : Session :=
      { (start.step settings (.create "sql".toList .balanced 1)).2 with failing := [.generate] }
    let m : Message := ⟨"0".toList, "sql".toList, .balanced, 1⟩
    let s' := (s.processMessage settings m).2
    s.processMessage settings m = (.ok .failed, s') ∧
      s.process settings (Wire.toText .compact m) = (.ok .failed, s') ∧
      s'.IsStored "0".toList .failed := by
  intro settings s m s'
  have hmessage : s.processMessage settings m = (.ok .failed, s') := by decide +kernel
  have hprocess : s.process settings (Wire.toText .compact m) = (.ok .failed, s') := by
    decide +kernel
  obtain ⟨hiff, -⟩ := (isStored_of_answer_iff settings s s' .failed).1 m hmessage
  exact ⟨hmessage, hprocess, hiff.mpr (by decide +kernel)⟩

/-- Where neither a design can be had nor its lack be noted, a conversion is said to have failed
while its record says that it is being worked on. -/
theorem lost_failure_not_stored :
    let settings : Settings := ⟨3600, true, "design".toList, ⟨0, 0⟩, decimal⟩
    let s : Session :=
      { (start.step settings (.create "sql".toList .balanced 1)).2 with
        failing := [.generate, .markFailed] }
    let m : Message := ⟨"0".toList, "sql".toList, .balanced, 1⟩
    let r := s.processMessage settings m
    r.1 = .ok .failed ∧ ¬ r.2.IsStored "0".toList .failed ∧
      r.2.IsStored "0".toList .processing := by
  decide +kernel

end Session

end SchemaIntake
