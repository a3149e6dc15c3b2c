import SchemaIntake.Proofs.Conversion.Courses

/-!
# Messages that are given up

Work on a message that is broken off leaves little behind: nothing at all, or a record that says
that its conversion is being worked on.  Giving the message up afterwards brings that record to an
end, whatever has been left behind, and may be repeated.

## Main definitions

* `Session.IsChangedAt s s' id change` — two sessions that differ in one record only.

## Main results

* `Session.workChanges_of_error` — what broken off work has changed.
* `Session.deadLetter_step_eq` — a message that can be given up.
* `Session.broken_off_work_recovered` — **giving up recovers what broken off work leaves**.
-/

namespace SchemaIntake

open Text

namespace Session

/-! ### One record -/

/-- The two sessions differ in nothing but one record, the first one with the id; the second has
the changed record in its place. -/
def IsChangedAt (s s' : Session) (id : Text) (change : Conversion → Conversion) : Prop :=
  ∃ before c after, s.store.records = before ++ c :: after ∧ c.id = id ∧
    (∀ b ∈ before, b.id ≠ id) ∧
      s' = { s with store := { s.store with records := before ++ change c :: after } }

/-- Where there is a record of the conversion, changes to it change nothing else. -/
theorem isChangedAt_changed {s : Session} {id : Text} (h : (s.store.get? id).isSome = true)
    (changes : List Change) :
    s.IsChangedAt (s.changed id changes) id (·.changed changes) := by
  obtain ⟨c, hc⟩ := Option.isSome_iff_exists.mp h
  rcases Store.updateFirst_cases s.store.records with
    ⟨hnone, -⟩ | ⟨before, c', after, hsplit, hid, hbefore, hone⟩
  · -- the record that is looked up is one of them
    have hmem : c ∈ s.store.records := List.mem_of_find?_eq_some hc
    have hid : c.id = id := by simpa using List.find?_some hc
    exact absurd hid (hnone c hmem)
  · refine ⟨before, c', after, hsplit, hid, hbefore, ?_⟩
    rw [changed, Store.changed_eq, hone]

/-- To fail with the same message again changes nothing. -/
theorem changed_failed_failed (s : Session) (id message : Text) :
    (s.changed id [.failed message]).changed id [.failed message] =
      s.changed id [.failed message] := by
  have hstore : (s.store.changed id [.failed message]).changed id [.failed message] =
      s.store.changed id [.failed message] := by
    rw [Store.changed_eq, Store.changed_eq,
      Store.updateFirst_updateFirst fun c => Conversion.id_changed c _]
    rfl
  exact congrArg (fun store => { s with store := store }) hstore

/-! ### Work that is broken off -/

/-- A call to the store that is refused could read its message. -/
theorem refusal?_ne_undecodable (s : Session) (call : Call) (id : Text) :
    s.refusal? call id ≠ some .undecodable := by
  rw [refusal?]
  split
  · simp [Call.failure]
  · split <;> simp

/-- And so could work on a message that is broken off. -/
theorem workAnswer_ne_undecodable (s : Session) (m : Message) :
    s.workAnswer m ≠ .error .undecodable := by
  rw [workAnswer]
  cases hrefusal : s.refusal? .markProcessing m.conversionId with
  | some e =>
    intro h
    obtain rfl := Except.error.inj h
    exact refusal?_ne_undecodable s _ _ hrefusal
  | none =>
    dsimp only
    split
    · simp
    · split <;> simp [Call.failure]

/-- **What broken off work has changed**: nothing, or the record says that the conversion is being
worked on. -/
theorem workChanges_of_error (settings : Settings) {s : Session} {m : Message} {e : CallError}
    (h : s.workAnswer m = .error e) :
    s.workChanges settings m = [] ∨
      (s.store.get? m.conversionId).isSome = true ∧ s.workChanges settings m = [.started] := by
  rw [workAnswer] at h
  rw [workChanges]
  cases hrefusal : s.refusal? .markProcessing m.conversionId with
  | some e => exact Or.inl rfl
  | none =>
    obtain ⟨c, hc⟩ := (refusal?_eq_none_iff.mp hrefusal).2
    rw [hrefusal] at h
    dsimp only at h
    -- a design that cannot be had is no reason to break off, one that cannot be noted is
    by_cases hgenerate : Call.generate ∈ s.failing
    · rw [if_pos hgenerate] at h
      exact absurd h (by simp)
    · rw [if_neg hgenerate] at h
      by_cases hcompleted : Call.markCompleted ∈ s.failing
      · refine Or.inr ⟨by simp [hc], ?_⟩
        rw [Option.isSome_none, if_neg Bool.false_ne_true, if_neg hgenerate, if_pos hcompleted]
      · rw [if_neg hcompleted] at h
        exact absurd h (by simp)

/-- The step of work on a message that is given as text. -/
theorem process_step_eq (settings : Settings) (s : Session) (body : Text) :
    s.step settings (.process body) =
      match Wire.ofText? (α := Message) body with
      | none => (.failed .undecodable, s)
      | some m =>
        answerStatus (s.workAnswer m, s.changed m.conversionId (s.workChanges settings m)) := by
  rw [step, process]
  cases Wire.ofText? (α := Message) body with
  | none => rfl
  | some m =>
    dsimp only
    rw [processMessage_eq]

theorem process_undecodable_iff (settings : Settings) (s : Session) (body : Text) :
    (s.step settings (.process body)).1 = .failed .undecodable ↔
      Wire.ofText? (α := Message) body = none := by
  rw [process_step_eq]
  cases Wire.ofText? (α := Message) body with
  | none => simp
  | some m =>
    have hne := s.workAnswer_ne_undecodable m
    cases hanswer : s.workAnswer m with
    | ok status => simp [answerStatus, hanswer]
    | error e =>
      rw [hanswer] at hne
      have hne' : e ≠ .undecodable := fun he => hne (congrArg Except.error he)
      simp [answerStatus, hanswer, hne']

/-- What is left by work that ends with an error. -/
theorem left_by_broken_off_work (settings : Settings) {s : Session} {body : Text} {m : Message}
    {e : CallError} (hm : Wire.ofText? body = some m)
    (h : (s.step settings (.process body)).1 = .failed e) :
    (s.step settings (.process body)).2 = s ∨
      s.IsChangedAt (s.step settings (.process body)).2 m.conversionId
        fun c => { c with status := .processing } := by
  rw [process_step_eq, hm] at h ⊢
  dsimp only at h ⊢
  cases hanswer : s.workAnswer m with
  | ok status =>
    rw [hanswer] at h
    exact absurd h (by simp [answerStatus])
  | error e' =>
    rw [answerStatus_snd]
    -- an error comes from the first call or from the last one
    rcases workChanges_of_error settings hanswer with hnone | ⟨hfound, hone⟩
    · left
      rw [hnone]
      rfl
    · right
      rw [hone]
      exact isChangedAt_changed hfound [.started]

/-! ### Giving up -/

theorem deadLetter_step_eq (settings : Settings) (s : Session) (body : Text) :
    s.step settings (.deadLetter body) =
      match Wire.ofText? (α := Message) body with
      | none => (.failed .undecodable, s)
      | some m =>
        match s.refusal? .markFailed m.conversionId with
        | some e => (.failed e, s)
        | none => (.dead, s.changed m.conversionId [.failed retriesExceeded]) := by
  rw [step, deadLetter_eq]
  cases Wire.ofText? (α := Message) body with
  | none => rfl
  | some m =>
    dsimp only
    rw [giveUpChanges]
    cases s.refusal? .markFailed m.conversionId <;> rfl

theorem deadLetter_undecodable_iff (settings : Settings) (s : Session) (body : Text) :
    (s.step settings (.deadLetter body)).1 = .failed .undecodable ↔
      Wire.ofText? (α := Message) body = none := by
  rw [deadLetter_step_eq]
  cases Wire.ofText? (α := Message) body with
  | none => simp
  | some m =>
    have hne := s.refusal?_ne_undecodable .markFailed m.conversionId
    cases hrefusal : s.refusal? .markFailed m.conversionId with
    | none => simp [hrefusal]
    | some e =>
      rw [hrefusal] at hne
      have hne' : e ≠ .undecodable := fun he => hne (congrArg some he)
      simp [hrefusal, hne']

/-- A message that can be noted as failed is given up: its record says why, no other record has
changed, and to give it up again changes nothing, whichever calls are failing by then. -/
theorem deadLetter_step_of_found (settings : Settings) {s : Session} {body : Text} {m : Message}
    (hm : Wire.ofText? body = some m) (hfound : (s.store.get? m.conversionId).isSome = true)
    (hcall : .markFailed ∉ s.failing) :
    ∃ s', s.step settings (.deadLetter body) = (.dead, s') ∧
      s.IsChangedAt s' m.conversionId
        (fun c => { c with status := .failed, errorMessage := some retriesExceeded }) ∧
      ∀ failing, (Session.step settings { s' with failing := failing } (.deadLetter body)).2 =
        { s' with failing := failing } := by
  have hrefusal : s.refusal? .markFailed m.conversionId = none := by
    rw [refusal?_of_get? hfound, if_neg hcall]
  refine ⟨s.changed m.conversionId [.failed retriesExceeded], ?_,
    isChangedAt_changed hfound [.failed retriesExceeded], fun failing => ?_⟩
  · rw [deadLetter_step_eq, hm]
    dsimp only
    rw [hrefusal]
  · rw [deadLetter_step_eq, hm]
    dsimp only
    -- the second time the call may fail; if not, it writes what is there already
    split
    · rfl
    · exact congrArg (fun s : Session => { s with failing := failing })
        (changed_failed_failed s m.conversionId retriesExceeded)

/-- **Giving up recovers what broken off work leaves.**  Whatever the state, whichever calls fail
and whatever the text: it can be read by work on a message exactly if it can be read to be given
up, and where it cannot neither changes anything.  Work that ends with any other error has left
everything as it was, but that the record of the message may say that it is being worked on.  And
a message that can be noted as failed, after such an error or at any other time, leaves its record
failed for the exhausted retries and all other records as they were; to give it up again changes
nothing. -/
theorem broken_off_work_recovered (settings : Settings) (s : Session) (body : Text) :
    let worked := s.step settings (.process body)
    let givenUp := s.step settings (.deadLetter body)
    (worked.1 = .failed .undecodable ↔ givenUp.1 = .failed .undecodable) ∧
      (worked.1 = .failed .undecodable → worked.2 = s ∧ givenUp.2 = s) ∧
      (∀ e, worked.1 = .failed e → e ≠ .undecodable →
        ∃ m : Message, Wire.ofText? body = some m ∧ (worked.2 = s ∨
          s.IsChangedAt worked.2 m.conversionId fun c => { c with status := .processing })) ∧
      ∀ m : Message, Wire.ofText? body = some m → ∀ left : Session,
        (left.store.get? m.conversionId).isSome = true → .markFailed ∉ left.failing →
          ∃ left', left.step settings (.deadLetter body) = (.dead, left') ∧
            left.IsChangedAt left' m.conversionId (fun c =>
              { c with status := .failed, errorMessage := some "Max retries exceeded".toList }) ∧
            ∀ failing, (Session.step settings { left' with failing := failing }
              (.deadLetter body)).2 = { left' with failing := failing } := by
  intro worked givenUp
  have hworked := process_undecodable_iff settings s body
  have hgivenUp := deadLetter_undecodable_iff settings s body
  refine ⟨hworked.trans hgivenUp.symm, fun h => ?_, fun e he hne => ?_,
    fun m hm left => deadLetter_step_of_found settings hm⟩
  · have hnone := hworked.mp h
    have hstep := process_step_eq settings s body
    have hstep' := deadLetter_step_eq settings s body
    rw [hnone] at hstep hstep'
    exact ⟨congrArg Prod.snd hstep, congrArg Prod.snd hstep'⟩
  · cases hbody : Wire.ofText? (α := Message) body with
    | none =>
      rw [hworked.mpr hbody] at he
      exact absurd (Answer.failed.inj he).symm hne
    | some m => exact ⟨m, rfl, left_by_broken_off_work settings hbody he⟩

/-- A design that cannot be noted leaves a conversion being worked on, the second of three; when its
message is given up, with two other calls failing by then, it has failed and the others wait. -/
theorem second_of_three_recovered :
    let settings : Settings := ⟨3600, true, "design".toList, ⟨0, 0⟩, decimal⟩
    let create := Step.create "sql".toList .balanced 1
    let s := { start.after settings [create, create, create] with failing := [.markCompleted] }
    let m : Message := ⟨"1".toList, "sql".toList, .balanced, 1⟩
    let body := Wire.toText .compact m
    let worked := s.step settings (.process body)
    let left := { worked.2 with failing := [.markProcessing, .generate] }
    worked.1 = .failed Call.markCompleted.failure ∧ Wire.ofText? body = some m ∧
      s.IsChangedAt worked.2 "1".toList (fun c => { c with status := .processing }) ∧
      (left.store.get? "1".toList).isSome = true ∧ .markFailed ∉ left.failing ∧
      ∃ left', left.step settings (.deadLetter body) = (.dead, left') ∧
        (left'.store.records.map fun c => (c.id, c.status, c.errorMessage)) =
          [("0".toList, .pending, none),
            ("1".toList, .failed, some "Max retries exceeded".toList),
            ("2".toList, .pending, none)] ∧
        (left'.step settings (.deadLetter body)).2 = left' := by
  intro settings create s m body worked left
  have hbody : Wire.ofText? body = some m := by decide +kernel
  have hworked : worked.1 = .failed Call.markCompleted.failure := by decide +kernel
  have hfound : (left.store.get? "1".toList).isSome = true := by decide +kernel
  have hcall : Call.markFailed ∉ left.failing := by decide +kernel
  obtain ⟨-, -, hleft, hgivenUp⟩ := broken_off_work_recovered settings s body
  obtain ⟨left', hstep, -, hagain⟩ := hgivenUp m hbody left hfound hcall
  obtain ⟨m', hm', hcases⟩ := hleft _ hworked (by decide)
  obtain rfl : m = m' := Option.some.inj (hbody.symm.trans hm')
  refine ⟨hworked, hbody, hcases.resolve_left (by decide +kernel), hfound, hcall, left', hstep, ?_,
    hagain left'.failing⟩
  -- the session that is left is only known through the step
  have hrecords := congrArg (fun r => r.2.store.records) hstep
  exact congrArg _ hrecords.symm |>.trans (by decide +kernel)

end Session

end SchemaIntake
