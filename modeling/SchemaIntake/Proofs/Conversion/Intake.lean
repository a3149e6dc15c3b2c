import SchemaIntake.Conversion.Session

/-!
# Acceptance of requests

A request comes to a new record or to a refusal.  A refused request leaves the session as it is.
The record of an accepted one is kept, and its message is sent if messages are sent at all; where
sending fails the request is refused after all, and the record stays.

## Main definitions

* `Session.newRecord`, `Session.accepted` — the record that a call and a request create.
* `Session.added s c`, `Session.sent s m` — the session with one more record or message.
* `Step.created?`, `Step.sent?`, `Step.taken?` — the record that a step creates, the message that
  it has sent by its answer, and the one that it takes from the queue.

## Main results

* `Session.create_eq`, `Session.send_eq` — what becomes of a call.
* `Session.submit_eq` — **what becomes of a request**.
* `Session.exists_submission_of_accepted` — the record of an accepted request.
-/

namespace SchemaIntake

open Text

/-! ### New records -/

namespace Session

variable (settings : Settings) (s : Session)

def added (c : Conversion) : Session := { s with store := s.store.add c }

/-- The session with one more message that waits. -/
def sent (m : Message) : Session := { s with queue := s.queue ++ [m] }

/-- The record that a call of the store creates. -/
def newRecord (sqlContent : Text) (optimization : Optimization) (tablesExtracted : Nat) :
    Except CallError Conversion :=
  s.guarded .create <|
    match Conversion.pending? (settings.idOf s.store.drawn) sqlContent optimization
      tablesExtracted settings.now settings.lifetime with
    | some c => .ok c
    | none => .error .expiryOutOfRange

theorem create_eq (sqlContent : Text) (optimization : Optimization) (tablesExtracted : Nat) :
    s.create settings sqlContent optimization tablesExtracted =
      (s.newRecord settings sqlContent optimization tablesExtracted).map fun c =>
        (c, s.added c) := by
  rw [create, newRecord, guarded, guarded]
  split
  · rfl
  · cases Conversion.pending? (settings.idOf s.store.drawn) sqlContent optimization
      tablesExtracted settings.now settings.lifetime <;> rfl

theorem send_eq (m : Message) : s.send m =
    if .send ∈ s.failing then .error Call.send.failure else .ok (s.sent m) := rfl

variable {settings s}

/-- A new record is pending, bears the next id and says what was asked for. -/
theorem of_newRecord_eq_ok {sqlContent : Text} {optimization : Optimization}
    {tablesExtracted : Nat} {c : Conversion}
    (h : s.newRecord settings sqlContent optimization tablesExtracted = .ok c) :
    ∃ expiry : Moment, c = ⟨settings.idOf s.store.drawn, .pending, settings.now.stamp,
      expiry.seconds, settings.now.dateText, sqlContent, optimization, tablesExtracted, none,
      none⟩ := by
  rw [newRecord, guarded] at h
  split at h
  · exact absurd h (by simp)
  · split at h
    · next c' hc' =>
      obtain rfl := Except.ok.inj h
      obtain ⟨expiry, -, hc⟩ := Option.map_eq_some_iff.mp hc'
      exact ⟨expiry, hc.symm⟩
    · exact absurd h (by simp)

/-! ### Requests -/

variable (settings s)

/-- The record that a request creates, or why it is refused before there is one. -/
def accepted (body : Text) : Except RequestError Conversion :=
  match Submission.read body with
  | .error e => .error e
  | .ok submission =>
    let report := checkSchema submission.sqlContent
    if !report.isValid then .error (.ofReport report)
    else match s.newRecord settings submission.sqlContent submission.optimization
        report.tables.length with
      | .error e => .error (.failedCall e)
      | .ok c => .ok c

/-- **What becomes of a request.** -/
theorem submit_eq (body : Text) : s.submit settings body =
    match s.accepted settings body with
    | .error e => (.error e, s)
    | .ok c =>
      if !settings.dispatch then (.ok c.receipt, s.added c)
      else if .send ∈ s.failing then (.error (.failedCall Call.send.failure), s.added c)
      else (.ok c.receipt, (s.added c).sent c.message) := by
  rw [submit, accepted]
  cases Submission.read body with
  | error e => rfl
  | ok submission =>
    dsimp only
    rw [create_eq]
    split
    · rfl
    · cases s.newRecord settings submission.sqlContent submission.optimization
        (checkSchema submission.sqlContent).tables.length with
      | error e => rfl
      | ok c =>
        -- a record that has been added makes no call fail
        have hsend : (s.added c).send c.message = if .send ∈ s.failing then
            .error Call.send.failure else .ok ((s.added c).sent c.message) := send_eq _ _
        dsimp only [Except.map]
        rw [hsend]
        split
        · rfl
        · by_cases hfailing : Call.send ∈ s.failing
          · rw [if_pos hfailing, if_pos hfailing]
          · rw [if_neg hfailing, if_neg hfailing]

variable {settings s}

/-- The record of an accepted request is that of a valid schema, with the number of its tables. -/
theorem exists_submission_of_accepted {body : Text} {c : Conversion}
    (h : s.accepted settings body = .ok c) : ∃ submission, Submission.read body = .ok submission ∧
      (checkSchema submission.sqlContent).isValid = true ∧
      s.newRecord settings submission.sqlContent submission.optimization
        (checkSchema submission.sqlContent).tables.length = .ok c := by
  rw [accepted] at h
  cases hread : Submission.read body with
  | error e =>
    rw [hread] at h
    exact absurd h (by simp)
  | ok submission =>
    rw [hread] at h
    dsimp only at h
    split at h
    · exact absurd h (by simp)
    · next hvalid =>
      split at h
      · exact absurd h (by simp)
      · next c' hnew =>
        obtain rfl := Except.ok.inj h
        exact ⟨submission, rfl, by simpa using hvalid, hnew⟩

end Session

/-! ### What a step creates, sends and takes -/

namespace Step

def created? (settings : Settings) (s : Session) : Step → Option Conversion
  | .submit body => (s.accepted settings body).toOption
  | .create sqlContent optimization tablesExtracted =>
    (s.newRecord settings sqlContent optimization tablesExtracted).toOption
  | _ => none

end Step

namespace Session

/-- A record that a step creates is a new one. -/
theorem of_created? {settings : Settings} {s : Session} {step : Step} {c : Conversion}
    (h : step.created? settings s = some c) : ∃ sqlContent optimization tablesExtracted,
      s.newRecord settings sqlContent optimization tablesExtracted = .ok c := by
  cases step with
  | submit body =>
    have haccepted : s.accepted settings body = .ok c := by
      cases hbody : s.accepted settings body with
      | error e => exact absurd h (by simp [Step.created?, hbody, Except.toOption])
      | ok c' => exact congrArg Except.ok (by simpa [Step.created?, hbody, Except.toOption] using h)
    obtain ⟨submission, -, -, hnew⟩ := exists_submission_of_accepted haccepted
    exact ⟨_, _, _, hnew⟩
  | create sqlContent optimization tablesExtracted =>
    refine ⟨sqlContent, optimization, tablesExtracted, ?_⟩
    cases hnew : s.newRecord settings sqlContent optimization tablesExtracted with
    | error e => exact absurd h (by simp [Step.created?, hnew, Except.toOption])
    | ok c' => exact congrArg Except.ok (by simpa [Step.created?, hnew, Except.toOption] using h)
  | _ => exact absurd h (by simp [Step.created?])

/-- A record that a step creates bears the next id. -/
theorem id_of_created? {settings : Settings} {s : Session} {step : Step} {c : Conversion}
    (h : step.created? settings s = some c) : c.id = settings.idOf s.store.drawn := by
  obtain ⟨sqlContent, optimization, tablesExtracted, hnew⟩ := of_created? h
  obtain ⟨expiry, rfl⟩ := of_newRecord_eq_ok hnew
  rfl

end Session

end SchemaIntake
