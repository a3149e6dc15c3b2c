import SchemaIntake.Conversion.Optimization
import SchemaIntake.Conversion.Store
import SchemaIntake.Schema.Check
import SchemaIntake.Schema.Wire

/-!
# Requests

How a request for a conversion is read, and how it is refused.

## Main definitions

* `ConvertRequest` — the body of a request as it travels.
* `Submission.read body` — what a body asks for, or the refusal.
* `RequestError` — why a request is refused; `RequestError.response` is what the sender gets.
-/

namespace SchemaIntake

open Text Json

/-- The body of a request. -/
structure ConvertRequest where
  /-- The schema text; it may be left out. -/
  sqlContent : Text
  /-- The name of the access pattern asked for. -/
  optimizationType : Option Text
deriving DecidableEq, Repr

namespace ConvertRequest

/-- The names of the members of a request. -/
def fieldNames : List Text := ["sqlContent", "optimizationType"].map String.toList

instance : Wire ConvertRequest where
  encode r := .record
    ([("sqlContent".toList, .text r.sqlContent)] ++
      ifSome "optimizationType".toList (r.optimizationType.map .text))
  decode? v := do
    let [sqlContent, optimizationType] ← fields? fieldNames v | none
    let sqlContent ← sqlContent.withDefault [] text?
    let optimizationType ← optimizationType.optional text?
    some ⟨sqlContent, optimizationType⟩

end ConvertRequest

/-! ### Refusals -/

/-- Why a request is refused. -/
inductive RequestError
  /-- The body is no JSON text of a request. -/
  | invalidJson
  /-- The schema text is missing or blank. -/
  | emptySqlContent
  /-- The access pattern is not spelled like any. -/
  | invalidOptimization (given : Text)
  /-- The schema has errors. -/
  | invalidSchema (message : Text) (details : List Finding)
  /-- The record or the message could not be stored. -/
  | failedCall (cause : CallError)
deriving DecidableEq, Repr

/-- What the sender of a refused request gets. -/
structure ErrorResponse where
  error : Code
  message : Text
  details : List Finding
deriving DecidableEq, Repr

namespace ErrorResponse

/-- The names of the members of a response. -/
def fieldNames : List Text := ["error", "message", "details"].map String.toList

instance : Wire ErrorResponse where
  encode r := .record
    ([("error".toList, Wire.encode r.error), ("message".toList, .text r.message)] ++
      ifNonempty "details".toList (r.details.map Wire.encode))
  decode? v := do
    let [error, message, details] ← fields? fieldNames v | none
    let error ← error.required Wire.decode?
    let message ← message.required text?
    let details ← details.withDefault [] (list? Wire.decode?)
    some ⟨error, message, details⟩

end ErrorResponse

namespace RequestError

/-- The refusal of an invalid schema: the message of its first error stands for all. -/
def ofReport (report : Report) : RequestError :=
  .invalidSchema ((report.errors.head?.map (·.message)).getD "Invalid SQL schema".toList)
    report.errors

def code : RequestError → Code
  | invalidJson => .invalidJson
  | emptySqlContent => .emptySqlContent
  | invalidOptimization _ => .invalidOptimizationType
  | invalidSchema _ _ => .invalidSqlSyntax
  | failedCall _ => .internalServerError

def message : RequestError → Text
  | invalidJson => "Request body is not valid JSON".toList
  | emptySqlContent => "Field sqlContent is required".toList
  | invalidOptimization _ =>
    "Invalid optimization type. Valid values: read_heavy, write_heavy, balanced".toList
  | invalidSchema message _ => message
  | failedCall _ => "Failed to create conversion".toList

/-- The errors of the schema, if these are the reason. -/
def details : RequestError → List Finding
  | invalidSchema _ details => details
  | _ => []

/-- What the sender gets. -/
def response (e : RequestError) : ErrorResponse := ⟨e.code, e.message, e.details⟩

end RequestError

/-! ### Intake -/

/-- What a request asks for. -/
structure Submission where
  /-- The schema text; it is not blank. -/
  sqlContent : Text
  optimization : Optimization
deriving DecidableEq, Repr

namespace Submission

/-- The access pattern that a request names; the balanced one if it names none. -/
def optimizationOf : Option Text → Except RequestError Optimization
  | none => .ok .balanced
  | some [] => .ok .balanced
  | some given =>
    match Optimization.ofName? given with
    | some optimization => .ok optimization
    | none => .error (.invalidOptimization given)

/-- What the body of a request asks for.  A body that cannot be read is refused rather than a
blank schema text, and that rather than an unknown access pattern. -/
def read (body : Text) : Except RequestError Submission :=
  match Wire.ofText? (α := ConvertRequest) body with
  | none => .error .invalidJson
  | some request =>
    if isAllBlank request.sqlContent then .error .emptySqlContent
    else (optimizationOf request.optimizationType).map fun o => ⟨request.sqlContent, o⟩

end Submission

end SchemaIntake
