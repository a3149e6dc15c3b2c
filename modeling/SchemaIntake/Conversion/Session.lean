import SchemaIntake.Conversion.Request

/-!
# Sessions

The record store, the queue and the design generator working together: requests are accepted,
their messages wait in the queue, and a worker takes each one to a design.  Any call to one of
the three may be failing; such a call does nothing.

## Main definitions

* `Session` — the store, the queue and which calls are failing.
* `Session.submit body` — accepting a request.
* `Session.process body` — working on a message.
* `Session.deadLetter body` — giving up a message.
* `Step`, `Session.step` — everything that can happen to a session; `Session.run` for several
  steps in order.

A call that succeeds gives the session after it.  What consists of several calls gives its
result and the session after it, since some of the calls may have been made when one fails.
-/

namespace SchemaIntake

open Text

/-! ### Calls -/

/-- The calls that may be failing. -/
inductive Call
  | create | get | markProcessing | markCompleted | markFailed | list | send | generate
deriving DecidableEq, Repr

namespace Call

def all : List Call :=
  [create, get, markProcessing, markCompleted, markFailed, list, send, generate]

def name : Call → Text
  | create => "create".toList
  | get => "get".toList
  | markProcessing => "markProcessing".toList
  | markCompleted => "markCompleted".toList
  | markFailed => "markFailed".toList
  | list => "list".toList
  | send => "send".toList
  | generate => "generate".toList

def ofName? (t : Text) : Option Call := all.find? (·.name = t)

def service : Call → Text
  | send => "queue".toList
  | generate => "design generator".toList
  | _ => "record store".toList

def failure (call : Call) : CallError :=
  .unavailable call.service (call.name ++ " failed".toList)

end Call

/-! ### Sessions -/

/-- The document of the design generator unless another one is given. -/
def defaultDesign : Json :=
  let field (name : String) : Json :=
    .record [("name".toList, .text name.toList), ("type".toList, .text "S".toList)]
  .record [("tables".toList, .array [.record
    [("tableName".toList, .text "users".toList),
      ("partitionKey".toList, field "userId"),
      ("sortKey".toList, .null),
      ("attributes".toList, .array [field "userId", field "email"]),
      ("globalSecondaryIndexes".toList, .array [.record
        [("indexName".toList, .text "email-index".toList),
          ("partitionKey".toList, field "email"),
          ("sortKey".toList, .null),
          ("projection".toList, .text "ALL".toList)]]),
      ("billingMode".toList, .text "PAY_PER_REQUEST".toList)]])]

/-- What does not change during a session. -/
structure Settings where
  /-- How long a record is kept, in seconds. -/
  lifetime : Int
  /-- Whether accepted conversions are sent to the queue. -/
  dispatch : Bool
  design : Text
  /-- The time at which records are created. -/
  now : Moment
  /-- The ids that new records draw, one after the other. -/
  idOf : Nat → Text

namespace Settings

/-- Records are kept for a day, conversions are sent to the queue, and the design is the
default document with its members sorted. -/
def standard (now : Moment) (idOf : Nat → Text) : Settings :=
  { lifetime := 24 * 3600
    dispatch := true
    design := defaultDesign.sortKeys.render .compact
    now := now
    idOf := idOf }

end Settings

/-- The state of a session. -/
structure Session where
  store : Store
  /-- The messages that wait, the oldest first. -/
  queue : List Message
  failing : List Call
deriving DecidableEq, Repr

namespace Session

/-- No conversion has been created, no message waits and no call is failing. -/
def start : Session := ⟨.empty, [], []⟩

/-- Makes a call, unless it is failing. -/
def guarded {α : Type} (s : Session) (call : Call) (result : Except CallError α) :
    Except CallError α :=
  if call ∈ s.failing then .error call.failure else result

/-! ### Calls to the record store -/

def withStore (s : Session) (store : Except CallError Store) : Except CallError Session :=
  store.map fun store => { s with store := store }

def create (settings : Settings) (s : Session) (sqlContent : Text) (optimization : Optimization)
    (tablesExtracted : Nat) : Except CallError (Conversion × Session) :=
  s.guarded .create <|
    match Conversion.pending? (settings.idOf s.store.drawn) sqlContent optimization
      tablesExtracted settings.now settings.lifetime with
    | some c => .ok (c, { s with store := s.store.add c })
    | none => .error .expiryOutOfRange

def get (s : Session) (id : Text) : Except CallError (Option Conversion) :=
  s.guarded .get (.ok (s.store.get? id))

def list (s : Session) : Except CallError (List Conversion) :=
  s.guarded .list (.ok s.store.newestFirst)

/-- Notes that a conversion is being worked on. -/
def markProcessing (s : Session) (id : Text) : Except CallError Session :=
  s.guarded .markProcessing (s.withStore (s.store.markProcessing id))

/-- Notes the design of a conversion. -/
def markCompleted (s : Session) (id design : Text) : Except CallError Session :=
  s.guarded .markCompleted (s.withStore (s.store.markCompleted id design))

/-- Notes that a conversion has failed. -/
def markFailed (s : Session) (id message : Text) : Except CallError Session :=
  s.guarded .markFailed (s.withStore (s.store.markFailed id message))

/-! ### Calls to the queue and the design generator -/

def send (s : Session) (m : Message) : Except CallError Session :=
  s.guarded .send (.ok { s with queue := s.queue ++ [m] })

/-- Takes the oldest message from the queue. -/
def pop? (s : Session) : Option (Message × Session) :=
  match s.queue with
  | [] => none
  | m :: rest => some (m, { s with queue := rest })

def generate (settings : Settings) (s : Session) (_sqlContent : Text) (_ : Optimization) :
    Except CallError Text :=
  s.guarded .generate (.ok settings.design)

/-! ### Requests -/

/-- Accepts a request: its schema is checked, a record is created, and its message is sent to
the queue.  A record whose message could not be sent stays. -/
def submit (settings : Settings) (s : Session) (body : Text) :
    Except RequestError Receipt × Session :=
  match Submission.read body with
  | .error e => (.error e, s)
  | .ok submission =>
    let report := checkSchema submission.sqlContent
    if !report.isValid then (.error (.ofReport report), s)
    else match s.create settings submission.sqlContent submission.optimization
        report.tables.length with
    | .error e => (.error (.failedCall e), s)
    | .ok (c, s) =>
      if !settings.dispatch then (.ok c.receipt, s)
      else match s.send c.message with
      | .error e => (.error (.failedCall e), s)
      | .ok s => (.ok c.receipt, s)

/-! ### Messages -/

/-- Works on a message and gives the status that its conversion has come to.  Where no design
can be had the conversion has failed, and it does not matter whether that can be noted; where
the store cannot be changed otherwise the work is broken off. -/
def processMessage (settings : Settings) (s : Session) (m : Message) :
    Except CallError Status × Session :=
  match s.markProcessing m.conversionId with
  | .error e => (.error e, s)
  | .ok s =>
    match s.generate settings m.sqlContent m.optimization with
    | .ok design =>
      match s.markCompleted m.conversionId design with
      | .error e => (.error e, s)
      | .ok s => (.ok .completed, s)
    | .error e =>
      match s.markFailed m.conversionId e.message with
      | .error _ => (.ok .failed, s)
      | .ok s => (.ok .failed, s)

/-- Works on a message that is given as JSON text. -/
def process (settings : Settings) (s : Session) (body : Text) :
    Except CallError Status × Session :=
  match Wire.ofText? (α := Message) body with
  | none => (.error .undecodable, s)
  | some m => s.processMessage settings m

/-- What is noted for a conversion whose message has been given up. -/
def retriesExceeded : Text := "Max retries exceeded".toList

/-- Gives up a message that is given as JSON text: its conversion has failed. -/
def deadLetter (s : Session) (body : Text) : Except CallError Session :=
  match Wire.ofText? (α := Message) body with
  | none => .error .undecodable
  | some m => s.markFailed m.conversionId retriesExceeded

end Session

/-! ### Steps -/

/-- Everything that can happen to a session. -/
inductive Step
  /-- From now on exactly these calls are failing. -/
  | fail (calls : List Call)
  | submit (body : Text)
  | create (sqlContent : Text) (optimization : Optimization) (tablesExtracted : Nat)
  | get (id : Text)
  | list
  | markProcessing (id : Text)
  | markCompleted (id design : Text)
  | markFailed (id message : Text)
  | send (body : Text)
  | messages
  | pop
  /-- A message is worked on, whether it waits in the queue or not. -/
  | processMessage (m : Message)
  /-- The oldest message is taken from the queue and worked on. -/
  | popProcess
  | process (body : Text)
  /-- The oldest message is taken from the queue and given up. -/
  | popDeadLetter
  | deadLetter (body : Text)
deriving DecidableEq, Repr

/-- What a step answers. -/
inductive Answer
  | nothing
  | receipt (r : Receipt)
  | record (c : Conversion)
  | records (cs : List Conversion)
  | message (m : Message)
  | messages (ms : List Message)
  | status (status : Status)
  /-- The message has been given up. -/
  | dead
  | refused (e : RequestError)
  | failed (e : CallError)
deriving DecidableEq, Repr

namespace Session

/-- The answer of a call that gives a session, and the session after it. -/
def answerWith (s : Session) (answer : Answer) (result : Except CallError Session) :
    Answer × Session :=
  match result with
  | .ok s => (answer, s)
  | .error e => (.failed e, s)

def answerStatus : Except CallError Status × Session → Answer × Session
  | (.ok status, s) => (.status status, s)
  | (.error e, s) => (.failed e, s)

/-- A step of a session: its answer and the session after it.  A message that is taken from the
queue stays out of it even if the rest of the step fails. -/
def step (settings : Settings) (s : Session) : Step → Answer × Session
  | .fail calls => (.nothing, { s with failing := calls })
  | .submit body =>
    match s.submit settings body with
    | (.ok r, s) => (.receipt r, s)
    | (.error e, s) => (.refused e, s)
  | .create sqlContent optimization tablesExtracted =>
    match s.create settings sqlContent optimization tablesExtracted with
    | .ok (c, s) => (.record c, s)
    | .error e => (.failed e, s)
  | .get id =>
    match s.get id with
    | .ok (some c) => (.record c, s)
    | .ok none => (.nothing, s)
    | .error e => (.failed e, s)
  | .list =>
    match s.list with
    | .ok cs => (.records cs, s)
    | .error e => (.failed e, s)
  | .markProcessing id => s.answerWith .nothing (s.markProcessing id)
  | .markCompleted id design => s.answerWith .nothing (s.markCompleted id design)
  | .markFailed id message => s.answerWith .nothing (s.markFailed id message)
  | .send body =>
    match Wire.ofText? (α := Message) body with
    | none => (.failed .undecodable, s)
    | some m => s.answerWith .nothing (s.send m)
  | .messages => (.messages s.queue, s)
  | .pop =>
    match s.pop? with
    | none => (.nothing, s)
    | some (m, s) => (.message m, s)
  | .processMessage m => answerStatus (s.processMessage settings m)
  | .popProcess =>
    match s.pop? with
    | none => (.nothing, s)
    | some (m, s) => answerStatus (s.processMessage settings m)
  | .process body => answerStatus (s.process settings body)
  | .popDeadLetter =>
    match s.pop? with
    | none => (.nothing, s)
    | some (m, s) => s.answerWith .dead (s.deadLetter (Wire.toText .compact m))
  | .deadLetter body => s.answerWith .dead (s.deadLetter body)

/-- Steps in order: the answer of each with the session after it. -/
def run (settings : Settings) (s : Session) : List Step → List (Answer × Session)
  | [] => []
  | step :: rest =>
    let r := s.step settings step
    r :: run settings r.2 rest

end Session

end SchemaIntake
