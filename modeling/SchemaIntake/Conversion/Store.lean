import SchemaIntake.Conversion.Record

/-!
# The record store

The records of all conversions, each under its id, in the order in which these ids came in.

## Main definitions

* `CallError` — why a call to the store, the queue or the design generator fails.
* `Store.get? id`, `Store.newestFirst` — looking at the records.
* `Store.add`, `Store.update` — changing them; `Store.markProcessing`,
  `Store.markCompleted` and `Store.markFailed` are the updates that there are.
-/

namespace SchemaIntake

open Text

/-- Why a call to the store, the queue or the design generator fails. -/
inductive CallError
  /-- There is no record of this conversion. -/
  | recordNotFound (id : Text)
  /-- The service does not answer. -/
  | unavailable (service message : Text)
  /-- The message cannot be read. -/
  | undecodable
  /-- The time of expiry is out of range. -/
  | expiryOutOfRange
deriving DecidableEq, Repr

def CallError.message : CallError → Text
  | .recordNotFound id => "conversion record not found: ".toList ++ id
  | .unavailable service message => service ++ " unavailable: ".toList ++ message
  | .undecodable => "invalid message payload".toList
  | .expiryOutOfRange => "time of expiry out of range".toList

/-- The records of all conversions. -/
structure Store where
  /-- The records, the oldest first. -/
  records : List Conversion
  /-- How many records have been created.  Each draws an id of its own, one after the other. -/
  drawn : Nat
deriving DecidableEq, Repr

namespace Store

def empty : Store := ⟨[], 0⟩

def get? (store : Store) (id : Text) : Option Conversion := store.records.find? (·.id = id)

def newestFirst (store : Store) : List Conversion := store.records.reverse

/-- Changes the first record with a given id. -/
def updateFirst (id : Text) (change : Conversion → Conversion) : List Conversion → List Conversion
  | [] => []
  | c :: rest => if c.id = id then change c :: rest else c :: updateFirst id change rest

/-- Keeps a new record.  It takes the place of the record with its id, if there is one. -/
def add (store : Store) (c : Conversion) : Store :=
  { records :=
      if (store.get? c.id).isSome then updateFirst c.id (fun _ => c) store.records
      else store.records ++ [c]
    drawn := store.drawn + 1 }

/-- Changes the record of a conversion, if there is one. -/
def update (store : Store) (id : Text) (change : Conversion → Conversion) :
    Except CallError Store :=
  if (store.get? id).isSome then .ok { store with records := updateFirst id change store.records }
  else .error (.recordNotFound id)

/-- The conversion is being worked on. -/
def markProcessing (store : Store) (id : Text) : Except CallError Store :=
  store.update id fun c => { c with status := .processing }

/-- The conversion has come to a design. -/
def markCompleted (store : Store) (id design : Text) : Except CallError Store :=
  store.update id fun c =>
    { c with status := .completed, result := some design, errorMessage := none }

/-- The conversion has come to no design. -/
def markFailed (store : Store) (id message : Text) : Except CallError Store :=
  store.update id fun c => { c with status := .failed, errorMessage := some message }

end Store

end SchemaIntake
