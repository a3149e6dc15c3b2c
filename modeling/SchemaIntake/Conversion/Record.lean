import SchemaIntake.Conversion.Calendar
import SchemaIntake.Conversion.Optimization

/-!
# Conversion records

What is kept about a conversion from its acceptance to its end, and what of it goes to the
queue and back to the sender.

## Main definitions

* `Status` — where a conversion stands.
* `Conversion` — the record of a conversion; `Conversion.pending?` is the one that is created.
* `Message`, `Conversion.message` — what goes to the queue.
* `Receipt`, `Conversion.receipt` — what goes back to the sender.
-/

namespace SchemaIntake

open Text Json

/-! ### Status -/

/-- Where a conversion stands. -/
inductive Status
  | pending | processing | completed | failed
deriving DecidableEq, Repr

namespace Status

def all : List Status := [pending, processing, completed, failed]

/-- The name of a status as it is written. -/
def name : Status → Text
  | pending => "PENDING".toList
  | processing => "PROCESSING".toList
  | completed => "COMPLETED".toList
  | failed => "FAILED".toList

/-- Whether the conversion has come to its end. -/
def isTerminal : Status → Bool
  | completed | failed => true
  | pending | processing => false

instance : Wire Status where
  encode status := .text status.name
  decode? := oneOf? all name

end Status

/-! ### Messages and receipts -/

/-- What goes to the queue. -/
structure Message where
  /-- The conversion that the message is about. -/
  conversionId : Text
  sqlContent : Text
  optimization : Optimization
  /-- How many tables the schema text defines. -/
  tablesExtracted : Nat
deriving DecidableEq, Repr

namespace Message

/-- The names of the members of a message. -/
def fieldNames : List Text :=
  ["conversionId", "sqlContent", "optimizationType", "tablesExtracted"].map String.toList

instance : Wire Message where
  encode m := .record
    [("conversionId".toList, .text m.conversionId), ("sqlContent".toList, .text m.sqlContent),
      ("optimizationType".toList, Wire.encode m.optimization),
      ("tablesExtracted".toList, .natural m.tablesExtracted)]
  decode? v := do
    let [conversionId, sqlContent, optimization, tablesExtracted] ← fields? fieldNames v | none
    let conversionId ← conversionId.required text?
    let sqlContent ← sqlContent.required text?
    let optimization ← optimization.required Wire.decode?
    let tablesExtracted ← tablesExtracted.required natural?
    some ⟨conversionId, sqlContent, optimization, tablesExtracted⟩

end Message

/-- What goes back to the sender of a request. -/
structure Receipt where
  conversionId : Text
  /-- Where it stands. -/
  status : Status
  /-- When it was created, to the second. -/
  createdAt : Text
  /-- When it expires, in seconds since the start of 1970. -/
  expiresAt : Int
deriving DecidableEq, Repr

namespace Receipt

/-- The names of the members of a receipt. -/
def fieldNames : List Text :=
  ["conversionId", "status", "createdAt", "expiresAt"].map String.toList

instance : Wire Receipt where
  encode r := .record
    [("conversionId".toList, .text r.conversionId), ("status".toList, Wire.encode r.status),
      ("createdAt".toList, .text r.createdAt), ("expiresAt".toList, .integer r.expiresAt)]
  decode? v := do
    let [conversionId, status, createdAt, expiresAt] ← fields? fieldNames v | none
    let conversionId ← conversionId.required text?
    let status ← status.required Wire.decode?
    let createdAt ← createdAt.required text?
    let expiresAt ← expiresAt.required integer?
    some ⟨conversionId, status, createdAt, expiresAt⟩

end Receipt

/-! ### Records -/

/-- The record of a conversion. -/
structure Conversion where
  /-- What the conversion is known by. -/
  id : Text
  /-- Where it stands. -/
  status : Status
  /-- When it was created, to the second. -/
  createdAt : Text
  /-- When it expires, in seconds since the start of 1970. -/
  expiresAt : Int
  date : Text
  sqlContent : Text
  optimization : Optimization
  /-- How many tables the schema text defines. -/
  tablesExtracted : Nat
  /-- The design, once there is one. -/
  result : Option Text
  /-- Why there is none. -/
  errorMessage : Option Text
deriving DecidableEq, Repr

namespace Conversion

/-- A new record, created at `now`, that expires some seconds later.  There is none where the
time of expiry is out of range. -/
def pending? (id sqlContent : Text) (optimization : Optimization) (tablesExtracted : Nat)
    (now : Moment) (lifetime : Int) : Option Conversion :=
  (now.plus? lifetime).map fun expiry =>
    { id := id
      status := .pending
      createdAt := now.stamp
      expiresAt := expiry.seconds
      date := now.dateText
      sqlContent := sqlContent
      optimization := optimization
      tablesExtracted := tablesExtracted
      result := none
      errorMessage := none }

/-- What of the record goes to the queue. -/
def message (c : Conversion) : Message :=
  ⟨c.id, c.sqlContent, c.optimization, c.tablesExtracted⟩

/-- What of the record goes back to the sender. -/
def receipt (c : Conversion) : Receipt := ⟨c.id, c.status, c.createdAt, c.expiresAt⟩

/-- The names of the members of a record. -/
def fieldNames : List Text :=
  ["conversionId", "status", "createdAt", "expiresAt", "conversionDate", "sqlContent",
    "optimizationType", "tablesExtracted", "result", "errorMessage"].map String.toList

instance : Wire Conversion where
  encode c := .record
    ([("conversionId".toList, .text c.id), ("status".toList, Wire.encode c.status),
      ("createdAt".toList, .text c.createdAt), ("expiresAt".toList, .integer c.expiresAt),
      ("conversionDate".toList, .text c.date), ("sqlContent".toList, .text c.sqlContent),
      ("optimizationType".toList, Wire.encode c.optimization),
      ("tablesExtracted".toList, .natural c.tablesExtracted)] ++
      ifSome "result".toList (c.result.map .text) ++
      ifSome "errorMessage".toList (c.errorMessage.map .text))
  decode? v := do
    let [id, status, createdAt, expiresAt, date, sqlContent, optimization, tablesExtracted,
      result, errorMessage] ← fields? fieldNames v | none
    let id ← id.required text?
    let status ← status.required Wire.decode?
    let createdAt ← createdAt.required text?
    let expiresAt ← expiresAt.required integer?
    let date ← date.required text?
    let sqlContent ← sqlContent.required text?
    let optimization ← optimization.required Wire.decode?
    let tablesExtracted ← tablesExtracted.required natural?
    let result ← result.optional text?
    let errorMessage ← errorMessage.optional text?
    some ⟨id, status, createdAt, expiresAt, date, sqlContent, optimization, tablesExtracted,
      result, errorMessage⟩

end Conversion

end SchemaIntake
