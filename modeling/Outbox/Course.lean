import Outbox.Buffer

/-!
# Courses

All that can happen to a buffer in front of a writer (`Course.step`), whatever
the client answers and whenever someone else closes the writer, and the `Ledger`
of what became of its entries.

A flush goes from one stage to the next by an event from outside: what it finds
when it looks at the writer, what becomes of the batch it submits, and the end
of a pause. Calls begin while no flush is under way. The courses of several
buffers that share a tally are steps of these, in any order.

The ledger is kept by what the *client* answers, not by what the buffer makes of
it: an entry is delivered if it is part of a batch that the client accepted but
for other entries.
-/

namespace Outbox

/-- What became of the entries of a buffer. -/
structure Ledger where
  /-- The entries accepted, in the order of their acceptance. -/
  accepted : List Entry := []
  /-- The batches submitted, the latest first. -/
  submitted : List (List Entry) := []
  /-- The batches that went to the client, the latest first. -/
  sent : List (List Entry) := []
  /-- The entries the client has accepted. -/
  delivered : List Entry := []
  /-- The entries that failed for good, with the batch that ended the work. -/
  lost : List Entry := []
  /-- The number of times an entry was put back. -/
  putBack : Nat := 0
  /-- The number of pauses. -/
  pauses : Nat := 0

/-- A buffer, its flush, which is the latest one if none is under way, and the
    record of both. -/
structure Course where
  buffer : Buffer
  flush : Flush := .finished (.ok ())
  ledger : Ledger := {}

namespace Course

/-- What can happen to a buffer. -/
inductive Event where
  /-- The entry of a record is written. -/
  | write (e : Entry)
  /-- A flush is called for. -/
  | flush
  /-- The last flush is called for. -/
  | lastFlush
  /-- The flush looks at the writer and finds it closed or not. -/
  | look (closed : Bool)
  /-- The batch is answered, in case it is sent at all. The fraction is drawn for
      the pause that may follow. -/
  | answer (a : Answer) (draw : Float)
  /-- The batch is refused as the writer was closed in the meantime. -/
  | refuse
  /-- The pause is over. -/
  | wake

/-- No flush is under way. -/
def isIdle (c : Course) : Bool :=
  match c.flush with
  | .finished _ => true
  | _ => false

/-- An entry is written to a buffer on which no call is under way. -/
def write (c : Course) (e : Entry) : Course :=
  let (buffer, flush) := c.buffer.write e
  let grown := c.buffer.pending.size < buffer.pending.size
  let ledger :=
    if grown then { c.ledger with accepted := c.ledger.accepted ++ [e] } else c.ledger
  { buffer, flush, ledger }

/-- The entries of a batch that the client has accepted by its answer. -/
def deliveredBy (batch : List Entry) : Answer → List Entry
  | .error _ => []
  | .ok r => batch.filter (!r.rejects ·.id)

/-- The entries of a batch that fail for good if its answer ends the work. -/
def lostBy (batch : List Entry) : Answer → List Entry
  | .error _ => batch
  | .ok r => batch.filter (r.rejects ·.id)

/-- The record of a batch and its answer, which took the buffer from `old` to
    `new`. -/
def record (p : Policy) (l : Ledger) (batch : List Entry) (a : Answer) (old new : Buffer)
    (next : Flush) : Ledger :=
  let isSent := (p.refusal? batch).isNone
  let isLost := old.aborted.isNone && new.aborted.isSome
  let lost := if isSent then lostBy batch a else batch
  { l with
    sent := if isSent then batch :: l.sent else l.sent
    delivered := if isSent then l.delivered ++ deliveredBy batch a else l.delivered
    lost := if isLost then l.lost ++ lost else l.lost
    putBack := l.putBack + (new.pending.size - old.pending.size)
    pauses := match next with
      | .pausing _ _ => l.pauses + 1
      | _ => l.pauses }

/-- What becomes of a course and the tally by an event, if it can happen. -/
def step (p : Policy) (t : Tally) (c : Course) : Event → Option (Tally × Course)
  | .write e => if c.isIdle then some (t, c.write e) else none
  | .flush => if c.isIdle then some (t, { c with flush := c.buffer.flush }) else none
  | .lastFlush => if c.isIdle then some (t, { c with flush := c.buffer.lastFlush }) else none
  | .look closed =>
    match c.flush with
    | .looking backoff =>
      let (buffer, flush) := c.buffer.look closed backoff
      let submitted := match flush with
        | .submitting batch _ => batch :: c.ledger.submitted
        | _ => c.ledger.submitted
      some (t, { buffer, flush, ledger := { c.ledger with submitted } })
    | _ => none
  | .answer a draw =>
    match c.flush with
    | .submitting batch backoff =>
      let (buffer, t, flush) := c.buffer.settle t batch backoff draw (p.reply batch a)
      some (t, { buffer, flush, ledger := record p c.ledger batch a c.buffer buffer flush })
    | _ => none
  | .refuse =>
    match c.flush with
    | .submitting batch backoff =>
      let (buffer, t, flush) := c.buffer.settle t batch backoff 0 (.failure .closed)
      some (t, { c with buffer, flush })
    | _ => none
  | .wake =>
    match c.flush with
    | .pausing _ backoff => some (t, { c with flush := .looking backoff })
    | _ => none

/-- A course over some events. -/
def run (p : Policy) : List Event → Tally × Course → Option (Tally × Course)
  | [], s => some s
  | e :: es, (t, c) => (c.step p t e).bind (run p es)

end Course

end Outbox
