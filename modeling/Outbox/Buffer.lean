import Outbox.Backoff
import Outbox.Dispatch.Reply
import Outbox.Queue
import Outbox.Sizes
import Outbox.Tally

/-!
# Buffers

A `Buffer` holds the entries that wait to be delivered, in the order in which
they were accepted. It is emptied by a *flush*, which goes round three stages
(`Flush`): it looks at the buffer and cuts a batch off its front
(`Buffer.look`), submits it and settles what comes back (`Buffer.settle`), and
pauses before it looks again if entries were handed back.

* Entries handed back go to the front of the buffer, so they are part of the
  next batch.
* Pauses grow from one to the next, until a batch is delivered completely. If
  none is left, the flush fails and the entries stay in the buffer.
* A failure that is final ends the work of the buffer (`Buffer.aborted`). Its
  batch is lost, and all that is still in the buffer stays there.
-/

namespace Outbox

/-- Entries that wait to be delivered. -/
structure Buffer where
  settings : WriterSettings
  /-- The entries, the first one to be sent first. -/
  pending : Queue Entry := {}
  /-- The failure that ended the work, in its words. -/
  aborted : Option String := none

/-! ## Batches -/

/-- The number of entries at the start, up to `count`, whose sizes together with
    `used` bytes stay within `bytes`. -/
def fitting (bytes : Nat) : (count used : Nat) → List Entry → Nat
  | 0, _, _ => 0
  | _ + 1, _, [] => 0
  | count + 1, used, e :: es =>
    if bytes < used + e.size then 0 else fitting bytes count (used + e.size) es + 1

/-- The number of entries in the next batch, up to `count`. The first entry is
    part of it whatever its size. -/
def batchLength (count bytes : Nat) : List Entry → Nat
  | [] => 0
  | e :: es =>
    match count with
    | 0 => 0
    | count + 1 => fitting bytes count e.size es + 1

/-- Cuts the next batch off the front. -/
def cut (count bytes : Nat) (q : Queue Entry) : List Entry × Queue Entry :=
  let es := q.toList
  let n := batchLength count bytes es
  (es.take n, q.drop n)

theorem fitting_le_count (bytes count used : Nat) (es : List Entry) :
    fitting bytes count used es ≤ count := by
  induction es generalizing count used with
  | nil => cases count <;> simp [fitting]
  | cons e es ih =>
    cases count with
    | zero => simp [fitting]
    | succ count =>
      unfold fitting
      split
      · simp
      · exact Nat.succ_le_succ (ih count (used + e.size))

theorem totalSize_take_fitting_le (bytes count used : Nat) (h : used ≤ bytes) (es : List Entry) :
    used + totalSize (es.take (fitting bytes count used es)) ≤ bytes := by
  induction es generalizing count used with
  | nil => simpa [totalSize] using h
  | cons e es ih =>
    cases count with
    | zero => simpa [fitting, totalSize] using h
    | succ count =>
      unfold fitting
      split
      · simpa [totalSize] using h
      · have := ih count (used + e.size) (by omega)
        simp only [List.take_succ_cons, totalSize]
        omega

theorem batchLength_le_count (count bytes : Nat) (es : List Entry) :
    batchLength count bytes es ≤ count := by
  cases es with
  | nil => simp [batchLength]
  | cons e es =>
    cases count with
    | zero => simp [batchLength]
    | succ count => exact Nat.succ_le_succ (fitting_le_count bytes count e.size es)

/-- Nothing is lost and nothing changes its place. -/
theorem cut_append (count bytes : Nat) (q : Queue Entry) :
    (cut count bytes q).1 ++ (cut count bytes q).2.toList = q.toList :=
  List.take_append_drop ..

theorem length_cut_le (count bytes : Nat) (q : Queue Entry) :
    (cut count bytes q).1.length ≤ count :=
  Nat.le_trans (List.length_take_le ..) (batchLength_le_count ..)

/-! ## Flushes -/

/-- Where a flush stands. -/
inductive Flush where
  /-- About to look at the buffer and at the writer. -/
  | looking (backoff : Backoff)
  /-- A batch is off the buffer and is being submitted. -/
  | submitting (batch : List Entry) (backoff : Backoff)
  /-- Pausing before it looks again. -/
  | pausing (pause : Span) (backoff : Backoff)
  | finished (result : Except Error Unit)

namespace Buffer

/-- An empty buffer in front of a writer with the given policy on errors, which
    must be that of the settings. -/
def create (settings : WriterSettings) (failOnError : Bool) : Except Error Buffer :=
  match settings.validate with
  | .error m => .error (.misconfigured m)
  | .ok () =>
    if settings.failOnError = failOnError then .ok { settings }
    else .error (.misconfigured (.policyMismatch settings.failOnError failOnError))

/-- A new buffer. -/
def ofSettings (settings : WriterSettings) : Buffer := { settings }

/-- Fails once the work has ended. -/
def usable (b : Buffer) : Except Error Unit :=
  match b.aborted with
  | some reason => .error (.aborted reason)
  | none => .ok ()

/-- Ends the work. -/
def abort (b : Buffer) (e : Error) : Buffer := { b with aborted := some e.message }

/-- Puts an entry at the end, unless it is too large. -/
def accept (b : Buffer) (e : Entry) : Except Error Buffer :=
  if b.settings.maxRecordBytes < e.size then .error (.tooLarge e.size b.settings.maxRecordBytes)
  else .ok { b with pending := b.pending.push e }

/-- So many entries are waiting that they are to be sent. -/
def isFull (b : Buffer) : Bool := b.settings.maxBufferedRequests ≤ b.pending.size

/-- A flush begins. -/
def flush (b : Buffer) : Flush :=
  match b.usable with
  | .error e => .finished (.error e)
  | .ok () => .looking (.ofSettings b.settings.retry)

/-- The entry of a record is accepted, which begins a flush if the buffer gets
    full. -/
def write (b : Buffer) (entry : Entry) : Buffer × Flush :=
  match b.usable with
  | .error e => (b, .finished (.error e))
  | .ok () =>
    match b.accept entry with
    | .error e => (b, .finished (.error e))
    | .ok b => (b, if b.isFull then b.flush else .finished (.ok ()))

/-- The last flush before the writer is closed. After a failure that ended the
    work there is none, but a complaint about the entries that are left. -/
def lastFlush (b : Buffer) : Flush :=
  match b.aborted with
  | none => b.flush
  | some reason =>
    if b.pending.isEmpty then .finished (.ok ())
    else .finished (.error (.leftBehind b.pending.size reason))

/-- The flush looks at the buffer, and at whether the writer is closed. -/
def look (b : Buffer) (closed : Bool) (backoff : Backoff) : Buffer × Flush :=
  if b.pending.isEmpty then (b, .finished (.ok ()))
  else if closed then (b, .finished (.error .closed))
  else
    let (batch, rest) := cut b.settings.maxBatchSize b.settings.maxBatchBytes b.pending
    ({ b with pending := rest }, .submitting batch backoff)

/-- The submission of a batch failed. A sink failure loses the batch and ends
    the work. -/
def fail (b : Buffer) (t : Tally) (batch : List Entry) (e : Error) : Buffer × Tally × Flush :=
  if e.isSinkFailure then
    let count := batch.length.toUInt64
    (b.abort e, (t.add .recordErrors count).add .sendErrors count, .finished (.error e))
  else (b, t, .finished (.error e))

/-- Some entries of a batch were rejected for good, which ends the work. -/
def reject (b : Buffer) (t : Tally) (rejected : List Rejection) : Buffer × Tally × Flush :=
  let count := rejected.length.toUInt64
  let e := Error.rejected rejected.length
  (b.abort e, (t.add .recordErrors count).add .sendErrors count, .finished (.error e))

/-- Entries are handed back. They go to the front in their order, for another
    attempt after a pause. -/
def putBack (b : Buffer) (t : Tally) (residual : List Entry) (backoff : Backoff) (draw : Float) :
    Buffer × Tally × Flush :=
  let b := { b with pending := b.pending.prepend residual }
  let t := t.add .retries residual.length.toUInt64
  match backoff.next draw with
  | (some pause, backoff) => (b, t, .pausing pause backoff)
  | (none, _) => (b, t, .finished (.error (.exhausted residual.length)))

/-- The flush settles the reply to the submission of a batch. -/
def settle (b : Buffer) (t : Tally) (batch : List Entry) (backoff : Backoff) (draw : Float)
    (r : Reply) : Buffer × Tally × Flush :=
  match r.result with
  | .error e => b.fail t batch e
  | .ok outcome =>
    let residual := r.handedBack.getD []
    -- of these two lists one is empty
    let undelivered := residual.map (·.id) ++ outcome.rejected.map (·.id)
    let t := t.add .recordsOut outcome.delivered.toUInt64
    let t := t.add .bytesOut ((Sizes.ofBatch batch).without undelivered).toUInt64
    if !outcome.rejected.isEmpty then b.reject t outcome.rejected
    else if residual.isEmpty then (b, t, .looking backoff.reset)
    else b.putBack t residual backoff draw

end Buffer

end Outbox
