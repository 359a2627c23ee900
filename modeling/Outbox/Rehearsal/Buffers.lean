import Outbox.Buffer
import Outbox.Rehearsal.Stage

/-!
# Rehearsing buffers

Some buffers in front of one writer, which share a tally. Calls on them are made
one after another, each of them to its end (`Buffers.play`), while the writer
may be closed in the background at some later time.

The calls on the writer that a buffer makes run in the first lane of the stage,
one at a time; each closing in the background has a lane of its own. At any time
the call goes on as far as it can before the background does.
-/

namespace Outbox.Rehearsal

open Dispatch

/-- What can be instructed. -/
inductive BufferInstruction where
  /-- Records are written one by one up to the first failure, the entry of each
      being made with a fresh id. -/
  | write (buffer times : Nat) (make : String → Entry)
  | flush (buffer : Nat)
  /-- The last flush of a buffer, after which the writer is closed and the buffer
      is gone. -/
  | close (buffer : Nat)
  | closeWriter
  /-- The writer is closed in the background after some milliseconds. -/
  | closeWriterAfter (ms : Nat)
  | sleep (ms : Nat)

/-- The number of records an instruction writes. -/
def BufferInstruction.records : BufferInstruction → Nat
  | .write _ times _ => times
  | _ => 0

/-- How a call ended. -/
inductive BufferEnding where
  | result (r : Except Error Unit)
  /-- The buffer is gone. -/
  | consumed
  | writerClosed
  | scheduled
  | slept

/-- What is left of a call once its flush has finished without failing. -/
inductive Rest where
  | nothing
  | writes (times : Nat) (make : String → Entry)
  /-- The writer is to be closed, also if the flush has failed. -/
  | closing

/-- Where a call stands. -/
inductive Work where
  /-- A flush of a buffer. -/
  | flushing (buffer : Nat) (f : Flush) (rest : Rest)
  /-- The flush of a buffer pauses up to some time. -/
  | pausing (buffer : Nat) (wake : Nat) (backoff : Backoff) (rest : Rest)
  /-- The writer is being closed, which ends the call. -/
  | closing (e : BufferEnding)
  | sleeping (wake : Nat)
  | finished (e : BufferEnding)

/-- Buffers in front of a writer. -/
structure Buffers (σ : Type) where
  stage : Stage σ
  /-- The buffers, but for those that are gone. -/
  buffers : List (Option Buffer)
  tally : Tally := {}
  /-- When the writer is to be closed in the background. -/
  closings : List Nat := []
  /-- The ids of the entries made, and their number. -/
  ids : Nat → String
  made : Nat := 0
  /-- The fraction drawn for all jitter. -/
  draw : Float := 0.5
  work : Work := .finished .slept

/-- What shows after an instruction. -/
structure Buffers.Report (ρ : Type) where
  ending : Option BufferEnding
  /-- The number of entries waiting in each buffer, unless it is gone. -/
  pending : List (Option Nat)
  tally : Tally
  requests : List ρ
  now : Nat
  closed : Bool
  inFlight : Nat

namespace Buffers

variable {σ ρ : Type} [Client σ ρ]

/-- Buffers before the first instruction, on a stage whose first lane is free. -/
def start (stage : Stage σ) (buffers : List Buffer) (ids : Nat → String) : Buffers σ where
  stage := { stage with traffic := { lanes := [.closing .finished] } }
  buffers := buffers.map some
  ids

/-- The buffer with a number, unless it is gone. -/
def buffer? (d : Buffers σ) (i : Nat) : Option Buffer := d.buffers[i]?.join

/-- Replaces a buffer. -/
def set (d : Buffers σ) (i : Nat) (b : Buffer) : Buffers σ :=
  { d with buffers := d.buffers.set i (some b) }

/-- Writes records to a buffer, up to the first one that does not just wait
    there. Nothing is made of a record once the work of the buffer has ended. -/
def write (d : Buffers σ) (i : Nat) (b : Buffer) (make : String → Entry) : Nat → Buffers σ
  | 0 => { d.set i b with work := .finished (.result (.ok ())) }
  | times + 1 =>
    let made := if b.aborted.isNone then d.made + 1 else d.made
    match b.write (make (d.ids d.made)) with
    | (b, .finished (.ok ())) => write { d with made } i b make times
    | (b, f) => { d.set i b with made, work := .flushing i f (.writes times make) }

/-- A flush has finished. -/
def proceed (d : Buffers σ) (i : Nat) (r : Except Error Unit) (rest : Rest) : Buffers σ :=
  match rest with
  | .nothing => { d with work := .finished (.result r) }
  | .writes times make =>
    match r, d.buffer? i with
    | .ok (), some b => d.write i b make times
    | _, _ => { d with work := .finished (.result r) }
  | .closing => { d with stage := d.stage.enter (.close 0), work := .closing (.result r) }

/-- The reply to the submission in the first lane, once it has left. -/
def reply? (d : Buffers σ) : Option Reply :=
  match d.stage.traffic.lanes.head? with
  | some (.submission (.finished r)) => r
  | _ => none

/-- The next step of the call's own, if there is one at this time. -/
def goWork (d : Buffers σ) : Option (Buffers σ) :=
  match d.work with
  | .flushing i (.finished r) rest => some (d.proceed i r rest)
  | .flushing i (.pausing pause backoff) rest =>
    some { d with work := .pausing i (d.stage.now + pause.millis) backoff rest }
  | .flushing i (.looking backoff) rest => do
    let b ← d.buffer? i
    let (b, f) := b.look d.stage.traffic.gate.closed backoff
    let stage := match f with
      | .submitting batch _ => d.stage.enter (.submit 0 batch)
      | _ => d.stage
    return { d.set i b with stage, work := .flushing i f rest }
  | .flushing i (.submitting batch backoff) rest => do
    let b ← d.buffer? i
    let r ← d.reply?
    let (b, tally, f) := b.settle d.tally batch backoff d.draw r
    return { d.set i b with tally, work := .flushing i f rest }
  | .pausing i wake backoff rest =>
    if wake ≤ d.stage.now then some { d with work := .flushing i (.looking backoff) rest }
    else none
  | .closing e =>
    match d.stage.traffic.lanes.head? with
    | some (.closing .finished) => some { d with work := .finished e }
    | _ => none
  | .sleeping wake =>
    if wake ≤ d.stage.now then some { d with work := .finished .slept } else none
  | .finished _ => none

/-- The first of the closings in the background that are due begins. -/
def goClosing (d : Buffers σ) : Option (Buffers σ) := do
  let i ← d.closings.findIdx? (· ≤ d.stage.now)
  return { d with
    stage := d.stage.enter (.close d.stage.traffic.lanes.length)
    closings := d.closings.eraseIdx i }

/-- The next step at this time, in the background if the call has none. -/
def go (d : Buffers σ) : Option (Buffers σ) :=
  -- the call and what it does on the writer come before everything else
  (d.stage.go 0).map ({ d with stage := · }) <|> d.goWork <|> d.goClosing <|>
    d.stage.goAny.map ({ d with stage := · })

/-- The call has ended. -/
def ending? (d : Buffers σ) : Option BufferEnding :=
  match d.work with
  | .finished e => some e
  | _ => none

/-- When something happens next. -/
def deadline? (d : Buffers σ) : Option Nat :=
  let own := match d.work with
    | .pausing _ wake _ _ | .sleeping wake => [wake]
    | _ => []
  (own ++ d.closings ++ d.stage.deadline?.toList).min?

/-- Runs until the call has ended and nothing is left to do at this time, in at
    most `fuel` steps. Time passes only for the call. -/
def run : (fuel : Nat) → Buffers σ → Buffers σ
  | 0, d => d
  | fuel + 1, d =>
    match d.go with
    | some d => run fuel d
    | none =>
      match d.ending?, d.deadline? with
      | none, some t =>
        if d.stage.now < t then run fuel { d with stage := { d.stage with now := t } } else d
      | _, _ => d

/-- The call of an instruction begins. -/
def follow (d : Buffers σ) : BufferInstruction → Buffers σ
  | .write i times make =>
    match d.buffer? i with
    | none => { d with work := .finished .consumed }
    | some b => d.write i b make times
  | .flush i =>
    match d.buffer? i with
    | none => { d with work := .finished .consumed }
    | some b => { d with work := .flushing i b.flush .nothing }
  | .close i =>
    match d.buffer? i with
    | none => { d with work := .finished .consumed }
    | some b => { d with work := .flushing i b.lastFlush .closing }
  | .closeWriter => { d with stage := d.stage.enter (.close 0), work := .closing .writerClosed }
  | .closeWriterAfter ms =>
    { d with closings := d.closings ++ [d.stage.now + ms], work := .finished .scheduled }
  | .sleep ms => { d with work := .sleeping (d.stage.now + ms) }

/-- Enough steps for an instruction: each entry is submitted at most as often as
    there are pauses, and once more, by each flush. -/
def enough (d : Buffers σ) (i : BufferInstruction) : Nat :=
  let total (f : Buffer → Nat) := d.buffers.foldr (fun b n => b.elim 0 f + n) 0
  let entries := total (·.pending.size) + i.records + 1
  let attempts := total (·.settings.retry.maxAttempts.toNat) + 2
  let lanes := d.stage.traffic.lanes.length + d.closings.length + 1
  64 * ((i.records + 1) * entries * attempts + lanes * lanes)

/-- Follows an instruction up to its end. A buffer that was closed is gone. -/
def play (d : Buffers σ) (i : BufferInstruction) : Buffers.Report ρ × Buffers σ :=
  let d := run (d.enough i) (d.follow i)
  let d := match i with
    | .close i => { d with buffers := d.buffers.set i none }
    | _ => d
  let report : Buffers.Report ρ := {
    ending := d.ending?
    pending := d.buffers.map fun b => b.map (·.pending.size)
    tally := d.tally
    requests := Client.requests d.stage.client
    now := d.stage.now
    closed := d.stage.traffic.gate.closed
    inFlight := d.stage.traffic.gate.inFlight }
  (report, { d with stage := { d.stage with client := Client.forget d.stage.client } })

end Buffers

end Outbox.Rehearsal
