import Outbox.Dispatch.Traffic
import Outbox.Rehearsal.Client

/-!
# The stage

A writer and its client in a rehearsal (`Stage`). The calls run in the lanes of
`Dispatch.Traffic`; the stage decides which of its events happens next, so that
every rehearsal is one of the traffic's interleavings. Time is virtual and only
passes between the steps.

A request that is outstanding waits for a permit if its client holds it up, and
then until it is due (`Wait`).
-/

namespace Outbox.Rehearsal

open Dispatch

/-- A request that is outstanding. -/
structure Wait where
  lane : Nat
  /-- The number of the request. -/
  request : Nat
  answer : Answer
  delay : Nat
  /-- When the answer comes, unless the request is held up. -/
  due : Option Nat

/-- A writer and its client. -/
structure Stage (σ : Type) where
  policy : Policy
  destination : String
  client : σ
  traffic : Traffic := {}
  /-- The time, in milliseconds. -/
  now : Nat := 0
  waits : List Wait := []
  /-- The number of requests the client was given. -/
  requests : Nat := 0
  /-- The requests that may go on without waiting for a permit. -/
  permits : List Nat := []
  /-- The client waits for a permit before it is done with releasing. -/
  holdsRelease : Bool := false

namespace Stage

variable {σ ρ : Type} [Client σ ρ]

/-- The client was just asked to send the batch of a lane. -/
def sending (s : Stage σ) (lane : Nat) (entries : List Entry) : Stage σ :=
  let (r, client) := Client.send s.client s.now s.destination entries
  let held := r.held && !s.permits.contains s.requests
  let wait : Wait := {
    lane, request := s.requests, answer := r.answer, delay := r.delay
    due := if held then none else some (s.now + r.delay) }
  { s with client, waits := s.waits ++ [wait], requests := s.requests + 1 }

/-- The call in a lane has just taken a step. -/
def noticing (s : Stage σ) (lane : Nat) : Stage σ :=
  match s.traffic.lanes[lane]? with
  | some (.submission (.outstanding es)) => s.sending lane es
  | some (.closing .releasing) => { s with client := Client.release s.client }
  | _ => s

/-- The answer to a request comes by now. -/
def isDue (s : Stage σ) (w : Wait) : Bool := w.due.any (· ≤ s.now)

/-- The request of a lane is answered if it is due. -/
def answering (s : Stage σ) (lane : Nat) : Option (Stage σ) := do
  let w ← s.waits.find? fun w => w.lane = lane && s.isDue w
  let traffic ← s.traffic.step s.policy (.answer lane w.answer)
  return { s with traffic, waits := s.waits.filter (·.lane ≠ lane) }

/-- The client is done with releasing, if it may. -/
def releasing (s : Stage σ) (lane : Nat) : Option (Stage σ) :=
  if s.holdsRelease then none
  else (s.traffic.step s.policy (.clientReleased lane)).map ({ s with traffic := · })

/-- The next step in a lane, if there is one at this time. -/
def go (s : Stage σ) (lane : Nat) : Option (Stage σ) :=
  match s.traffic.step s.policy (.go lane) with
  | some traffic => some ({ s with traffic }.noticing lane)
  | none => s.answering lane <|> s.releasing lane

/-- The call can go on without its request being answered. -/
def isReady (s : Stage σ) (c : Call) : Bool :=
  c.canAdvance s.policy s.traffic.gate ||
    match c with
    | .closing .releasing => !s.holdsRelease
    | _ => false

/-- A lane in which there is a step at this time: that of a request that is due,
    or else the first one with a call that can go on. -/
def readyLane? (s : Stage σ) : Option Nat :=
  (s.waits.find? s.isDue).map (·.lane) <|>
    s.traffic.lanes.findIdx? s.isReady

/-- The next step in any lane. -/
def goAny (s : Stage σ) : Option (Stage σ) := s.readyLane?.bind s.go

/-- A call begins, in the lane behind the last one if that is where it is to be. -/
def enter (s : Stage σ) (e : Event) : Stage σ :=
  match s.traffic.step s.policy e with
  | some traffic => { s with traffic }
  | none => s

/-- The call in a lane is given up, if it waits. -/
def drop (s : Stage σ) (lane : Nat) : Stage σ :=
  match s.traffic.step s.policy (.drop lane) with
  | some traffic => { s with traffic, waits := s.waits.filter (·.lane ≠ lane) }
  | none => s

/-- A request gets its permit, now if it is held up and else in advance. -/
def permit (s : Stage σ) (request : Nat) : Stage σ :=
  if s.waits.any fun w => w.request = request && w.due.isNone then
    let wake (w : Wait) : Wait :=
      if w.request = request then { w with due := some (s.now + w.delay) } else w
    { s with waits := s.waits.map wake }
  else { s with permits := request :: s.permits }

/-- When the next request is due, of those that are not held up. -/
def deadline? (s : Stage σ) : Option Nat := (s.waits.filterMap (·.due)).min?

end Stage

end Outbox.Rehearsal
