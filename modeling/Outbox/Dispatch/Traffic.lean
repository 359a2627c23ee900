import Outbox.Dispatch.Closing
import Outbox.Dispatch.Submission

/-!
# Traffic

All calls on one writer together. They run in *lanes*: in each of them, one call
begins after another has finished. Any lane may take the next step, so the runs
of `Traffic.step` are the interleavings of the calls, step by step, with the
answers of the client and the dropping of calls in between.

The client is asked to send batches and to be released; `Traffic.asked` is the
record of all that.
-/

namespace Outbox.Dispatch

/-- A call on a writer. -/
inductive Call where
  | submission (s : Submission)
  | closing (c : Closing)

/-- Nothing is left to do. -/
def Call.isFinished : Call → Bool
  | submission s => s.isFinished
  | closing c => c.isFinished

/-- There is a next step of its own. -/
def Call.canAdvance (p : Policy) (g : Gate) : Call → Bool
  | submission s => (s.advance p g).isSome
  | closing c => (c.advance g).isSome

/-- What the client is asked: to send the batch of a lane, or to release what it
    holds. -/
inductive Ask where
  | send (lane : Nat) (entries : List Entry)
  | release (lane : Nat)

/-- The calls on a writer, lane by lane, and what the client was asked, the
    latest first. -/
structure Traffic where
  gate : Gate := {}
  lanes : List Call := []
  asked : List Ask := []

/-- What can happen. -/
inductive Event where
  /-- A submission begins in a lane that is new or whose call has finished. -/
  | submit (lane : Nat) (entries : List Entry)
  /-- A closing call begins in such a lane. -/
  | close (lane : Nat)
  /-- The call in a lane takes its next step. -/
  | go (lane : Nat)
  /-- The client answers the request of a lane. -/
  | answer (lane : Nat) (a : Answer)
  /-- The client is done with releasing what it holds, as asked by a lane. -/
  | clientReleased (lane : Nat)
  /-- The call in a lane is given up. -/
  | drop (lane : Nat)

namespace Traffic

/-- Puts a call into a lane, in place of the one there. -/
def put (t : Traffic) (lane : Nat) (c : Call) : Traffic := { t with lanes := t.lanes.set lane c }

/-- A call begins in a lane. -/
def enter (t : Traffic) (lane : Nat) (c : Call) : Option Traffic :=
  match t.lanes[lane]? with
  | some old => if old.isFinished then some (t.put lane c) else none
  -- lanes are numbered without gaps
  | none => if lane = t.lanes.length then some { t with lanes := t.lanes ++ [c] } else none

/-- What a step of a submission asks of the client. -/
def askOf (lane : Nat) : Submission → List Ask
  | .outstanding es => [.send lane es]
  | _ => []

/-- The call in a lane takes its next step. -/
def go (p : Policy) (t : Traffic) (lane : Nat) : Option Traffic := do
  match ← t.lanes[lane]? with
  | .submission s =>
    let (gate, s) ← s.advance p t.gate
    return { gate, lanes := t.lanes.set lane (.submission s), asked := askOf lane s ++ t.asked }
  | .closing c =>
    let (gate, c) ← c.advance t.gate
    let asked := if c = .releasing then .release lane :: t.asked else t.asked
    return { gate, lanes := t.lanes.set lane (.closing c), asked }

/-- The client answers the request of a lane. -/
def answer (p : Policy) (t : Traffic) (lane : Nat) (a : Answer) : Option Traffic := do
  match ← t.lanes[lane]? with
  | .submission s => return t.put lane (.submission (← s.answered p a))
  | .closing _ => none

/-- The client is done with releasing. -/
def clientReleased (t : Traffic) (lane : Nat) : Option Traffic := do
  match ← t.lanes[lane]? with
  | .submission _ => none
  | .closing c => return t.put lane (.closing (← c.clientReleased))

/-- The call in a lane is given up. -/
def drop (t : Traffic) (lane : Nat) : Option Traffic := do
  match ← t.lanes[lane]? with
  | .submission s => return t.put lane (.submission (← s.dropped))
  | .closing c => return t.put lane (.closing (← c.dropped))

/-- What becomes of the traffic by an event, if it can happen. -/
def step (p : Policy) (t : Traffic) : Event → Option Traffic
  | .submit lane es => t.enter lane (.submission (.arriving es))
  | .close lane => t.enter lane (.closing .arriving)
  | .go lane => t.go p lane
  | .answer lane a => t.answer p lane a
  | .clientReleased lane => t.clientReleased lane
  | .drop lane => t.drop lane

/-- The traffic after some events, if they can happen one after another. -/
def run (p : Policy) : List Event → Traffic → Option Traffic
  | [], t => some t
  | e :: es, t => (t.step p e).bind (run p es)

/-- The number of times the client was asked to release what it holds. -/
def releaseCount (t : Traffic) : Nat :=
  t.asked.countP fun | .release _ => true | .send _ _ => false

end Traffic

end Outbox.Dispatch
