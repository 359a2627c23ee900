import Outbox.Dispatch.Gate
import Outbox.Dispatch.Reply

/-!
# Submissions

A submission enters the gate and is counted *before* it looks whether the writer
is closed: a closing call then either sees that it is under way, or is seen by
it. It leaves the gate on every path, with a reply or without one if it was
dropped while its request was outstanding, and announces the drain if it was the
last one.

* `Submission.advance`: the next step of its own;
* `Submission.answered`, `Submission.dropped`: what happens to it while its
  request is outstanding.
-/

namespace Outbox.Dispatch

/-- Where a submission stands. The reply of one that is leaving is missing if it
    was dropped. -/
inductive Submission where
  /-- Not counted yet. -/
  | arriving (entries : List Entry)
  /-- Counted, before it looks whether the writer is closed. -/
  | counted (entries : List Entry)
  /-- Let in, before anything is sent. -/
  | admitted (entries : List Entry)
  /-- The client is sending the entries. -/
  | outstanding (entries : List Entry)
  /-- All is done but to leave the gate. -/
  | leaving (reply : Option Reply)
  /-- It was the last one to leave, which is yet to be announced. -/
  | announcing (reply : Option Reply)
  | finished (reply : Option Reply)

namespace Submission

/-- The next step of its own, and what it leaves the gate like. A submission
    whose request is outstanding has none. -/
def advance (p : Policy) (g : Gate) : Submission → Option (Gate × Submission)
  | arriving es => some ({ g with inFlight := g.inFlight + 1 }, counted es)
  | counted es => some (g, if g.closed then leaving (some (.failure .closed)) else admitted es)
  | admitted es =>
    match p.refusal? es with
    | some r => some (g, leaving (some r))
    | none => some (g, outstanding es)
  | outstanding _ => none
  | leaving r =>
    some ({ g with inFlight := g.inFlight - 1 },
      if g.inFlight = 1 then announcing r else finished r)
  | announcing r => some ({ g with drains := g.drains + 1 }, finished r)
  | finished _ => none

/-- The client answers. -/
def answered (p : Policy) (a : Answer) : Submission → Option Submission
  | outstanding es => some (leaving (some (p.onAnswer es a)))
  | _ => none

/-- The submission is given up while the client has not answered. -/
def dropped : Submission → Option Submission
  | outstanding _ => some (leaving none)
  | _ => none

/-- Nothing is left to do. -/
def isFinished : Submission → Bool
  | finished _ => true
  | _ => false

end Submission

end Outbox.Dispatch
