import Outbox.Dispatch.Gate

/-!
# Closings

The first call that closes a writer shuts the gate, waits until all submissions
have left, and releases the client. Later ones wait until the first has released
the client. Both kinds of waiting take a ticket before they look whether there
is anything to wait for, so that no announcement in between is missed.

* `Closing.advance`: the next step of its own;
* `Closing.clientReleased`: the client is done with releasing what it holds;
* `Closing.dropped`: the call is given up where it waits.
-/

namespace Outbox.Dispatch

/-- Where a closing call stands. -/
inductive Closing where
  /-- Before it shuts the gate. -/
  | arriving
  /-- The first one, about to take a ticket for the drain. -/
  | draining
  /-- It holds a ticket and is about to look for submissions under way. -/
  | counting (ticket : Nat)
  /-- It waits for the drain. -/
  | awaitingDrain (ticket : Nat)
  /-- No submission is under way, and the client is about to be released. -/
  | drained
  /-- The client is releasing what it holds. -/
  | releasing
  /-- The client is done, which is yet to be noted. -/
  | noting
  /-- The client is done, which is yet to be announced. -/
  | announcing
  /-- A later one, about to take a ticket for the release. -/
  | following
  /-- It holds a ticket and is about to look whether the client is released. -/
  | checking (ticket : Nat)
  /-- It waits for the release. -/
  | awaitingRelease (ticket : Nat)
  | finished
  /-- Given up. -/
  | abandoned
deriving DecidableEq, Repr

namespace Closing

/-- The next step of its own, and what it leaves the gate like. There is none
    while the ticket's event has not been announced, or the client is busy. -/
def advance (g : Gate) : Closing → Option (Gate × Closing)
  | arriving => some ({ g with closed := true }, if g.closed then following else draining)
  | draining => some (g, counting g.drains)
  | counting ticket => some (g, if g.inFlight = 0 then drained else awaitingDrain ticket)
  | awaitingDrain ticket => if g.drains = ticket then none else some (g, draining)
  | drained => some (g, releasing)
  | releasing => none
  | noting => some ({ g with released := true }, announcing)
  | announcing => some ({ g with releases := g.releases + 1 }, finished)
  | following => some (g, checking g.releases)
  | checking ticket => some (g, if g.released then finished else awaitingRelease ticket)
  | awaitingRelease ticket => if g.releases = ticket then none else some (g, following)
  | finished => none
  | abandoned => none

/-- The client has released what it holds. -/
def clientReleased : Closing → Option Closing
  | releasing => some noting
  | _ => none

/-- The call is given up where it waits: for the drain, the client or the
    release. -/
def dropped : Closing → Option Closing
  | awaitingDrain _ | releasing | awaitingRelease _ => some abandoned
  | _ => none

/-- Nothing is left to do. -/
def isFinished : Closing → Bool
  | finished | abandoned => true
  | _ => false

end Closing

end Outbox.Dispatch
