/-!
# The gate

What the concurrent calls on one writer share: the number of submissions under
way and whether the writer is closed. Each step of a call reads or changes one
of these fields, so that all calls together are an interleaving of such steps.

A call waits for an event by taking a *ticket*, the number of times the event
was announced so far, and going on once that number has changed. An announcement
thus reaches all tickets taken before it, also those of calls that do not wait
on them yet.
-/

namespace Outbox.Dispatch

/-- What the calls on a writer share. -/
structure Gate where
  /-- The submissions that have entered and not left. -/
  inFlight : Nat := 0
  /-- No more submissions are let in. -/
  closed : Bool := false
  /-- The client has been released. -/
  released : Bool := false
  /-- How often it was announced that the last submission has left. -/
  drains : Nat := 0
  /-- How often it was announced that the client has been released. -/
  releases : Nat := 0
deriving DecidableEq, Repr

end Outbox.Dispatch
