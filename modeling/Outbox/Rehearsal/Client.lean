import Outbox.Dispatch.Reply
import Outbox.Sqs.Request

/-!
# Scripted clients

A client for rehearsals answers from a script, a list of answers each of which
serves for a number of requests; once it is used up, every request succeeds.

* `Scripted`: a client that answers by itself, possibly after it was held up or
  some time has passed;
* `ScriptedQueue`: the client of a queue whose service answers from a script.
-/

namespace Outbox.Rehearsal

/-- Answers in order, with the number of times each is given. -/
abbrev Script (α : Type) := List (Nat × α)

/-- The next answer, and the script behind it. -/
def Script.next {α : Type} : Script α → Option α × Script α
  | [] => (none, [])
  | (0, _) :: rest => Script.next rest
  | (n + 1, a) :: rest => (some a, (n, a) :: rest)

/-- What a client makes of a request: its answer, and whether it waits for a
    permit and then for some milliseconds before it gives it. -/
structure Response where
  answer : Answer
  held : Bool := false
  delay : Nat := 0

/-- A client that can be rehearsed with. It keeps the requests it made. -/
class Client (σ : Type) (ρ : outParam Type) where
  /-- Sends entries to a destination, at some time. -/
  send : σ → (now : Nat) → (destination : String) → List Entry → Response × σ
  /-- Releases what the client holds. -/
  release : σ → σ
  /-- The requests made, in order. -/
  requests : σ → List ρ
  /-- Forgets the requests made. -/
  forget : σ → σ

/-! ## A client that answers by itself -/

/-- An answer of a script. -/
structure ScriptedAnswer where
  /-- The request fails as a whole. -/
  fault : Option Fault := none
  /-- The rejections of a request that succeeds. -/
  failed : List Rejection := []
  /-- The positions in the batch of further entries to reject. -/
  failAt : List Nat := []
  /-- The code these are rejected with. -/
  code : Option String := none
  held : Bool := false
  delay : Nat := 0

/-- The answer to a batch. -/
def ScriptedAnswer.toAnswer (a : ScriptedAnswer) (entries : List Entry) : Answer :=
  match a.fault with
  | some f => .error f
  | none =>
    let more := a.failAt.filterMap fun i => entries[i]?.map fun e => { id := e.id, code := a.code }
    .ok ⟨a.failed ++ more⟩

/-- A request made at some time. -/
structure Sent where
  time : Nat
  destination : String
  entries : List Entry

/-- A client that answers from a script. -/
structure Scripted where
  script : Script ScriptedAnswer := []
  /-- The requests made, the latest first. -/
  sent : List Sent := []
  /-- How often it was asked to release what it holds. -/
  closes : Nat := 0

instance : Client Scripted Sent where
  send c now destination entries :=
    let (a, script) := c.script.next
    let a := a.getD {}
    ({ answer := a.toAnswer entries, held := a.held, delay := a.delay },
      { c with script, sent := ⟨now, destination, entries⟩ :: c.sent })
  release c := { c with closes := c.closes + 1 }
  requests c := c.sent.reverse
  forget c := { c with sent := [] }

/-! ## A client of a queue -/

/-- A client of a queue whose service answers from a script. -/
structure ScriptedQueue where
  script : Script Sqs.ServiceAnswer := []
  /-- The requests made, the latest first. -/
  sent : List Sqs.Request := []
  released : Bool := false

/-- Sends a batch, unless there is no request for it. -/
def ScriptedQueue.send (c : ScriptedQueue) (queue : String) (entries : List Entry) :
    Answer × ScriptedQueue :=
  match Sqs.request c.released queue entries with
  | .error f => (.error f, c)
  | .ok r =>
    let (a, script) := c.script.next
    (Sqs.answer entries (a.getD (.ok [])), { c with script, sent := r :: c.sent })

instance : Client ScriptedQueue Sqs.Request where
  send c _ queue entries :=
    let (answer, c) := c.send queue entries
    ({ answer }, c)
  release c := { c with released := true }
  requests c := c.sent.reverse
  forget c := { c with sent := [] }

end Outbox.Rehearsal
