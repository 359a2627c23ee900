import Outbox.Entry
import Outbox.Error
import Outbox.Fault.Rulebook

/-!
# Replies to submissions

A batch is submitted with a `Policy`, which says what is to be made of the
client's `Answer`. The submitter gets a `Reply`: how the submission ended, and
the entries that are handed back to be delivered later, which are none at all if
the batch is complete.

* A request that failed as a whole (`Policy.onFault`) is an error, or hands the
  whole batch back if the fault is retryable and the policy is to retry.
* Of a batch the service accepted (`Policy.onReceipt`), the entries it rejects
  are handed back, or reported if the policy is not to retry.
* A batch with an entry that cannot be sent (`Policy.refusal?`) is treated like
  a request that failed.

If nothing is handed back at all, not even no entries, the submitter is to give
up on the batch.
-/

namespace Outbox

/-- What a client makes of one request: it failed as a whole, or the service
    accepted it but for the entries in the receipt. -/
abbrev Answer := Except Fault Receipt

/-- What became of the entries of a batch. -/
structure Outcome where
  /-- The number of entries the service has accepted. -/
  delivered : Nat := 0
  /-- The number of entries handed back. -/
  retried : Nat := 0
  /-- The entries rejected for good, each once. -/
  rejected : List Rejection := []
deriving DecidableEq, Repr

/-- How a submission ended. -/
structure Reply where
  result : Except Error Outcome
  /-- The entries handed back, in the order of the batch. -/
  handedBack : Option (List Entry)

namespace Reply

/-- An error, with nothing handed back. -/
def failure (e : Error) : Reply := ⟨.error e, none⟩

end Reply

/-- What is made of the answers of a client. -/
structure Policy where
  /-- Every error is final. -/
  failOnError : Bool := false
  rules : Rulebook := .standard

namespace Policy

/-- The first rejection of each of the wanted ids, in the order of the
    rejections. -/
def firstOfEach : Std.TreeSet String → List Rejection → List Rejection
  | _, [] => []
  | wanted, r :: rs =>
    if wanted.contains r.id then r :: firstOfEach (wanted.erase r.id) rs
    else firstOfEach wanted rs

/-- The request failed as a whole. -/
def onFault (p : Policy) (entries : List Entry) (f : Fault) : Reply :=
  let d := p.rules.diagnose f
  if p.failOnError then .failure (.failFast d)
  else match d.verdict with
    | .fatal => .failure (.requestFailed d)
    | .retryable => ⟨.ok { retried := entries.length }, some entries⟩

/-- The service accepted the batch but for the entries the receipt rejects. Ids
    in the receipt that are not in the batch mean nothing. -/
def onReceipt (p : Policy) (entries : List Entry) (r : Receipt) : Reply :=
  let rejectedIds := r.rejectedIds
  let residual := entries.filter (rejectedIds.contains ·.id)
  let delivered := entries.length - residual.length
  if residual.isEmpty then ⟨.ok { delivered }, some []⟩
  else if p.failOnError then
    ⟨.ok { delivered, rejected := firstOfEach (.ofList (residual.map (·.id))) r.rejections }, none⟩
  else ⟨.ok { delivered, retried := residual.length }, some residual⟩

/-- The reply to a batch the client has answered. -/
def onAnswer (p : Policy) (entries : List Entry) : Answer → Reply
  | .error f => p.onFault entries f
  | .ok r => p.onReceipt entries r

/-- The fault of a batch with an entry that cannot be sent, the first of them. -/
def invalidity? (entries : List Entry) : Option Fault :=
  (entries.find? (!·.isValid)).map fun e => .invalidEntry e.id (e.invalid.getD "")

/-- The reply to a batch that is not sent at all. -/
def refusal? (p : Policy) (entries : List Entry) : Option Reply :=
  (invalidity? entries).map (p.onFault entries)

/-- The reply to a batch that nothing else interferes with, given the client's
    answer in case it is asked. -/
def reply (p : Policy) (entries : List Entry) (a : Answer) : Reply :=
  (p.refusal? entries).getD (p.onAnswer entries a)

end Policy

end Outbox
