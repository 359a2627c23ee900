import Outbox.Conversion
import Outbox.Dispatch.Reply
import Outbox.Sqs.CallError
import Outbox.Text.Integer
import Outbox.Text.Utf8
import Std.Data.TreeMap

/-!
# Requests to SQS

A batch goes out as one `Request`. The service restricts the ids of messages,
so each message gets one by its position in the batch (`localId`), and what the
service says about these ids is put down to the entries again (`receipt`).

A message is made of an entry (`Message.ofEntry`) if its payload is text and its
delay, if it has one, is a number. One entry that is not of this kind keeps the
whole batch from going out (`messages`).
-/

namespace Outbox.Sqs

/-- A message of a request. -/
structure Message where
  id : String
  body : String
  /-- How many seconds the message stays hidden. -/
  delay : Option Int := none
  group : Option String := none
  deduplication : Option String := none
deriving DecidableEq, Repr

/-- A batch of messages for a queue. -/
structure Request where
  queue : String
  messages : List Message
deriving DecidableEq, Repr

/-- A message the service did not accept. -/
structure Refused where
  id : String
  code : String
  message : Option String := none
  senderFault : Bool := false
deriving DecidableEq, Repr

/-- What the service makes of a request. -/
abbrev ServiceAnswer := Except CallError (List Refused)

def delayHeader : String := "DelaySeconds"
def groupHeader : String := "MessageGroupId"
def deduplicationHeader : String := "MessageDeduplicationId"

/-- The id of the message at a position. -/
def localId (i : Nat) : String := s!"msg_{i}"

/-- The delay of an entry, a number of 32 bits if there is one. -/
def delayOf (e : Entry) : Except Fault (Option Int) :=
  match e.headers.get? delayHeader with
  | none => .ok none
  | some text =>
    match Integer.read Int32.minValue.toInt Int32.maxValue.toInt text with
    | .ok n => .ok (some n)
    | .error d => .error (.invalidEntry e.id s!"invalid {delayHeader} {quoted text}: {d.message}")

/-- The body of an entry. -/
def bodyOf (e : Entry) : Except Fault String :=
  match Utf8.decode e.payload with
  | .ok body => .ok body
  | .error d => .error (.invalidEntry e.id d.message)

/-- The message of the entry at a position. -/
def Message.ofEntry (i : Nat) (e : Entry) : Except Fault Message :=
  match bodyOf e, delayOf e with
  -- of two faults that of the body counts
  | .error f, _ => .error f
  | .ok _, .error f => .error f
  | .ok body, .ok delay => .ok {
      id := localId i
      body
      delay
      group := e.headers.get? groupHeader
      deduplication := e.headers.get? deduplicationHeader }

/-- The messages of entries from a position on, or the fault of the first entry
    without one. -/
def messagesFrom : Nat → List Entry → Except Fault (List Message)
  | _, [] => .ok []
  | i, e :: es =>
    match Message.ofEntry i e with
    | .error f => .error f
    | .ok m => (messagesFrom (i + 1) es).map (m :: ·)

/-- The messages of a batch. -/
def messages (entries : List Entry) : Except Fault (List Message) := messagesFrom 0 entries

/-- The entries of a batch by the local ids they go out under. -/
def byLocalId (entries : List Entry) : Std.TreeMap String Entry :=
  .ofList (entries.zipIdx.map fun (e, i) => (localId i, e))

/-- What is said about the entry of a refused message. -/
def Refused.rejection (r : Refused) (e : Entry) : Rejection where
  id := e.id
  code := some r.code
  message := r.message
  senderFault := some r.senderFault

/-- The receipt for a batch, which says nothing about ids that were not in it. -/
def receipt (entries : List Entry) (refused : List Refused) : Receipt :=
  let sent := byLocalId entries
  ⟨refused.filterMap fun r => (sent.get? r.id).map r.rejection⟩

/-- The client's answer to a batch, given that of the service. -/
def answer (entries : List Entry) : ServiceAnswer → Answer
  | .error e => .error e.toFault
  | .ok refused => .ok (receipt entries refused)

/-- The fault of all batches after the client was released. -/
def releasedFault : Fault where
  category := .resourceNotFound
  message := "SQS client has already been released"

/-- The request for a batch. That the client was released is found only when
    there is something to send. -/
def request (released : Bool) (queue : String) (entries : List Entry) : Except Fault Request :=
  match messages entries with
  | .error f => .error f
  | .ok ms => if released then .error releasedFault else .ok ⟨queue, ms⟩

/-- Lets only entries with text through, as a message's body is text. -/
def convertText {α : Type} (serialize : Serializer α) : Converter α := fun headers id record =>
  let e := convert serialize headers id record
  if e.isValid && (Utf8.decode e.payload).toOption.isNone then
    .unconvertible e.id "SQS message bodies must be valid UTF-8"
  else e

end Outbox.Sqs
