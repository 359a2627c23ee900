import Outbox.Fault.Rulebook
import Outbox.Text.Quoted

/-!
# Failed calls to SQS

What goes wrong with a call to the service as a whole (`CallError`), and the
fault it is for a batch (`CallError.toFault`). Only an answer of the service
itself can carry a code, and some of these codes say that the queue is gone.
-/

namespace Outbox.Sqs

/-- Why the connection did not carry a request. -/
inductive Connector where
  | io
  | timeout
  | user
  | other
deriving DecidableEq, Repr

/-- Why a call failed. All carry the words of what caused it. -/
inductive CallError where
  /-- The request could not be put together. -/
  | construction (what : String)
  /-- No answer came in time. -/
  | timeout (what : String)
  /-- The request did not get through. -/
  | dispatch (connector : Connector) (what : String)
  /-- The answer could not be understood. -/
  | response (what : String)
  /-- The service answered with an error. -/
  | service (what : String) (code message : Option String)
deriving DecidableEq, Repr

/-- The codes by which the service says that the queue is gone. -/
def missingQueueCodes : List String :=
  ["AWS.SimpleQueueService.NonExistentQueue", "QueueDoesNotExist"]

/-- The standard rules, and one for missing queues. -/
def rules : Rulebook :=
  Rulebook.standard.add
    { name := "queue-does-not-exist"
      pattern := .anyCode missingQueueCodes
      message := "Encountered non-recoverable exception: the SQS queue does not exist" }

/-- How a connector's trouble is introduced, and what it is called. -/
def Connector.names : Connector → String × String
  | .io => ("io error", "Io")
  | .timeout => ("timeout", "Timeout")
  | .user => ("user error", "User")
  | .other => ("other", "Other(None)")

namespace CallError

/-- The code the service gave. -/
def code? : CallError → Option String
  | service _ code _ => code
  | _ => none

/-- The message the service gave. -/
def message? : CallError → Option String
  | service _ _ message => message
  | _ => none

/-- What failed, in short. -/
def summary : CallError → String
  | construction _ => "failed to construct request"
  | timeout _ => "request has timed out"
  | dispatch _ _ => "dispatch failure"
  | response _ => "response error"
  | service _ _ _ => "service error"

/-- A named group of fields, as it shows in a context. -/
def group (name fields : String) : String := name ++ "(" ++ name ++ " \x7b " ++ fields ++ " \x7d)"

/-- The causes of a failure one by one, and its parts. -/
def context (e : CallError) : String :=
  e.summary ++ ": " ++
    match e with
    | construction what =>
      what ++ " (" ++ group "ConstructionFailure" ("source: " ++ quoted what) ++ ")"
    | timeout what => what ++ " (" ++ group "TimeoutError" ("source: " ++ quoted what) ++ ")"
    | dispatch connector what =>
      let (intro, kind) := connector.names
      let source := "ConnectorError \x7b kind: " ++ kind ++ ", source: " ++ quoted what ++
        ", connection: Unknown \x7d"
      intro ++ ": " ++ what ++ " (" ++ group "DispatchFailure" ("source: " ++ source) ++ ")"
    | response what =>
      what ++ " (" ++ group "ResponseError" ("source: " ++ quoted what ++ ", raw: ()") ++ ")"
    | service what _ _ =>
      what ++ " (" ++ group "ServiceError" ("source: " ++ what ++ ", raw: ()") ++ ")"

/-- Where the fault comes from. -/
def category : CallError → Category
  | timeout _ | dispatch _ _ => .transport
  | e => if e.code?.any (missingQueueCodes.contains ·) then .resourceNotFound else .service

/-- The fault of a batch whose call failed. -/
def toFault (e : CallError) : Fault where
  category := e.category
  code := e.code?
  message := e.message?.getD e.context
  source := some e.summary

end CallError

end Outbox.Sqs
