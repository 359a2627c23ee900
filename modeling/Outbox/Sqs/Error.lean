import Outbox.Error

/-!
# Errors in setting up a queue

What can go wrong before there is a writer for a queue (`Sqs.Error`), among it
the failure to look up the address of the queue (`LookupError`).
-/

namespace Outbox.Sqs

/-- The service does not tell the address of a queue. -/
inductive LookupError where
  /-- There is no such queue, as the service says in a message. -/
  | missingQueue (message : Option String)
  /-- Anything else, by its code. -/
  | unhandled (code : Option String)
deriving DecidableEq, Repr

/-- The text of a failed look-up. -/
def LookupError.message : LookupError → String
  | .missingQueue none => "QueueDoesNotExist"
  | .missingQueue (some text) => s!"QueueDoesNotExist: {text}"
  | .unhandled none => "unhandled error"
  | .unhandled (some code) => s!"unhandled error ({code})"

/-- Why there is no writer for a queue. -/
inductive Error where
  | lookup (e : LookupError)
  /-- The error is one of the writer itself. -/
  | writer (e : Outbox.Error)
  | misconfigured (m : Misconfiguration)
  /-- Anything else, in words. -/
  | other (text : String)

/-- The text of an error. -/
def Error.message : Error → String
  | .lookup e => s!"Failed with SQS error - {e.message}"
  | .writer e => s!"Failed with sink error - {e.message}"
  | .misconfigured m => s!"Invalid configuration: {m.message}"
  | .other text => text

end Outbox.Sqs
