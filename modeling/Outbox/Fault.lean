/-!
# Faults

A `Fault` is why a request failed as a whole: nothing is known then about the
entries in it. A fault is `Verdict.fatal` if sending the batch again is of no
use, and `Verdict.retryable` otherwise; which of them it is, is decided by rules
(see `Outbox.Fault.Rulebook`).
-/

namespace Outbox

/-- Where a fault comes from. -/
inductive Category where
  /-- The service answered with an error. -/
  | service
  /-- What the request is addressed to does not exist. -/
  | resourceNotFound
  /-- No answer arrived. -/
  | transport
  /-- An entry cannot be part of any request. -/
  | invalidEntry
deriving DecidableEq, Repr

/-- Why a request failed as a whole. -/
structure Fault where
  category : Category
  /-- The code the service gave, if it answered. -/
  code : Option String := none
  message : String
  /-- The text of what caused the fault. -/
  source : Option String := none
deriving DecidableEq, Repr

/-- The fault of a batch with an entry that cannot be sent, for the given reason. -/
def Fault.invalidEntry (id reason : String) : Fault where
  category := .invalidEntry
  message := s!"entry {id} could not be converted: {reason}"

/-- Whether sending again can help. -/
inductive Verdict where
  | fatal
  | retryable
deriving DecidableEq, Repr

/-- A fault with the verdict on it. -/
structure Diagnosis where
  verdict : Verdict
  message : String
  cause : Fault
deriving DecidableEq, Repr

/-- Sending again is of no use. -/
def Diagnosis.isFatal (d : Diagnosis) : Bool := d.verdict = .fatal

end Outbox
