import Outbox.Fault
import Outbox.Settings

/-!
# Errors

Why a call on a writer fails (`Error`). Most errors are *sink failures*: what
went wrong is the delivery itself. A sink failure is *retryable* if the entries
in question may be delivered later, and *fail-fast* if it ended the work of a
writer that does not retry at all.
-/

namespace Outbox

/-- Why a call on a writer fails. -/
inductive Error where
  /-- A request failed as a whole. -/
  | requestFailed (d : Diagnosis)
  /-- No attempt is left, and some entries are still not delivered. -/
  | exhausted (entries : Nat)
  /-- An earlier failure, in its words, has ended the work of the writer. -/
  | aborted (reason : String)
  /-- Some entries will never be delivered after an earlier failure. -/
  | leftBehind (entries : Nat) (reason : String)
  /-- A request failed as a whole, and the writer does not retry. -/
  | failFast (d : Diagnosis)
  /-- The service rejected some entries, and the writer does not retry. -/
  | rejected (entries : Nat)
  /-- The writer takes no more batches. -/
  | closed
  /-- A record is larger than the limit. -/
  | tooLarge (size limit : Nat)
  | misconfigured (m : Misconfiguration)
  /-- Anything else, in words. -/
  | other (text : String)

namespace Error

/-- The kind an error is reported as. -/
inductive Kind where
  | sink
  | failFast
  | closed
  | tooLarge
  | misconfigured
  | other
deriving DecidableEq, Repr

/-- The kind of an error. -/
def kind : Error → Kind
  | requestFailed _ | exhausted _ | aborted _ | leftBehind _ _ => .sink
  | failFast _ | rejected _ => .failFast
  | closed => .closed
  | tooLarge _ _ => .tooLarge
  | misconfigured _ => .misconfigured
  | other _ => .other

/-- The delivery went wrong. -/
def isSinkFailure (e : Error) : Bool := e.kind = .sink || e.kind = .failFast

/-- The writer does not retry. -/
def isFailFast (e : Error) : Bool := e.kind = .failFast

/-- The entries in question may be delivered later. -/
def isRetryable : Error → Bool
  | requestFailed d => d.verdict = .retryable
  | exhausted _ => true
  | _ => false

/-- The fault behind an error. -/
def cause? : Error → Option Fault
  | requestFailed d | failFast d => some d.cause
  | _ => none

/-- What a writer that does not retry says first. -/
def failFastMessage : String :=
  "Encountered an exception while persisting records, not retrying due to fail_on_error being set"

/-- What went wrong, without the kind of the error. -/
def detail : Error → String
  | requestFailed d => d.message
  | exhausted n => s!"retries exhausted with {n} entries still undelivered"
  | aborted reason => s!"writer was aborted by an earlier failure: {reason}"
  | leftBehind n reason =>
    s!"closing with {n} undelivered entries after an earlier failure: {reason}"
  | failFast d => s!"{failFastMessage}: {d.message}"
  | rejected n => s!"{failFastMessage}: {n} entries were rejected by the service"
  | closed => "Writer is closed, no new batches can be submitted"
  | tooLarge size limit =>
    s!"Record of {size} bytes exceeds the maximum record size of {limit} bytes"
  | misconfigured m => m.message
  | other text => text

/-- The text of an error. -/
def message (e : Error) : String :=
  match e.kind with
  | .sink =>
    if e.isRetryable then s!"Sink failure (retryable) - {e.detail}"
    else s!"Sink failure (not retryable) - {e.detail}"
  | .failFast => s!"Fail-fast sink failure (not retryable) - {e.detail}"
  | .misconfigured => s!"Invalid configuration: {e.detail}"
  | .closed | .tooLarge | .other => e.detail

end Error

end Outbox
