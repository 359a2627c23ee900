import Outbox.Decimal.Layout

/-!
# Settings

How a writer cuts and retries its batches (`WriterSettings`, `RetrySettings`).
Settings that make no sense together are found by `validate`, which gives the
first `Misconfiguration` in a fixed order.
-/

namespace Outbox

/-- What is wrong with some settings. -/
inductive Misconfiguration where
  | jitterOutOfRange (jitter : Float)
  | factorTooSmall (factor : Float)
  | intervalsReversed
  | noBatch
  | bufferBelowBatch (buffered batch : Nat)
  | recordAboveBatch (record batch : Nat)
  /-- Two places disagree on whether errors are final. -/
  | policyMismatch (settings writer : Bool)
  | noRegion
  | noQueue
  | noQueueName
  /-- A batch larger than the service takes. -/
  | batchAboveService (most batch : Nat)
  /-- Anything else, in words. -/
  | stated (text : String)

/-- The text of what is wrong. -/
def Misconfiguration.message : Misconfiguration → String
  | .jitterOutOfRange x =>
    s!"retry_jitter must be between 0.0 and 1.0, got {Decimal.plain.write x}"
  | .factorTooSmall x => s!"retry_factor must be at least 1.0, got {Decimal.plain.write x}"
  | .intervalsReversed =>
    "initial_retry_interval_in_ms cannot exceed max_retry_interval_in_ms"
  | .noBatch => "max_batch_size must be greater than 0"
  | .bufferBelowBatch buffered batch =>
    s!"max_buffered_requests ({buffered}) must be at least max_batch_size ({batch})"
  | .recordAboveBatch record batch =>
    s!"max_record_size_in_bytes ({record}) cannot exceed max_batch_size_in_bytes ({batch})"
  | .policyMismatch settings writer =>
    s!"fail_on_error is {settings} in the configuration but {writer} on the batch writer"
  | .noRegion => "region is required"
  | .noQueue => "either queue_url or queue_name is required"
  | .noQueueName => "queue_name is required"
  | .batchAboveService most batch =>
    s!"max_batch_size must be at most {most} for SQS, got {batch}"
  | .stated text => text

/-- The pauses between attempts to deliver entries. -/
structure RetrySettings where
  /-- The number of pauses without progress after which to give up. -/
  maxAttempts : UInt16 := 65535
  /-- The first pause, in milliseconds. -/
  initialInterval : UInt32 := 100
  /-- The longest pause, in milliseconds. -/
  maxInterval : UInt32 := 30000
  /-- The factor between one pause and the next. -/
  factor : Float := 2.0
  /-- How much of a pause is left to chance, between 0.0 and 1.0. -/
  jitter : Float := 0.0
deriving BEq

/-- The factor may be no number at all, as only numbers below one are refused. -/
def RetrySettings.validate (s : RetrySettings) : Except Misconfiguration Unit :=
  if ¬(0.0 ≤ s.jitter ∧ s.jitter ≤ 1.0) then .error (.jitterOutOfRange s.jitter)
  else if s.factor < 1.0 then .error (.factorTooSmall s.factor)
  else if s.maxInterval < s.initialInterval then .error .intervalsReversed
  else .ok ()

/-- How a writer cuts batches, and what it does about errors. -/
structure WriterSettings where
  /-- The first error of any kind ends the work instead of being retried. -/
  failOnError : Bool := false
  /-- The most entries in one batch. -/
  maxBatchSize : Nat := 10
  /-- The number of waiting entries at which they are sent. -/
  maxBufferedRequests : Nat := 5000
  /-- The largest total size of one batch. -/
  maxBatchBytes : Nat := 256 * 1024
  /-- The largest size of one record. -/
  maxRecordBytes : Nat := 256 * 1024
  retry : RetrySettings := {}
deriving BEq

/-- A batch holds something, fits into the buffer, and takes any single record. -/
def WriterSettings.validate (s : WriterSettings) : Except Misconfiguration Unit :=
  if s.maxBatchSize = 0 then .error .noBatch
  else if s.maxBufferedRequests < s.maxBatchSize then
    .error (.bufferBelowBatch s.maxBufferedRequests s.maxBatchSize)
  else if s.maxBatchBytes < s.maxRecordBytes then
    .error (.recordAboveBatch s.maxRecordBytes s.maxBatchBytes)
  else s.retry.validate

end Outbox
