import Outbox.Json.Fields
import Outbox.Settings

/-!
# Reading settings

The fields of the settings in the order of their declaration, by the names they
have in a document. A document gives some of them, over the defaults.
-/

namespace Outbox

open Json

/-- The fields of `RetrySettings`. -/
def RetrySettings.fields : List (Json.Field RetrySettings) := [
  .of "max_retry_attempts" (Document.upTo? (UInt16.size - 1))
    fun s n => { s with maxAttempts := .ofNat n },
  .of "initial_retry_interval_in_ms" (Document.upTo? (UInt32.size - 1))
    fun s n => { s with initialInterval := .ofNat n },
  .of "max_retry_interval_in_ms" (Document.upTo? (UInt32.size - 1))
    fun s n => { s with maxInterval := .ofNat n },
  .of "retry_factor" Document.float? fun s x => { s with factor := x },
  .of "retry_jitter" Document.float? fun s x => { s with jitter := x }]

/-- The settings of a document, over the defaults. -/
def RetrySettings.ofDocument? (d : Document) : Option RetrySettings := Json.Field.read fields {} d

/-- The largest size or count that can be given. -/
def sizeLimit : Nat := UInt64.size - 1

/-- The fields of `WriterSettings`. -/
def WriterSettings.fields : List (Json.Field WriterSettings) := [
  .of "fail_on_error" Document.bool? fun s b => { s with failOnError := b },
  .of "max_batch_size" (Document.upTo? sizeLimit) fun s n => { s with maxBatchSize := n },
  .of "max_buffered_requests" (Document.upTo? sizeLimit)
    fun s n => { s with maxBufferedRequests := n },
  .of "max_batch_size_in_bytes" (Document.upTo? sizeLimit) fun s n => { s with maxBatchBytes := n },
  .of "max_record_size_in_bytes" (Document.upTo? sizeLimit)
    fun s n => { s with maxRecordBytes := n },
  .of "retry" RetrySettings.ofDocument? fun s r => { s with retry := r }]

/-- The settings of a document, over the defaults. -/
def WriterSettings.ofDocument? (d : Document) : Option WriterSettings := Json.Field.read fields {} d

end Outbox
