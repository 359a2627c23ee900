import Outbox.Backoff
import Outbox.Buffer
import Outbox.Conversion
import Outbox.Course
import Outbox.Decimal.Layout
import Outbox.Decimal.Shortest
import Outbox.Dispatch.Closing
import Outbox.Dispatch.Gate
import Outbox.Dispatch.Reply
import Outbox.Dispatch.Submission
import Outbox.Dispatch.Traffic
import Outbox.Entry
import Outbox.Error
import Outbox.Fault
import Outbox.Fault.Rulebook
import Outbox.Json.Document
import Outbox.Json.Fields
import Outbox.Json.Numeral
import Outbox.Json.Token
import Outbox.Json.Value
import Outbox.Proofs.Backoff
import Outbox.Proofs.Backoff.Iterators
import Outbox.Proofs.Backoff.Pauses
import Outbox.Proofs.Course.Attempts
import Outbox.Proofs.Course.Conservation
import Outbox.Proofs.Course.Counters
import Outbox.Proofs.Course.FailFast
import Outbox.Proofs.Course.Fate
import Outbox.Proofs.Course.Fewest
import Outbox.Proofs.Course.Flushing
import Outbox.Proofs.Course.Joint
import Outbox.Proofs.Course.Limits
import Outbox.Proofs.Course.Order
import Outbox.Proofs.Course.Residual
import Outbox.Proofs.Course.Results
import Outbox.Proofs.Course.Retryability
import Outbox.Proofs.Course.Screening
import Outbox.Proofs.Course.Shared
import Outbox.Proofs.Course.Shutdown
import Outbox.Proofs.Course.Steps
import Outbox.Proofs.Cut
import Outbox.Proofs.Dispatch.Abandonment
import Outbox.Proofs.Dispatch.Contract
import Outbox.Proofs.Dispatch.Orderly
import Outbox.Proofs.Dispatch.Passages
import Outbox.Proofs.Dispatch.Provenance
import Outbox.Proofs.Dispatch.Release
import Outbox.Proofs.Dispatch.Reply
import Outbox.Proofs.Dispatch.Reports
import Outbox.Proofs.Dispatch.Steps
import Outbox.Proofs.Dispatch.Unconvertible
import Outbox.Proofs.Dispatch.Wakeups
import Outbox.Proofs.Double.Arithmetic
import Outbox.Proofs.Double.Numbers
import Outbox.Proofs.Double.Overflow
import Outbox.Proofs.Double.Rounding
import Outbox.Proofs.Json.Bytes
import Outbox.Proofs.Json.Documents
import Outbox.Proofs.Json.Doubles
import Outbox.Proofs.Json.Fields
import Outbox.Proofs.Json.Numerals
import Outbox.Proofs.Json.Schema
import Outbox.Proofs.Json.Tokens
import Outbox.Proofs.Json.Values
import Outbox.Proofs.Rehearsal.Beside
import Outbox.Proofs.Rehearsal.Buffers
import Outbox.Proofs.Rehearsal.Closing
import Outbox.Proofs.Rehearsal.Following
import Outbox.Proofs.Rehearsal.Stage
import Outbox.Proofs.Rulebook
import Outbox.Proofs.Settings.Partial
import Outbox.Proofs.Sizes
import Outbox.Proofs.Sqs.AllOrNothing
import Outbox.Proofs.Sqs.Binding
import Outbox.Proofs.Sqs.Conversion
import Outbox.Proofs.Sqs.Correlation
import Outbox.Proofs.Sqs.Verdicts
import Outbox.Proofs.Text.Integer
import Outbox.Queue
import Outbox.Rehearsal.Buffers
import Outbox.Rehearsal.Calls
import Outbox.Rehearsal.Client
import Outbox.Rehearsal.Stage
import Outbox.Settings
import Outbox.Settings.Reader
import Outbox.Sizes
import Outbox.Sqs.Binding
import Outbox.Sqs.CallError
import Outbox.Sqs.Error
import Outbox.Sqs.Request
import Outbox.Sqs.Settings
import Outbox.Tally
import Outbox.Text.Combining
import Outbox.Text.Digit
import Outbox.Text.Integer
import Outbox.Text.Located
import Outbox.Text.Quoted
import Outbox.Text.Ranges
import Outbox.Text.Unprintable
import Outbox.Text.Utf8
