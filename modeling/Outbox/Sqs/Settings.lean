import Outbox.Settings.Reader
import Outbox.Sqs.Error

/-!
# Settings of a queue

A queue is addressed by its URL, or by its name and possibly the account it
belongs to, in which case the URL is looked up (see `Outbox.Sqs.Binding`).
-/

namespace Outbox.Sqs

open Json

/-- The region unless another one is given. -/
def defaultRegion : String := "us-west-2"

/-- The most messages the service takes in one request. -/
def batchLimit : Nat := 10

/-- How a queue is reached, and the settings of its writer. -/
structure Settings where
  region : String := defaultRegion
  queueUrl : Option String := none
  queueName : Option String := none
  /-- The account the queue belongs to. -/
  queueOwner : Option String := none
  /-- Where to reach the service instead of its own address. -/
  endpointUrl : Option String := none
  writer : WriterSettings := {}
deriving BEq

namespace Settings

/-- The fields of the settings. -/
def fields : List (Json.Field Settings) := [
  .of "region" Document.text? fun s r => { s with region := r },
  .of "queue_url" Document.optionalText? fun s u => { s with queueUrl := u },
  .of "queue_name" Document.optionalText? fun s n => { s with queueName := n },
  .of "queue_owner_aws_account_id" Document.optionalText? fun s o => { s with queueOwner := o },
  .of "endpoint_url" Document.optionalText? fun s u => { s with endpointUrl := u },
  .of "writer" WriterSettings.ofDocument? fun s w => { s with writer := w }]

/-- The settings of a document, over the defaults. -/
def ofDocument? (d : Document) : Option Settings := Json.Field.read fields {} d

/-- A text that is given and not empty. -/
def given? (text : Option String) : Option String := text.filter (!·.isEmpty)

/-- The region and the queue are known, and the writer's batches suit the
    service. -/
def validate (s : Settings) : Except Error Unit :=
  if s.region.isEmpty then .error (.misconfigured .noRegion)
  else if (given? s.queueUrl).isNone && (given? s.queueName).isNone then
    .error (.misconfigured .noQueue)
  else if batchLimit < s.writer.maxBatchSize then
    .error (.misconfigured (.batchAboveService batchLimit s.writer.maxBatchSize))
  else match s.writer.validate with
    | .error m => .error (.writer (.misconfigured m))
    | .ok () => .ok ()

/-- The region in which a client for the queue works. -/
def clientRegion (s : Settings) : Except Error String :=
  match s.validate with
  | .error e => .error e
  | .ok () => .ok s.region

end Settings

end Outbox.Sqs
