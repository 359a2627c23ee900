import Outbox.Buffer
import Outbox.Sqs.Request
import Outbox.Sqs.Settings

/-!
# Writers for a queue

A writer is *bound* to a queue by its URL, which is looked up by the queue's
name unless it is given (`Settings.bind`). The look-up is the only request made
before there is a writer, and it is made for settings that are valid only.
-/

namespace Outbox.Sqs

/-- A request for the URL of a queue. -/
structure Lookup where
  name : String
  owner : Option String
deriving DecidableEq, Repr

/-- What the service says, possibly nothing. -/
abbrev LookupAnswer := Except LookupError (Option String)

/-- A writer's queue, and its policy. -/
structure Binding where
  queue : String
  policy : Policy

namespace Settings

/-- The look-up that has to be made, if one has: neither a URL nor a name is an
    error. -/
def lookup? (s : Settings) : Except Error (Option Lookup) :=
  match given? s.queueUrl, s.queueName with
  | some _, _ => .ok none
  | none, some name => .ok (some ⟨name, s.queueOwner⟩)
  | none, none => .error (.misconfigured .noQueueName)

/-- The URL that comes of a look-up. -/
def foundUrl : LookupAnswer → Except Error String
  | .error e => .error (.lookup e)
  | .ok none => .error (.other "Queue URL not found")
  | .ok (some url) => .ok url

/-- The look-up made for the settings, if any, and the queue's URL, given the
    answer to a look-up. -/
def resolve (s : Settings) (a : LookupAnswer) : Option Lookup × Except Error String :=
  match s.lookup? with
  | .error e => (none, .error e)
  -- no look-up is needed as there is a URL
  | .ok none => (none, .ok (s.queueUrl.getD ""))
  | .ok (some lookup) => (some lookup, foundUrl a)

/-- The look-up made for the settings, if any, and the writer's binding. -/
def bind (s : Settings) (rules : Rulebook) (a : LookupAnswer) :
    Option Lookup × Except Error Binding :=
  match s.validate with
  | .error e => (none, .error e)
  | .ok () =>
    let (lookup, url) := s.resolve a
    (lookup, url.map fun queue => ⟨queue, { failOnError := s.writer.failOnError, rules }⟩)

/-- The same with a buffer in front of the writer. -/
def bindBuffered (s : Settings) (rules : Rulebook) (a : LookupAnswer) :
    Option Lookup × Except Error (Binding × Buffer) :=
  let (lookup, binding) := s.bind rules a
  (lookup, do
    let binding ← binding
    match Buffer.create s.writer binding.policy.failOnError with
    | .error e => .error (.writer e)
    | .ok buffer => .ok (binding, buffer))

end Settings

end Outbox.Sqs
