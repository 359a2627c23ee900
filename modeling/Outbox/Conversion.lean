import Outbox.Entry
import Outbox.Json.Value

/-!
# Conversion

A record becomes an entry under a fresh id (`convert`): its payload is what a
`Serializer` makes of it, its headers are those of its context. Conversion never
fails. A record that cannot be serialized becomes an entry that says so, which
is found when it is about to be sent.
-/

namespace Outbox

/-- Turns a record into its payload, or tells why it cannot. -/
abbrev Serializer (α : Type) := α → Except String ByteArray

/-- Texts as they are. -/
def textSerializer : Serializer String := fun s => .ok s.toUTF8

/-- Values as JSON. -/
def jsonSerializer : Serializer Json.Value := fun v =>
  match v.text? with
  | .ok text => .ok text.toUTF8
  | .error e => .error s!"Failed to serialize record as JSON: {e.message}"

/-- A way to turn records into entries, given the context's headers and a fresh id. -/
abbrev Converter (α : Type) := Headers → String → α → Entry

/-- The entry of a record. -/
def convert {α : Type} (serialize : Serializer α) : Converter α := fun headers id record =>
  match serialize record with
  | .ok payload => { id, payload, headers }
  | .error reason => .unconvertible id reason

end Outbox
