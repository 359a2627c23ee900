import Outbox.Proofs.Json.Bytes
import Outbox.Proofs.Sqs.AllOrNothing

/-!
# Conversion into text

The body of a message is text, so a converter for a queue marks the records whose bytes
are not (`Sqs.convertText`). The same is asked once more when a batch goes out. What the
converter lets through is then never refused for its payload, whatever becomes of its
delay (`Sqs.Taken.built_iff`).

A converter of texts or of JSON values does not need this: a text has the bytes of its
characters, and what is written as JSON is text whatever the value
(`Json.Value.written_iff`). Both converters make the same entries of such records
(`Sqs.agrees_of_writesJson`).
-/

namespace Outbox.Sqs

variable {α : Type} {serialize : Serializer α} {headers : Headers} {id : String} {record : α}
  {payload : ByteArray} {e : Entry}

/-- The bytes are those of some characters one after the other. -/
def IsText (bytes : ByteArray) : Prop := ∃ cs : List Char, bytes = cs.utf8Encode

/-- The bytes of a text are text. -/
theorem isText_toUTF8 (s : String) : IsText s.toUTF8 := ⟨s.toList, String.utf8Encode_toList.symm⟩

/-- Bytes are text when they can be decoded. -/
theorem isText_iff : IsText payload ↔ ∃ text, Utf8.decode payload = .ok text := by
  simp only [Utf8.decode_eq_ok_iff]
  constructor
  · rintro ⟨cs, rfl⟩
    exact ⟨String.ofList cs, String.toByteArray_ofList⟩
  · rintro ⟨text, rfl⟩
    exact isText_toUTF8 text

/-! ## What becomes of a record -/

/-- The entry of a record: it has the payload and the headers if the payload is text, and
    nothing but a reason why it has none otherwise. -/
inductive Converted (serialize : Serializer α) (headers : Headers) (id : String) (record : α) :
    Entry → Prop
  /-- The record is written, and is text. -/
  | valid {payload : ByteArray} : serialize record = .ok payload → IsText payload →
      Converted serialize headers id record ⟨id, payload, headers, none⟩
  /-- The record cannot be written. -/
  | unserializable {reason : String} : serialize record = .error reason →
      Converted serialize headers id record ⟨id, .empty, {}, some reason⟩
  /-- The record is written, but is not text. -/
  | notText {payload : ByteArray} : serialize record = .ok payload → ¬IsText payload →
      Converted serialize headers id record
        ⟨id, .empty, {}, some "SQS message bodies must be valid UTF-8"⟩

/-- What cannot be serialized is marked. -/
theorem convertText_of_error {reason : String} (h : serialize record = .error reason) :
    convertText serialize headers id record = .unconvertible id reason := by
  simp [convertText, convert, h, Entry.unconvertible, Entry.isValid]

/-- What is serialized is looked at as text. -/
theorem convertText_of_ok (h : serialize record = .ok payload) :
    convertText serialize headers id record =
      if (Utf8.decode payload).toOption.isNone then
        .unconvertible id "SQS message bodies must be valid UTF-8"
      else ⟨id, payload, headers, none⟩ := by
  simp [convertText, convert, h, Entry.isValid]

/-- Text is let through. -/
theorem convertText_of_isText (h : serialize record = .ok payload) (ht : IsText payload) :
    convertText serialize headers id record = ⟨id, payload, headers, none⟩ := by
  obtain ⟨text, htext⟩ := isText_iff.1 ht
  rw [convertText_of_ok h, htext]
  rfl

/-- What is not text is marked. -/
theorem convertText_of_not_isText (h : serialize record = .ok payload) (ht : ¬IsText payload) :
    convertText serialize headers id record =
      .unconvertible id "SQS message bodies must be valid UTF-8" := by
  rw [convertText_of_ok h]
  cases hd : Utf8.decode payload with
  | ok text => exact absurd (isText_iff.2 ⟨text, hd⟩) ht
  | error d => rfl

/-- What becomes of a record is one of the ways there are. -/
theorem converted_convertText (serialize : Serializer α) (headers : Headers) (id : String)
    (record : α) :
    Converted serialize headers id record (convertText serialize headers id record) := by
  cases h : serialize record with
  | error reason =>
    rw [convertText_of_error h]
    exact .unserializable h
  | ok payload =>
    by_cases ht : IsText payload
    · rw [convertText_of_isText h ht]
      exact .valid h ht
    · rw [convertText_of_not_isText h ht]
      exact .notText h ht

/-- A record is marked when it cannot be serialized, or not into text. -/
theorem Converted.isValid_eq_false_iff (h : Converted serialize headers id record e) :
    e.isValid = false ↔ (∃ reason, serialize record = .error reason) ∨
      ∃ payload, serialize record = .ok payload ∧ ¬IsText payload := by
  cases h with
  | valid hs ht => simp [hs, ht, Entry.isValid]
  | unserializable hs => exact iff_of_true rfl (.inl ⟨_, hs⟩)
  | notText hs ht => exact iff_of_true rfl (.inr ⟨_, hs, ht⟩)

/-! ## What the service takes -/

/-- Nothing but the delay of an entry can keep it from being put into a request, and the
    message then has its payload. -/
structure Taken (e : Entry) : Prop where
  /-- A message is built if the delay is one. -/
  built_iff : ∀ b : Builder, b.Lawful → ∀ i,
    (∃ m, Message.built b i e = .ok m) ↔ ∃ delay, Delays e delay
  /-- Its body has the bytes of the payload. -/
  body : ∀ b : Builder, b.Lawful → ∀ i m, Message.built b i e = .ok m → m.body.toUTF8 = e.payload

/-- Text is taken, but for its delay. -/
theorem taken_of_isText (h : IsText e.payload) : Taken e where
  built_iff b hb i := by
    obtain ⟨text, htext⟩ := isText_iff.1 h
    rw [Message.built_eq_ofEntry hb, Message.exists_ofEntry_iff]
    exact ⟨fun hw => hw.delay, fun hd => ⟨⟨text, Utf8.decode_eq_ok_iff.1 htext⟩, hd⟩⟩
  body b hb i m hm := by
    rw [Message.built_eq_ofEntry hb] at hm
    exact (Message.ofEntry_eq_ok_iff.1 hm).body

/-- What was let through is taken, but for its delay. -/
theorem Converted.taken (h : Converted serialize headers id record e) (hv : e.isValid = true) :
    Taken e := by
  cases h with
  | valid _ ht => exact taken_of_isText ht
  | unserializable | notText => cases hv

/-! ## Where both converters agree -/

/-- The payload of a record is always text, so that asking makes no difference. -/
structure Agrees (serialize : Serializer α) : Prop where
  /-- The payload is text, -/
  isText : ∀ record payload, serialize record = .ok payload → IsText payload
  /-- and both make the same entry of it. -/
  convert_eq : ∀ headers id record,
    convertText serialize headers id record = convert serialize headers id record

/-- Converters agree on a serializer that only makes text. -/
theorem agrees_of_isText (h : ∀ record payload, serialize record = .ok payload → IsText payload) :
    Agrees serialize where
  isText := h
  convert_eq headers id record := by
    cases hs : serialize record with
    | error reason => rw [convertText_of_error hs, convert, hs]
    | ok payload => rw [convertText_of_isText hs (h record payload hs), convert, hs]

/-- Converters agree on texts. -/
theorem agrees_textSerializer : Agrees textSerializer := by
  refine agrees_of_isText fun s payload h => ?_
  obtain rfl := Except.ok.inj h
  exact isText_toUTF8 s

/-- A serializer writes JSON by the rules, as far as there is anything to write. -/
def WritesJson (serialize : Serializer Json.Value) : Prop :=
  ∀ v payload, serialize v = .ok payload ↔ ∃ out, v.Written out ∧ payload = out.toByteArray

/-- The serializer of JSON writes by the rules. -/
theorem writesJson_jsonSerializer : WritesJson jsonSerializer := by
  intro v payload
  simp only [Json.Value.written_iff, jsonSerializer]
  cases v.text? with
  | error e => simp
  | ok t => simp [Json.toByteArray_bytesOf, eq_comm]

/-- Converters agree on whatever is written by the rules. -/
theorem agrees_of_writesJson {serialize : Serializer Json.Value} (h : WritesJson serialize) :
    Agrees serialize := by
  refine agrees_of_isText fun v payload hs => ?_
  obtain ⟨out, hout, rfl⟩ := (h v payload).1 hs
  obtain ⟨t, -, rfl⟩ := Json.Value.written_iff.1 hout
  rw [Json.toByteArray_bytesOf]
  exact isText_toUTF8 t

/-- Texts and JSON values are converted as if nothing was asked. Any record becomes an entry
    that is taken, or one that says why it has no payload: it could not be serialized, or
    its bytes are not text. -/
theorem converts :
    Agrees textSerializer ∧ WritesJson jsonSerializer ∧ Agrees jsonSerializer ∧
      (∀ serialize, WritesJson serialize → Agrees serialize) ∧
      ∀ (α : Type) (serialize : Serializer α) (headers : Headers) (id : String) (record : α),
        let e := convertText serialize headers id record
        Converted serialize headers id record e ∧ (e.isValid = true → Taken e) ∧
          (e.isValid = false ↔ (∃ reason, serialize record = .error reason) ∨
            ∃ payload, serialize record = .ok payload ∧ ¬IsText payload) := by
  refine ⟨agrees_textSerializer, writesJson_jsonSerializer,
    agrees_of_writesJson writesJson_jsonSerializer, fun _ => agrees_of_writesJson, ?_⟩
  intro α serialize headers id record e
  have h := converted_convertText serialize headers id record
  exact ⟨h, h.taken, h.isValid_eq_false_iff⟩

end Outbox.Sqs
