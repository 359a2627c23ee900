import Outbox.Proofs.Text.Integer
import Outbox.Rehearsal.Client

/-!
# Requests are sent whole or not at all

A batch goes out as one request, or nothing of it goes out (`Sqs.allOrNothing_of_send`).
It goes out exactly if the client has not been released and every entry is well-formed
(`Sqs.WellFormed`): its payload is UTF-8, and its delay, if it has a header for one, is an
integer of 32 bits. The request then conveys the entries in their order
(`Request.Conveys`), by their payloads and by three of their headers.

Otherwise the answer is about the first entry that is not well-formed (`Sqs.Offends`), its
payload before its delay. Only if there is none does it matter whether the client was
released.

Each message is put together of a draft. A builder of messages may find that a draft
lacks an id or a body (`Builder.Lawful`); no draft of an entry does
(`Message.built_eq_ofEntry`).
-/

namespace Outbox.Sqs

open Rehearsal (ScriptedQueue)

/-! ## Entries -/

/-- The delay that the headers of an entry ask for. -/
inductive Delays (e : Entry) : Option Int → Prop
  /-- There is no header for a delay. -/
  | none : e.headers.get? "DelaySeconds" = none → Delays e none
  /-- The header states an integer of 32 bits. -/
  | some {text : String} {n : Int} : e.headers.get? "DelaySeconds" = some text →
      Integer.States text.toList n → -2147483648 ≤ n → n ≤ 2147483647 → Delays e (some n)

/-- An entry can be conveyed by a message. -/
structure WellFormed (e : Entry) : Prop where
  /-- The payload is text. -/
  payload : ∃ body : String, body.toUTF8 = e.payload
  /-- The delay is a number, if there is one. -/
  delay : ∃ delay, Delays e delay

/-- The fault an entry is refused with, which tells its id and what is wrong with its
    payload, or with its delay if the payload is fine. -/
inductive Offends (e : Entry) : Fault → Prop
  /-- The payload is not text. -/
  | payload {d : Utf8.Defect} : Utf8.decode e.payload = .error d →
      Offends e {
        category := .invalidEntry
        message := s!"entry {e.id} could not be converted: {d.message}" }
  /-- The payload is text, but the delay is not a number. -/
  | delay {body text reason : String} {d : Integer.Defect} : body.toUTF8 = e.payload →
      e.headers.get? "DelaySeconds" = some text →
      Integer.read Int32.minValue.toInt Int32.maxValue.toInt text = .error d →
      reason = s!"invalid DelaySeconds {quoted text}: {d.message}" →
      Offends e {
        category := .invalidEntry
        message := s!"entry {e.id} could not be converted: {reason}" }

/-- A message conveys the entry at a position. -/
structure Message.Conveys (m : Message) (i : Nat) (e : Entry) : Prop where
  /-- It is known by the position, -/
  id : m.id = localId i
  /-- has the payload for its body, -/
  body : m.body.toUTF8 = e.payload
  /-- and has what three of the headers say. -/
  delay : Delays e m.delay
  group : m.group = e.headers.get? "MessageGroupId"
  deduplication : m.deduplication = e.headers.get? "MessageDeduplicationId"

/-- A request conveys a batch to a queue, each entry by the message at its position. -/
structure Request.Conveys (r : Request) (queue : String) (entries : List Entry) : Prop where
  queue : r.queue = queue
  messages : List.Forall₂ (fun x m => m.Conveys x.2 x.1) entries.zipIdx r.messages

/-- Two entries have the same payload, and the same texts in the headers that matter. -/
structure Alike (e e' : Entry) : Prop where
  payload : e'.payload = e.payload
  delay : e'.headers.get? "DelaySeconds" = e.headers.get? "DelaySeconds"
  group : e'.headers.get? "MessageGroupId" = e.headers.get? "MessageGroupId"
  deduplication :
    e'.headers.get? "MessageDeduplicationId" = e.headers.get? "MessageDeduplicationId"

variable {e e' : Entry} {i k : Nat} {f : Fault}

/-- Likeness goes both ways. -/
theorem Alike.symm (h : Alike e e') : Alike e' e :=
  ⟨h.payload.symm, h.delay.symm, h.group.symm, h.deduplication.symm⟩

/-- Entries that are alike have the same delay. -/
theorem Delays.alike {delay : Option Int} (h : Delays e delay) (ha : Alike e e') :
    Delays e' delay := by
  cases h with
  | none ht => exact .none (ha.delay.trans ht)
  | some ht hs hlo hhi => exact .some (ha.delay.trans ht) hs hlo hhi

/-- The body is the text whose bytes are the payload. -/
theorem bodyOf_eq_ok_iff {body : String} : bodyOf e = .ok body ↔ body.toUTF8 = e.payload := by
  rw [← Utf8.decode_eq_ok_iff, bodyOf]
  cases Utf8.decode e.payload <;> simp

/-- A delay is read when it states an integer of 32 bits. -/
theorem readDelay_eq_ok_iff {text : String} {n : Int} :
    Integer.read Int32.minValue.toInt Int32.maxValue.toInt text = .ok n ↔
      Integer.States text.toList n ∧ -2147483648 ≤ n ∧ n ≤ 2147483647 :=
  Integer.read_eq_ok_iff (by decide) (by decide)

/-- Without a header there is no delay. -/
theorem delayOf_of_none (ht : e.headers.get? delayHeader = none) : delayOf e = .ok none := by
  rw [delayOf, ht]

/-- With a header that can be read there is a delay. -/
theorem delayOf_of_read {text : String} {n : Int} (ht : e.headers.get? delayHeader = some text)
    (hr : Integer.read Int32.minValue.toInt Int32.maxValue.toInt text = .ok n) :
    delayOf e = .ok (some n) := by
  simp only [delayOf, ht, hr]

/-- A header that cannot be read is complained about, as it is written. -/
theorem delayOf_of_defect {text : String} {d : Integer.Defect}
    (ht : e.headers.get? delayHeader = some text)
    (hr : Integer.read Int32.minValue.toInt Int32.maxValue.toInt text = .error d) :
    delayOf e =
      .error (.invalidEntry e.id s!"invalid DelaySeconds {quoted text}: {d.message}") := by
  have hname : "invalid " ++ delayHeader ++ " " = "invalid DelaySeconds " := rfl
  have hreason : s!"invalid {delayHeader} {quoted text}: {d.message}" =
      s!"invalid DelaySeconds {quoted text}: {d.message}" :=
    congrArg (· ++ quoted text ++ ": " ++ d.message) hname
  simp only [delayOf, ht, hr, hreason]

/-- The delay of an entry is read as it is meant. -/
theorem delayOf_eq_ok_iff {delay : Option Int} : delayOf e = .ok delay ↔ Delays e delay := by
  constructor
  · intro h
    -- no header, one that can be read, or one with a defect
    cases ht : e.headers.get? delayHeader with
    | none =>
      obtain rfl := Except.ok.inj ((delayOf_of_none ht).symm.trans h)
      exact .none ht
    | some text =>
      cases hr : Integer.read Int32.minValue.toInt Int32.maxValue.toInt text with
      | ok n =>
        obtain rfl := Except.ok.inj ((delayOf_of_read ht hr).symm.trans h)
        obtain ⟨hs, hlo, hhi⟩ := readDelay_eq_ok_iff.1 hr
        exact .some ht hs hlo hhi
      | error d => exact absurd ((delayOf_of_defect ht hr).symm.trans h) nofun
  · intro h
    cases h with
    | none ht => exact delayOf_of_none ht
    | some ht hs hlo hhi => exact delayOf_of_read ht (readDelay_eq_ok_iff.2 ⟨hs, hlo, hhi⟩)

/-- What offends is not well-formed. -/
theorem Offends.not_wellFormed (h : Offends e f) : ¬WellFormed e := by
  rintro ⟨⟨body, hbody⟩, delay, hdelay⟩
  cases h with
  | payload hd => simp [Utf8.decode_eq_ok_iff.2 hbody] at hd
  | delay _ ht hd _ =>
    exact absurd ((delayOf_of_defect ht hd).symm.trans (delayOf_eq_ok_iff.2 hdelay)) nofun

/-- What offends is put down to the entry. -/
theorem Offends.category (h : Offends e f) : f.category = .invalidEntry := by
  cases h <;> rfl

/-! ## Messages -/

namespace Message

variable {m : Message}

/-- The message of an entry is the one that conveys it. -/
theorem ofEntry_eq_ok_iff : ofEntry i e = .ok m ↔ m.Conveys i e := by
  constructor
  · intro h
    rw [ofEntry] at h
    split at h
    · cases h
    · cases h
    · rename_i hb hd
      obtain rfl := Except.ok.inj h
      exact ⟨rfl, bodyOf_eq_ok_iff.1 hb, delayOf_eq_ok_iff.1 hd, rfl, rfl⟩
  · intro h
    obtain ⟨id, body, delay, group, deduplication⟩ := m
    obtain ⟨rfl, hbody, hdelay, rfl, rfl⟩ := h
    rw [ofEntry, bodyOf_eq_ok_iff.2 hbody, delayOf_eq_ok_iff.2 hdelay]
    rfl

/-- There is a message of an entry when it is well-formed. -/
theorem exists_ofEntry_iff (i : Nat) : (∃ m, ofEntry i e = .ok m) ↔ WellFormed e := by
  constructor
  · rintro ⟨m, h⟩
    have hm := ofEntry_eq_ok_iff.1 h
    exact ⟨⟨m.body, hm.body⟩, m.delay, hm.delay⟩
  · rintro ⟨⟨body, hbody⟩, delay, hdelay⟩
    exact ⟨⟨localId i, body, delay, _, _⟩, ofEntry_eq_ok_iff.2 ⟨rfl, hbody, hdelay, rfl, rfl⟩⟩

/-- If there is none, the fault says why. -/
theorem offends_of_ofEntry (h : ofEntry i e = .error f) : Offends e f := by
  -- the payload is looked at before the delay
  rw [ofEntry] at h
  split at h
  · rename_i hb
    obtain rfl := Except.error.inj h
    rw [bodyOf] at hb
    cases hd : Utf8.decode e.payload with
    | ok body => simp [hd] at hb
    | error d =>
      obtain rfl : Fault.invalidEntry e.id d.message = _ := by simpa [hd] using hb
      exact .payload hd
  · rename_i hb hd
    obtain rfl := Except.error.inj h
    cases ht : e.headers.get? delayHeader with
    | none => simp [delayOf_of_none ht] at hd
    | some text =>
      cases hr : Integer.read Int32.minValue.toInt Int32.maxValue.toInt text with
      | ok n => exact absurd ((delayOf_of_read ht hr).symm.trans hd) nofun
      | error d =>
        obtain rfl := Except.error.inj ((delayOf_of_defect ht hr).symm.trans hd)
        exact .delay (bodyOf_eq_ok_iff.1 hb) ht hr rfl
  · cases h

/-- A message conveys all entries alike. -/
theorem Conveys.alike (h : m.Conveys i e) (ha : Alike e e') : m.Conveys i e' where
  id := h.id
  body := h.body.trans ha.payload.symm
  delay := h.delay.alike ha
  group := h.group.trans ha.group.symm
  deduplication := h.deduplication.trans ha.deduplication.symm

/-- What conveys an entry conveys one that is alike. -/
theorem conveys_alike (ha : Alike e e') : m.Conveys i e ↔ m.Conveys i e' :=
  ⟨(·.alike ha), (·.alike ha.symm)⟩

end Message

variable {es es' : List Entry} {ms : List Message}

/-- Messages convey their entries one after the other. -/
theorem messagesFrom_cons_eq_ok_iff : messagesFrom k (e :: es) = .ok ms ↔
    ∃ m ms', m.Conveys k e ∧ messagesFrom (k + 1) es = .ok ms' ∧ ms = m :: ms' := by
  simp only [← Message.ofEntry_eq_ok_iff, messagesFrom]
  cases Message.ofEntry k e with
  | error f => simp
  | ok m =>
    cases messagesFrom (k + 1) es with
    | error f => simp [Except.map]
    | ok ms' => simp [Except.map, eq_comm]

/-- The messages of a batch convey its entries, each in its place. -/
theorem messagesFrom_eq_ok_iff : messagesFrom k es = .ok ms ↔
    List.Forall₂ (fun x m => m.Conveys x.2 x.1) (es.zipIdx k) ms := by
  induction es generalizing k ms with
  | nil => simp [messagesFrom, eq_comm]
  | cons e es ih =>
    simp only [messagesFrom_cons_eq_ok_iff, ih, List.zipIdx_cons, List.forall₂_cons_left_iff]

/-- There are messages of entries when all are well-formed. -/
theorem exists_messagesFrom_iff (k : Nat) :
    (∃ ms, messagesFrom k es = .ok ms) ↔ ∀ e ∈ es, WellFormed e := by
  induction es generalizing k with
  | nil => simp [messagesFrom]
  | cons e es ih =>
    rw [List.forall_mem_cons, ← Message.exists_ofEntry_iff k, ← ih (k + 1)]
    simp only [messagesFrom_cons_eq_ok_iff, Message.ofEntry_eq_ok_iff]
    constructor
    · rintro ⟨_, m, ms, hm, hms, -⟩
      exact ⟨⟨m, hm⟩, ms, hms⟩
    · rintro ⟨⟨m, hm⟩, ms, hms⟩
      exact ⟨_, m, ms, hm, hms, rfl⟩

/-- Without messages, the first entry that is not well-formed is to blame. -/
theorem offends_of_messagesFrom (h : messagesFrom k es = .error f) :
    ∃ good e rest, es = good ++ e :: rest ∧ (∀ x ∈ good, WellFormed x) ∧ Offends e f := by
  induction es generalizing k with
  | nil => cases h
  | cons e es ih =>
    rw [messagesFrom] at h
    -- either this entry is the first that offends, or one behind it
    cases hm : Message.ofEntry k e with
    | error f' =>
      obtain rfl : f' = f := by simpa [hm] using h
      exact ⟨[], e, es, rfl, nofun, Message.offends_of_ofEntry hm⟩
    | ok m =>
      cases hms : messagesFrom (k + 1) es with
      | ok ms => simp [hm, hms, Except.map] at h
      | error f' =>
        obtain rfl : f' = f := by simpa [hm, hms, Except.map] using h
        obtain ⟨good, e', rest, rfl, hgood, he'⟩ := ih hms
        have he : WellFormed e := (Message.exists_ofEntry_iff k).1 ⟨m, hm⟩
        exact ⟨e :: good, e', rest, rfl, List.forall_mem_cons.2 ⟨he, hgood⟩, he'⟩

/-- Entries that are alike have the same messages. -/
theorem messagesFrom_alike (h : List.Forall₂ Alike es es') :
    messagesFrom k es = .ok ms ↔ messagesFrom k es' = .ok ms := by
  induction h generalizing k ms with
  | nil => exact .rfl
  | cons ha _ ih =>
    simp only [messagesFrom_cons_eq_ok_iff, Message.conveys_alike ha, ih]

/-! ## Builders -/

/-- What is known of a message before it is put together. -/
structure Draft where
  id : Option String := none
  body : Option String := none
  delay : Option Int := none
  group : Option String := none
  deduplication : Option String := none

/-- Puts messages together, or says what is missing. -/
abbrev Builder := Draft → Except String Message

/-- Nothing but the id and the body can be missing. -/
def Builder.Lawful (b : Builder) : Prop :=
  ∀ (d : Draft) (id body : String), d.id = some id → d.body = some body →
    b d = .ok ⟨id, body, d.delay, d.group, d.deduplication⟩

/-- The draft for the entry at a position. -/
def Draft.ofEntry (i : Nat) (e : Entry) : Except Fault Draft :=
  match bodyOf e with
  | .error f => .error f
  | .ok body =>
    let draft : Draft := { id := some (localId i), body := some body }
    match delayOf e with
    | .error f => .error f
    | .ok delay => .ok { draft with
        delay
        group := e.headers.get? groupHeader
        deduplication := e.headers.get? deduplicationHeader }

/-- The message of the entry at a position, put together by a builder. What the builder
    finds to be missing is put down to the entry. -/
def Message.built (b : Builder) (i : Nat) (e : Entry) : Except Fault Message :=
  match Draft.ofEntry i e with
  | .error f => .error f
  | .ok d =>
    match b d with
    | .ok m => .ok m
    | .error what => .error (.invalidEntry e.id what)

/-- The draft for an entry has all that the message needs, so that nothing is missing. -/
theorem Draft.build_ofEntry {b : Builder} (hb : b.Lawful) {d : Draft} (h : ofEntry i e = .ok d) :
    ∃ m, b d = .ok m ∧ Message.ofEntry i e = .ok m := by
  rw [ofEntry] at h
  split at h
  next => cases h
  next body hbody =>
    simp only at h
    split at h
    next => cases h
    next delay hdelay =>
      obtain rfl := Except.ok.inj h
      exact ⟨_, hb _ _ _ rfl rfl, by rw [Message.ofEntry, hbody, hdelay]⟩

/-- A builder finds nothing missing in the draft of an entry. -/
theorem Message.built_eq_ofEntry {b : Builder} (hb : b.Lawful) (i : Nat) (e : Entry) :
    built b i e = ofEntry i e := by
  rw [built]
  cases hd : Draft.ofEntry i e with
  | ok d =>
    obtain ⟨m, hm, he⟩ := Draft.build_ofEntry hb hd
    simp only [hm, he]
  | error f =>
    rw [Draft.ofEntry] at hd
    rw [ofEntry]
    cases hbody : bodyOf e with
    | error g => simp_all
    | ok body =>
      cases hdelay : delayOf e <;> simp_all

/-! ## Batches -/

variable {c : ScriptedQueue} {queue : String} {entries : List Entry}

/-- A batch goes out as one request, or nothing of it goes out. -/
structure AllOrNothing (b : Builder) (c : ScriptedQueue) (queue : String)
    (entries : List Entry) : Prop where
  /-- A request is sent exactly if the client is not released and all entries are
      well-formed. -/
  sends_iff : (c.send queue entries).2.sent ≠ c.sent ↔
    c.released = false ∧ ∀ e ∈ entries, WellFormed e
  /-- It is one request, which conveys the batch. -/
  conveys : c.released = false → (∀ e ∈ entries, WellFormed e) →
    ∃ r : Request, (c.send queue entries).2.sent = r :: c.sent ∧ r.Conveys queue entries
  /-- Nothing else of an entry matters to it. -/
  ignores : ∀ entries', List.Forall₂ Alike entries entries' →
    (c.send queue entries').2 = (c.send queue entries).2
  /-- Otherwise nothing happens, and the answer is about the first entry that is not
      well-formed, whether or not the client is released. -/
  refused : (¬∀ e ∈ entries, WellFormed e) → ∃ good e rest f, entries = good ++ e :: rest ∧
    (∀ x ∈ good, WellFormed x) ∧ ¬WellFormed e ∧ Offends e f ∧
    c.send queue entries = (.error f, c)
  /-- A client that is released says so exactly if all entries are well-formed. -/
  released : c.released = true → (c.send queue entries = (.error {
      category := .resourceNotFound
      message := "SQS client has already been released" }, c) ↔
    ∀ e ∈ entries, WellFormed e)
  /-- Each message is the one that is built, and whatever keeps the builder from building
      one does not occur. -/
  built : ∀ i, ∀ e ∈ entries, Message.built b i e = Message.ofEntry i e ∧
    ∀ d, Draft.ofEntry i e = .ok d → ∃ m, b d = .ok m

/-- Without messages nothing is sent, whether the client was released or not. -/
theorem send_of_error (h : messages entries = .error f) :
    c.send queue entries = (.error f, c) := by
  rw [ScriptedQueue.send, request, h]

/-- Nothing is sent by a client that was released. -/
theorem send_of_released {ms : List Message} (h : messages entries = .ok ms)
    (hc : c.released = true) : c.send queue entries = (.error releasedFault, c) := by
  rw [ScriptedQueue.send, request, h, hc]
  rfl

/-- Messages are sent in one request. -/
theorem sent_of_ok {ms : List Message} (h : messages entries = .ok ms)
    (hc : c.released = false) : (c.send queue entries).2 =
      { c with script := c.script.next.2, sent := ⟨queue, ms⟩ :: c.sent } := by
  rw [ScriptedQueue.send, request, h, hc]
  rfl

/-- Something is sent when the client is not released and all entries are well-formed. -/
theorem sends_iff : (c.send queue entries).2.sent ≠ c.sent ↔
    c.released = false ∧ ∀ e ∈ entries, WellFormed e := by
  rw [← exists_messagesFrom_iff 0]
  cases hm : messages entries with
  | error f =>
    rw [messages] at hm
    simp [send_of_error hm, hm]
  | ok ms =>
    cases hc : c.released with
    | true => simp [send_of_released hm hc]
    | false =>
      rw [sent_of_ok hm hc]
      exact iff_of_true (List.cons_ne_self _ _) ⟨rfl, ms, hm⟩

/-- Batches of entries that are alike send the same. -/
theorem send_alike {entries' : List Entry} (h : List.Forall₂ Alike entries entries') :
    (c.send queue entries').2 = (c.send queue entries).2 := by
  have hiff (ms : List Message) : messages entries = .ok ms ↔ messages entries' = .ok ms :=
    messagesFrom_alike h
  cases hm : messages entries with
  | ok ms =>
    have hm' := (hiff ms).1 hm
    cases hc : c.released with
    | true => rw [send_of_released hm hc, send_of_released hm' hc]
    | false => rw [sent_of_ok hm hc, sent_of_ok hm' hc]
  | error f =>
    cases hm' : messages entries' with
    | ok ms => simp [(hiff ms).2 hm'] at hm
    | error f' => rw [send_of_error hm, send_of_error hm']

/-- What an entry is refused for is not that the client was released. -/
theorem send_eq_released_iff (hc : c.released = true) :
    c.send queue entries = (.error releasedFault, c) ↔ ∀ e ∈ entries, WellFormed e := by
  rw [← exists_messagesFrom_iff 0]
  cases hm : messages entries with
  | ok ms => exact iff_of_true (send_of_released hm hc) ⟨ms, hm⟩
  | error f =>
    refine iff_of_false (fun h => ?_) (fun ⟨ms, hms⟩ => absurd (hms.symm.trans hm) nofun)
    obtain ⟨_, e, _, -, -, he⟩ := offends_of_messagesFrom hm
    have hf : f = releasedFault := by
      rw [send_of_error hm] at h
      simpa using h
    exact absurd (hf ▸ he.category) (by decide)

/-- For every batch, it is all or nothing. -/
theorem allOrNothing_of_send {b : Builder} (hb : b.Lawful) (c : ScriptedQueue) (queue : String)
    (entries : List Entry) : AllOrNothing b c queue entries where
  sends_iff := sends_iff
  conveys hc hwf := by
    obtain ⟨ms, hms⟩ := (exists_messagesFrom_iff 0).2 hwf
    exact ⟨⟨queue, ms⟩, by rw [sent_of_ok hms hc], rfl, messagesFrom_eq_ok_iff.1 hms⟩
  ignores _ := send_alike
  refused h := by
    cases hm : messages entries with
    | ok ms => exact absurd ((exists_messagesFrom_iff 0).1 ⟨ms, hm⟩) h
    | error f =>
      obtain ⟨good, e, rest, hsplit, hgood, he⟩ := offends_of_messagesFrom hm
      exact ⟨good, e, rest, f, hsplit, hgood, he.not_wellFormed, he, send_of_error hm⟩
  released := send_eq_released_iff
  built i e _ := ⟨Message.built_eq_ofEntry hb i e, fun d hd =>
    (Draft.build_ofEntry hb hd).imp fun _ h => h.1⟩

/-- The builder that builds whatever can be built. -/
def Builder.strict : Builder := fun d =>
  match d.id, d.body with
  | some id, some body => .ok ⟨id, body, d.delay, d.group, d.deduplication⟩
  | none, _ => .error "id"
  | _, none => .error "body"

/-- A builder that asks for id and body is lawful. -/
theorem Builder.lawful_strict : strict.Lawful := by
  rintro ⟨_, _, _, _, _⟩ id body rfl rfl
  rfl

/-- Of four batches with delays that are written in unusual ways, one is sent. The others
    have a delay that is too large, one that is not a number, and a payload that is not
    text besides. -/
theorem allOrNothing_of_send_four :
    let entry (payload : ByteArray) (text : String) : Entry :=
      { id := text, payload, headers := { pairs := [("DelaySeconds", text)] } }
    let fault (message : String) : Fault := { category := .invalidEntry, message }
    let batch := [entry .empty "+05", entry .empty "-0", entry .empty "2147483647"]
    let large := batch ++ [entry .empty "2147483648"]
    let blank := entry .empty " 5" :: large
    let broken := batch ++ [entry ⟨#[0xff]⟩ "ten"]
    Builder.strict.Lawful ∧
      (messages batch).map (·.map (·.delay)) = .ok [some 5, some 0, some 2147483647] ∧
      messages large = .error (fault ("entry 2147483648 could not be converted: " ++
        "invalid DelaySeconds \"2147483648\": number too large to fit in target type")) ∧
      messages blank = .error (fault ("entry  5 could not be converted: " ++
        "invalid DelaySeconds \" 5\": invalid digit found in string")) ∧
      messages broken = .error (fault ("entry ten could not be converted: " ++
        "invalid utf-8 sequence of 1 bytes from index 0")) ∧
      ∀ es ∈ [batch, large, blank, broken], ∀ released,
        AllOrNothing Builder.strict { released } "queue" es :=
  ⟨Builder.lawful_strict, by decide +kernel, by decide +kernel, by decide +kernel,
    by decide +kernel, fun _ _ _ => allOrNothing_of_send Builder.lawful_strict _ _ _⟩

end Outbox.Sqs
