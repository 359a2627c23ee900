import Outbox.Proofs.Course.Limits
import Outbox.Proofs.Sqs.AllOrNothing
import Outbox.Sqs.Binding

/-!
# Writers that are bound to a queue

Settings are checked in several places on the way to a writer for a queue. They
agree, so that the first check is the one that counts (`Sqs.Settings.built_bind`): a
writer is bound if the settings are valid and there is a URL, given or looked up,
and nothing else can go wrong. In particular there always is a name to look up
(`Sqs.Settings.lookup?_eq`), and a buffer in front of the writer can always be
created (`Sqs.Settings.create_of_bind`).

The service takes ten messages in one request. The check of the settings sees to it
that no request of a buffer has more, whatever is handed back and sent again
(`Sqs.Delivery.Reached.suited`). A request has as many messages as the batch has
entries, and every batch is within the limits of the settings (see
`Outbox.Proofs.Course.Limits`).
-/

namespace Outbox.Sqs

open Rehearsal (ScriptedQueue)

/-! ## Bindings -/

namespace Settings

variable {s : Settings} {rules : Rulebook} {a : LookupAnswer} {b : Binding}

/-- The queue is given by its URL. -/
def HasUrl (s : Settings) : Prop := ∃ url, s.queueUrl = some url ∧ url ≠ ""

/-- A text is given when it is not empty. -/
theorem given?_eq_some_iff {text : Option String} {t : String} :
    given? text = some t ↔ text = some t ∧ t ≠ "" := by
  simp [given?, Option.filter_eq_some_iff]

/-- No URL is given when there is none that is not empty. -/
theorem given?_eq_none_iff : given? s.queueUrl = none ↔ ¬s.HasUrl := by
  simp [given?, HasUrl, Option.filter_eq_none_iff]

/-- What is known of valid settings. -/
theorem of_validate (h : s.validate = .ok ()) :
    (s.HasUrl ∨ ∃ name, s.queueName = some name) ∧ s.writer.maxBatchSize ≤ 10 ∧
      s.writer.validate = .ok () := by
  unfold validate at h
  split at h
  next => cases h
  next =>
    split at h
    next => cases h
    next hqueue =>
      split at h
      next => cases h
      next hbatch =>
        split at h
        next => cases h
        next hwriter =>
          refine ⟨?_, Nat.le_of_not_lt hbatch, hwriter⟩
          -- settings with neither URL nor name were turned away by the first check
          by_contra hnone
          obtain ⟨hurl, hname⟩ := not_or.1 hnone
          have hname : s.queueName = none :=
            Option.eq_none_iff_forall_ne_some.2 fun n hn => hname ⟨n, hn⟩
          exact hqueue (by rw [given?_eq_none_iff.2 hurl, hname]; rfl)

/-- The complaint about a batch limit is not the one about a missing name. -/
theorem message_batchAboveService_ne (most batch : Nat) :
    (Misconfiguration.batchAboveService most batch).message ≠ "queue_name is required" := by
  intro h
  have hhead := congrArg (·.toList.head?) h
  have hm : (toString "max_batch_size must be at most ").toList.head? = some 'm' := by decide
  unfold Misconfiguration.message at hhead
  simp only [String.toList_append, List.head?_append, hm, Option.some_or] at hhead
  exact absurd hhead (by decide)

/-- What is wrong with settings is never that there is no name to look up. -/
theorem message_ne_of_validate {m : Misconfiguration} (h : s.validate = .error (.misconfigured m)) :
    m.message ≠ "queue_name is required" := by
  -- each check that can fail has its own message
  unfold validate at h
  split at h
  next =>
    cases h
    decide
  next =>
    split at h
    next =>
      cases h
      decide
    next =>
      split at h
      next =>
        cases h
        exact message_batchAboveService_ne _ _
      next => split at h <;> cases h

/-- Valid settings have a URL or a name to look it up by. -/
theorem lookup?_eq (h : s.validate = .ok ()) :
    (∃ url, s.queueUrl = some url ∧ url ≠ "" ∧ s.lookup? = .ok none) ∨
      ∃ name, ¬s.HasUrl ∧ s.queueName = some name ∧
        s.lookup? = .ok (some ⟨name, s.queueOwner⟩) := by
  by_cases hurl : s.HasUrl
  · obtain ⟨url, hs, hne⟩ := hurl
    exact .inl ⟨url, hs, hne, by rw [lookup?, given?_eq_some_iff.2 ⟨hs, hne⟩]⟩
  · obtain ⟨name, hname⟩ := (of_validate h).1.resolve_left hurl
    exact .inr ⟨name, hurl, hname, by rw [lookup?, given?_eq_none_iff.2 hurl, hname]⟩

/-- What comes of binding a writer: the look-up that is made, and the binding. -/
inductive Bound (s : Settings) (rules : Rulebook) (a : LookupAnswer) :
    Option Lookup × Except Error Binding → Prop
  /-- The settings are not valid. -/
  | invalid {e : Error} : s.validate = .error e → Bound s rules a (none, .error e)
  /-- The URL is given, and nothing is looked up. -/
  | given {url : String} : s.validate = .ok () → s.queueUrl = some url → url ≠ "" →
      Bound s rules a (none, .ok ⟨url, { failOnError := s.writer.failOnError, rules }⟩)
  /-- The URL is looked up, and found. -/
  | found {name url : String} : s.validate = .ok () → ¬s.HasUrl → s.queueName = some name →
      a = .ok (some url) → Bound s rules a (some ⟨name, s.queueOwner⟩,
        .ok ⟨url, { failOnError := s.writer.failOnError, rules }⟩)
  /-- The URL is looked up, but there is none. -/
  | notFound {name : String} {e : Error} : s.validate = .ok () → ¬s.HasUrl →
      s.queueName = some name → foundUrl a = .error e →
      Bound s rules a (some ⟨name, s.queueOwner⟩, .error e)

/-- A URL is found when the look-up has one. -/
theorem foundUrl_eq_ok_iff {url : String} : foundUrl a = .ok url ↔ a = .ok (some url) := by
  rcases a with e | _ | url' <;> simp [foundUrl]

/-- A look-up does not complain about the settings. -/
theorem foundUrl_ne_misconfigured (a : LookupAnswer) (m : Misconfiguration) :
    foundUrl a ≠ .error (.misconfigured m) := by
  rcases a with e | _ | url <;> simp [foundUrl]

/-- What becomes of a binding is one of the ways there are. -/
theorem bound_bind (s : Settings) (rules : Rulebook) (a : LookupAnswer) :
    Bound s rules a (s.bind rules a) := by
  unfold bind
  split
  next e h => exact .invalid h
  next h =>
    obtain ⟨url, hs, hne, hl⟩ | ⟨name, hurl, hname, hl⟩ := lookup?_eq h
    · simp only [resolve, hl, hs, Option.getD_some]
      exact .given h hs hne
    · simp only [resolve, hl]
      cases hf : foundUrl a with
      | error e => exact .notFound h hurl hname hf
      | ok url => exact .found h hurl hname (foundUrl_eq_ok_iff.1 hf)

/-- A buffer with the settings can be created in front of a writer that is bound. -/
theorem create_of_bind (h : (s.bind rules a).2 = .ok b) :
    Buffer.create s.writer b.policy.failOnError = .ok (.ofSettings s.writer) := by
  have hb := s.bound_bind rules a
  generalize s.bind rules a = r at hb h
  -- the settings of the buffer were checked with those of the queue
  have hcreate (hv : s.validate = .ok ()) :
      Buffer.create s.writer s.writer.failOnError = .ok (.ofSettings s.writer) := by
    rw [Buffer.create, (of_validate hv).2.2]
    exact if_pos rfl
  cases hb with
  | invalid | notFound => cases h
  | given hv =>
    cases h
    exact hcreate hv
  | found hv =>
    cases h
    exact hcreate hv

/-- A binding with a buffer is the one without, and a new buffer. -/
theorem bindBuffered_eq (s : Settings) (rules : Rulebook) (a : LookupAnswer) :
    s.bindBuffered rules a =
      ((s.bind rules a).1, (s.bind rules a).2.map (·, Buffer.ofSettings s.writer)) := by
  simp only [bindBuffered]
  cases h : (s.bind rules a).2 with
  | error e => rfl
  | ok b =>
    have hcreate := create_of_bind h
    simp only [Bind.bind, Except.bind, Except.map, hcreate]

end Settings

/-! ## Requests -/

/-- The course of a buffer, and the client that its batches go to. -/
structure Delivery where
  course : Course
  client : ScriptedQueue := {}

namespace Delivery

/-- The batch that goes to the client by an event, if one does. -/
def batch? (p : Policy) (c : Course) : Course.Event → Option (List Entry)
  | .answer _ _ =>
    match c.flush with
    | .submitting batch _ => if (p.refusal? batch).isNone then some batch else none
    | _ => none
  | _ => none

/-- A step of a buffer whose batches are answered by the client. The client may be
    released at any time. -/
inductive Step (b : Binding) : Tally × Delivery → Tally × Delivery → Prop
  /-- The buffer goes on by itself. -/
  | alone {t t' : Tally} {x : Delivery} {e : Course.Event} {c : Course} :
      batch? b.policy x.course e = none → x.course.step b.policy t e = some (t', c) →
      Step b (t, x) (t', { x with course := c })
  /-- The batch that is out goes to the client, which answers. -/
  | sent {t t' : Tally} {x : Delivery} {batch : List Entry} {answer : Answer}
      {client : ScriptedQueue} {draw : Float} {c : Course} :
      batch? b.policy x.course (.answer answer draw) = some batch →
      x.client.send b.queue batch = (answer, client) →
      x.course.step b.policy t (.answer answer draw) = some (t', c) →
      Step b (t, x) (t', ⟨c, client⟩)
  /-- The client is released. -/
  | released {t : Tally} {x : Delivery} :
      Step b (t, x) (t, { x with client := { x.client with released := true } })

/-- What a new buffer and a client that has made no requests can come to. -/
inductive Reached (b : Binding) (buffer : Buffer) : Tally × Delivery → Prop
  | start {t : Tally} {client : ScriptedQueue} : client.sent = [] →
      Reached b buffer (t, { course := { buffer }, client })
  | step {y y' : Tally × Delivery} : Reached b buffer y → Step b y y' → Reached b buffer y'

variable {b : Binding} {t t' : Tally} {x : Delivery} {s : WriterSettings}

/-- A request suits the service. -/
structure Suits (queue : String) (r : Request) : Prop where
  queue : r.queue = queue
  one_le : 1 ≤ r.messages.length
  le_ten : r.messages.length ≤ 10

/-- There are as many messages as entries. -/
theorem length_of_messages {entries : List Entry} {ms : List Message}
    (h : messages entries = .ok ms) : ms.length = entries.length := by
  simpa using (messagesFrom_eq_ok_iff.1 h).length_eq.symm

/-- A batch within the limits makes for a request that suits the service, if it makes
    for one. -/
theorem suits_of_send {queue : String} {batch : List Entry} {client : ScriptedQueue}
    (hs : s.maxBatchSize ≤ 10) (hbatch : s.Admits batch) (h : ∀ r ∈ client.sent, Suits queue r) :
    ∀ r ∈ (client.send queue batch).2.sent, Suits queue r := by
  cases hm : messages batch with
  | error f => rwa [send_of_error hm]
  | ok ms =>
    cases hc : client.released with
    | true => rwa [send_of_released hm hc]
    | false =>
      rw [sent_of_ok hm hc]
      have hlength := length_of_messages hm
      have hpos := List.length_pos_iff.2 hbatch.ne_nil
      have hle := Nat.le_trans hbatch.length_le hs
      refine List.forall_mem_cons.2 ⟨⟨rfl, ?_, ?_⟩, h⟩
      · rwa [hlength]
      · rwa [hlength]

/-- A buffer within the limits of its settings, and requests that suit the service. -/
structure Suited (s : WriterSettings) (queue : String) (x : Delivery) : Prop where
  working : x.course.Working
  limited : Course.Limited s x.course
  requests : ∀ r ∈ x.client.sent, Suits queue r

/-- A step of the buffer leaves it within its limits. -/
theorem Suited.course (hx : Suited s b.queue x) (hv : s.validate = .ok ()) {e : Course.Event}
    {c : Course} (h : x.course.step b.policy t e = some (t', c)) :
    c.Working ∧ Course.Limited s c := by
  have hchange := Course.change_of_step hx.working h
  exact ⟨hchange.working hx.working, hx.limited.of_change hv hchange⟩

/-- The batch that goes to the client is the one that is out. -/
theorem submitting_of_batch? {p : Policy} {c : Course} {e : Course.Event} {batch : List Entry}
    (h : batch? p c e = some batch) : ∃ backoff, c.flush = .submitting batch backoff := by
  cases e with
  | answer a draw =>
    simp only [batch?] at h
    split at h
    next out backoff hf =>
      obtain ⟨-, h⟩ := Option.ite_none_right_eq_some.1 h
      obtain rfl := Option.some.inj h
      exact ⟨backoff, hf⟩
    next => cases h
  | _ => cases h

/-- Requests stay within what the service takes. -/
theorem Suited.step (hv : s.validate = .ok ()) (hs : s.maxBatchSize ≤ 10)
    {y y' : Tally × Delivery} (hy : Suited s b.queue y.2) (h : Step b y y') :
    Suited s b.queue y'.2 := by
  cases h with
  | alone _ hstep =>
    obtain ⟨hw, hl⟩ := hy.course hv hstep
    exact ⟨hw, hl, hy.requests⟩
  | sent hbatch hsend hstep =>
    obtain ⟨hw, hl⟩ := hy.course hv hstep
    obtain ⟨backoff, hf⟩ := submitting_of_batch? hbatch
    have hadmits := hy.limited.submitted _ (hy.limited.latest _ _ hf)
    have hrequests := suits_of_send hs hadmits hy.requests
    rw [hsend] at hrequests
    exact ⟨hw, hl, hrequests⟩
  | released => exact ⟨hy.working, hy.limited, hy.requests⟩

/-- Whatever is delivered, requests are within what the service takes. -/
theorem Reached.suited (hv : s.validate = .ok ()) (hs : s.maxBatchSize ≤ 10)
    {y : Tally × Delivery} (h : Reached b (.ofSettings s) y) : Suited s b.queue y.2 := by
  induction h with
  | start hsent =>
    exact ⟨fun _ => rfl, Course.limited_of_empty rfl rfl, fun r hr => by simp [hsent] at hr⟩
  | step _ hstep ih => exact ih.step hv hs hstep

end Delivery

/-! ## What is built -/

namespace Settings

/-- What comes of settings, with and without a buffer in front of the writer. -/
structure Built (s : Settings) (rules : Rulebook) (a : LookupAnswer) : Prop where
  /-- There is a writer exactly if the settings are valid and a URL is given or found. -/
  succeeds_iff : (∃ b, (s.bind rules a).2 = .ok b) ↔
    s.validate = .ok () ∧ (s.HasUrl ∨ ∃ url, a = .ok (some url))
  /-- A look-up is made exactly if the settings are valid and no URL is given. -/
  looksUp_iff : (s.bind rules a).1.isSome = true ↔ s.validate = .ok () ∧ ¬s.HasUrl
  /-- It is one by the name and the account of the settings. -/
  lookup : ∀ l, (s.bind rules a).1 = some l → s.queueName = some l.name ∧ l.owner = s.queueOwner
  /-- The name to look up is never missing. -/
  named : ∀ m, (s.bind rules a).2 = .error (.misconfigured m) ∨
    (s.bindBuffered rules a).2 = .error (.misconfigured m) → m.message ≠ "queue_name is required"
  /-- The writer has the URL that is given or else found, and the policy of the settings. -/
  bound : ∀ b, (s.bind rules a).2 = .ok b →
    b.policy = { failOnError := s.writer.failOnError, rules } ∧
      (s.queueUrl = some b.queue ∧ b.queue ≠ "" ∨ ¬s.HasUrl ∧ a = .ok (some b.queue))
  /-- A buffer makes no difference to what is looked up, -/
  lookup_eq : (s.bindBuffered rules a).1 = (s.bind rules a).1
  /-- nor to whether there is a writer, and to the error if there is none. -/
  result_eq : (s.bindBuffered rules a).2 =
    (s.bind rules a).2.map (·, Buffer.ofSettings s.writer)
  /-- As the settings of the buffer are valid and have the policy of the writer, -/
  fits : ∀ b, (s.bind rules a).2 = .ok b →
    s.writer.validate = .ok () ∧ s.writer.failOnError = b.policy.failOnError
  /-- all requests of the buffer go to the queue, with one to ten messages. -/
  requests : ∀ b buffer, (s.bindBuffered rules a).2 = .ok (b, buffer) →
    ∀ t x, Delivery.Reached b buffer (t, x) → ∀ r ∈ x.client.sent, Delivery.Suits b.queue r

namespace Bound

variable {s : Settings} {rules : Rulebook} {a : LookupAnswer} {b : Binding}
  {r : Option Lookup × Except Error Binding}

/-- A binding succeeds when the settings are valid and there is a URL. -/
theorem succeeds_iff (h : Bound s rules a r) : (∃ b, r.2 = .ok b) ↔
    s.validate = .ok () ∧ (s.HasUrl ∨ ∃ url, a = .ok (some url)) := by
  cases h with
  | invalid hv => simp [hv]
  | given hv hs hne => exact iff_of_true ⟨_, rfl⟩ ⟨hv, .inl ⟨_, hs, hne⟩⟩
  | found hv _ _ ha => exact iff_of_true ⟨_, rfl⟩ ⟨hv, .inr ⟨_, ha⟩⟩
  | notFound hv hurl _ hf =>
    refine iff_of_false (fun ⟨_, h⟩ => nomatch h) fun ⟨_, h⟩ => ?_
    obtain ⟨url, ha⟩ := h.resolve_left hurl
    exact absurd ((foundUrl_eq_ok_iff.2 ha).symm.trans hf) nofun

/-- A URL is looked up when the settings are valid and give none. -/
theorem looksUp_iff (h : Bound s rules a r) :
    r.1.isSome = true ↔ s.validate = .ok () ∧ ¬s.HasUrl := by
  cases h with
  | invalid hv => simp [hv]
  | given _ hs hne => exact iff_of_false nofun fun ⟨_, h⟩ => h ⟨_, hs, hne⟩
  | found hv hurl | notFound hv hurl => exact iff_of_true rfl ⟨hv, hurl⟩

/-- What is looked up is the name and the owner in the settings. -/
theorem lookup (h : Bound s rules a r) {l : Lookup} (hl : r.1 = some l) :
    s.queueName = some l.name ∧ l.owner = s.queueOwner := by
  cases h with
  | invalid | given => cases hl
  | found _ _ hname | notFound _ _ hname =>
    cases hl
    exact ⟨hname, rfl⟩

/-- The complaint about a missing name is never made. -/
theorem message_ne (h : Bound s rules a r) {m : Misconfiguration}
    (hr : r.2 = .error (.misconfigured m)) : m.message ≠ "queue_name is required" := by
  cases h with
  | invalid hv =>
    cases hr
    exact message_ne_of_validate hv
  | given | found => cases hr
  | notFound _ _ _ hf =>
    cases hr
    exact absurd hf (foundUrl_ne_misconfigured a m)

/-- A binding has the policy of the settings, and its queue is the one at the URL. -/
theorem bound (h : Bound s rules a r) (hr : r.2 = .ok b) :
    b.policy = { failOnError := s.writer.failOnError, rules } ∧
      (s.queueUrl = some b.queue ∧ b.queue ≠ "" ∨ ¬s.HasUrl ∧ a = .ok (some b.queue)) := by
  cases h with
  | invalid | notFound => cases hr
  | given _ hs hne =>
    cases hr
    exact ⟨rfl, .inl ⟨hs, hne⟩⟩
  | found _ hurl _ ha =>
    cases hr
    exact ⟨rfl, .inr ⟨hurl, ha⟩⟩

end Bound

/-- Whatever the settings are, and whatever is answered to a look-up. -/
theorem built_bind (s : Settings) (rules : Rulebook) (a : LookupAnswer) : s.Built rules a := by
  have hb := s.bound_bind rules a
  have hbuffered := s.bindBuffered_eq rules a
  have hvalid {b : Binding} (h : (s.bind rules a).2 = .ok b) : s.validate = .ok () :=
    (hb.succeeds_iff.1 ⟨b, h⟩).1
  -- the buffer adds nothing to the binding, so that what is known of one is known of both
  refine ⟨hb.succeeds_iff, hb.looksUp_iff, fun _ => hb.lookup, ?_, fun _ => hb.bound,
    congrArg (·.1) hbuffered, congrArg (·.2) hbuffered, ?_, ?_⟩
  · rintro m (h | h)
    · exact hb.message_ne h
    · rw [hbuffered] at h
      cases hr : (s.bind rules a).2 with
      | error e =>
        rw [hr] at h
        cases h
        exact hb.message_ne hr
      | ok b => simp [hr, Except.map] at h
  · intro b h
    rw [(hb.bound h).1]
    exact ⟨(of_validate (hvalid h)).2.2, rfl⟩
  · intro b buffer h t x hx
    rw [hbuffered] at h
    cases hr : (s.bind rules a).2 with
    | error e => simp [hr, Except.map] at h
    | ok b' =>
      obtain ⟨rfl, rfl⟩ : b' = b ∧ Buffer.ofSettings s.writer = buffer := by
        simpa [hr, Except.map] using h
      obtain ⟨-, hten, hwriter⟩ := of_validate (hvalid hr)
      exact (hx.suited hwriter hten).requests

end Settings

end Outbox.Sqs
