import Outbox.Proofs.Course.Counters
import Outbox.Proofs.Course.Order
import Outbox.Proofs.Dispatch.Provenance
import Outbox.Proofs.Dispatch.Unconvertible

/-!
# Entries that cannot be sent are not delivered

Whatever the rules on faults say of an entry that cannot be sent, it never gets to the
client, nor does any other entry of its batch, and it is never counted as delivered
(`Fleet.screened_of_run`). This is so

* of a writer, whoever submits what in whichever lane (`Dispatch.Traffic.Screened`):
  buffers, which submit their batches as anyone does, or others;
* of the buffers of a fleet, however often they put such a batch back and cut it anew
  (`Fleet.Screened`).

The client is only asked to send what was submitted, as a whole and if all of it may be
sent (`Dispatch.Traffic.Traced`, `Course.Screened`), and of a batch that is not sent,
nothing is delivered (`Policy.delivered_eq_zero`). No two entries need to have different
ids for that, and batches may be refused.
-/

namespace Outbox

/-! ## The writer -/

namespace Dispatch.Traffic

variable {p : Policy} {t : Traffic} {es : List Event}

/-- What cannot be sent is kept from the client, given the events so far. -/
structure Screened (p : Policy) (es : List Event) (t : Traffic) : Prop where
  /-- Every entry that the client is asked to send may be sent. -/
  valid : ∀ lane batch, .send lane batch ∈ t.asked → ∀ e ∈ batch, e.isValid = true
  /-- Each request of a lane is for a batch of its own that was submitted there, of which
      no entry is left out, and in the same order. -/
  whole : ∀ lane, (t.requests lane).Sublist ((batches lane es).filter isSendable)
  /-- A submission of a batch that is not sent returns a reply, by which nothing is
      delivered. If it fails though it has found the gate open, then for the first entry
      that cannot be sent, and the error says which one that is, and why. -/
  replies : ∀ lane r batch older e, t.lanes[lane]? = some (.submission (.finished r)) →
    batches lane es = batch :: older → batch.find? (!·.isValid) = some e →
    ∃ reply, r = some reply ∧ reply.delivered = 0 ∧ ∀ err, reply.result = .error err →
      (∃ reason, e.invalid = some reason ∧ err.cause? = some {
        category := .invalidEntry
        message := s!"entry {e.id} could not be converted: {reason}" }) ∨
      (err = .closed ∧ FoundShut p es lane batch)

/-- What the client is asked, and what is replied, comes from the submissions that were begun. -/
theorem Traced.screened (ht : Traced p es t) : t.Screened p es := by
  refine ⟨fun lane batch hask => ?_, ht.requests, fun lane r batch older e hl hb he => ?_⟩
  · have hmem := (ht.requests lane).subset (mem_requests.2 hask)
    exact isSendable_iff.1 (List.mem_filter.1 hmem).2
  · obtain ⟨batch', older', hb', hof, -⟩ := ht.latest lane _ hl
    obtain ⟨rfl, -⟩ := List.cons.inj (hb.symm.trans hb')
    cases hof with
    | finished hend =>
      cases hend with
      | refused hc => exact ⟨_, rfl, rfl, fun err herr => .inr ⟨(Except.error.inj herr).symm, hc⟩⟩
      | replied a =>
        exact ⟨_, rfl, Policy.delivered_eq_zero he, fun err herr =>
          .inl (Policy.exists_cause?_of_find? he herr)⟩
      | dropped hs => simp [isSendable_eq_false he] at hs

end Dispatch.Traffic

/-! ## Replies -/

/-- A reply says how many entries of a batch the client has accepted. -/
theorem Policy.delivered_reply (p : Policy) (batch : List Entry) (a : Answer) :
    (p.reply batch a).delivered =
      if (p.refusal? batch).isNone then (Course.deliveredBy batch a).length else 0 := by
  have h := p.replied batch a
  generalize p.reply batch a = r at h ⊢
  cases h with
  | failed hf | retried hf =>
    obtain hs | rfl := Course.answer_of_failure (p := p) hf
    · rw [hs]
      rfl
    · simp [Reply.delivered, Reply.failure, Course.deliveredBy]
  | handedBack hf ha | rejected hf ha =>
    subst ha
    rw [Course.refusal?_of_receipt hf]
    rfl

/-- What a reply says is delivered is counted. -/
theorem Buffer.recordsOut_settle (b : Buffer) (t : Tally) (batch : List Entry) (backoff : Backoff)
    (draw : Float) (r : Reply) : (b.settle t batch backoff draw r).2.1.get .recordsOut =
      t.get .recordsOut + r.delivered.toUInt64 := by
  cases hr : r.result with
  | error e =>
    simp only [settle, hr, fail, Reply.delivered]
    split <;> simp
  | ok o =>
    simp only [settle, hr, Reply.delivered]
    split
    · simp [reject]
    · split
      · simp
      · unfold putBack
        split <;> simp

namespace Course

variable {p : Policy} {t t' : Tally} {c c' : Course} {e : Event}

/-! ## Buffers -/

/-- A step adds the same to the counter of entries delivered and to the ledger. -/
theorem recordsOut_of_step (h : c.step p t e = some (t', c')) : ∃ n : Nat,
    t'.get .recordsOut = t.get .recordsOut + n.toUInt64 ∧
      c'.ledger.delivered.length = c.ledger.delivered.length + n := by
  -- Only by an answer is anything delivered.
  have none (ht : t'.get .recordsOut = t.get .recordsOut)
      (hc : c'.ledger.delivered = c.ledger.delivered) : ∃ n : Nat,
      t'.get .recordsOut = t.get .recordsOut + n.toUInt64 ∧
        c'.ledger.delivered.length = c.ledger.delivered.length + n :=
    ⟨0, by simp [ht], by rw [hc]; rfl⟩
  cases step_eq_some_iff.1 h with
  | @write e =>
    refine none rfl ?_
    simp only [write]
    split <;> rfl
  | flush | lastFlush | stopped | cut | woken => exact none rfl rfl
  | @answered a draw batch backoff _ _ _ _ hs =>
    refine ⟨(p.reply batch a).delivered, ?_, ?_⟩
    · rw [← c.buffer.recordsOut_settle t batch backoff draw (p.reply batch a), hs]
    · rw [p.delivered_reply batch a]
      cases hr : (p.refusal? batch).isNone <;> simp [record, hr]
  | @refused batch backoff _ _ _ _ hs =>
    -- a refusal delivers nothing
    have hcount := c.buffer.recordsOut_settle t batch backoff 0 (.failure .closed)
    rw [hs] at hcount
    exact none (hcount.trans (by simp [Reply.delivered, Reply.failure])) rfl

/-- A batch goes to the client only if all of it may be sent. -/
theorem Change.isSendable_of_sent (h : Change p t c e t' c')
    (hs : c'.ledger.sent = c.flush.batch :: c.ledger.sent) :
    isSendable c.flush.batch = true ∧ ∃ backoff, c.flush = .submitting c.flush.batch backoff := by
  -- By most events nothing is sent.
  have same (hsame : c'.ledger.sent = c.ledger.sent) : False :=
    List.cons_ne_self _ _ (hs.symm.trans hsame)
  cases h with
  | @ended _ batch _ _ backoff _ _ _ hf | @completed _ batch _ backoff _ _ hf
  | @paused _ batch _ _ backoff _ _ _ _ hf | @exhausted _ batch _ _ backoff _ _ _ hf =>
    rw [hf]
    refine ⟨?_, backoff, rfl⟩
    cases hr : p.refusal? batch with
    | none => exact Policy.refusal?_eq_none_iff.1 hr
    | some r => exact (same (by simp [Ledger.settle, hr])).elim
  | turnedAway | accepted | called | calledLast | stopped | cut | refused | woken =>
    exact (same rfl).elim

/-- What cannot be sent is kept from the client. -/
structure Screened (c : Course) : Prop where
  working : c.Working
  /-- The batch that is out has not been sent yet. -/
  latest : ∀ batch backoff, c.flush = .submitting batch backoff → ∃ older,
    c.ledger.submitted = batch :: older ∧ c.ledger.sent.Sublist (older.filter isSendable)
  sent : c.ledger.sent.Sublist (c.ledger.submitted.filter isSendable)
  delivered : ∀ d ∈ c.ledger.delivered, d.isValid = true

/-- A batch that is out is the last one submitted, and was not sent yet. -/
theorem Screened.latest_of_change (hc : c.Screened) (h : Change p t c e t' c')
    {batch : List Entry} {backoff : Backoff} (hf : c'.flush = .submitting batch backoff) :
    ∃ older, c'.ledger.submitted = batch :: older ∧
      c'.ledger.sent.Sublist (older.filter isSendable) := by
  obtain ⟨-, hout⟩ | ⟨batch', _, hl, hf', hsub, -⟩ := h.submit_cases
  · exact absurd hf (hout batch backoff)
  · obtain ⟨rfl, -⟩ := Flush.submitting.inj (hf'.symm.trans hf)
    refine ⟨_, hsub, ?_⟩
    obtain ⟨hsent, -⟩ | ⟨_, hsent, -⟩ := h.sent_cases
    · exact hsent ▸ hc.sent
    · -- No batch was out.
      obtain ⟨-, _, hout⟩ := h.isSendable_of_sent hsent
      rw [hl] at hout
      cases hout

/-- Only batches that may be sent as a whole are, and nothing else is delivered. -/
theorem Screened.sent_of_change (hc : c.Screened) (h : Change p t c e t' c') :
    c'.ledger.sent.Sublist (c'.ledger.submitted.filter isSendable) ∧
      ∀ d ∈ c'.ledger.delivered, d.isValid = true := by
  -- either nothing is sent, or the batch that is out
  obtain ⟨hsent, hdel⟩ | ⟨ds, hsent, hdel, hds⟩ := h.sent_cases
  · refine ⟨?_, hdel ▸ hc.delivered⟩
    rw [hsent]
    obtain hsub | ⟨batch, hsub, -⟩ := h.submitted_cases <;> rw [hsub]
    · exact hc.sent
    · exact hc.sent.trans ((List.sublist_cons_self _ _).filter _)
  · obtain ⟨hvalid, backoff, hf⟩ := h.isSendable_of_sent hsent
    obtain ⟨older, hsub, holder⟩ := hc.latest _ _ hf
    refine ⟨?_, fun d hd => ?_⟩
    · obtain ⟨hsub', -⟩ | ⟨_, _, hl, -⟩ := h.submit_cases
      · rw [hsent, hsub', hsub, List.filter_cons_of_pos hvalid]
        exact holder.cons_cons _
      · rw [hl] at hf
        cases hf
    · rw [hdel] at hd
      rcases List.mem_append.1 hd with hd | hd
      · exact hc.delivered d hd
      · exact isSendable_iff.1 hvalid d (hds d hd)

/-- This is kept by every change. -/
theorem Screened.of_change (hc : c.Screened) (h : Change p t c e t' c') : c'.Screened where
  working := h.working hc.working
  latest _ _ := hc.latest_of_change h
  sent := (hc.sent_of_change h).1
  delivered := (hc.sent_of_change h).2

/-- It holds of a buffer to which nothing was written. -/
theorem screened_of_empty {b : Buffer} (ha : b.aborted = none) :
    Course.Screened { buffer := b } where
  working _ := ha
  latest _ _ := nofun
  sent := .slnil
  delivered := nofun

/-- The answer to a batch that is not sent changes nothing of what was sent or delivered,
    and if the submission fails, then so does the flush, by the same error. -/
theorem step_of_find? {batch : List Entry} {backoff : Backoff} {d : Entry} {a : Answer}
    {draw : Float} (hf : c.flush = .submitting batch backoff)
    (hd : batch.find? (!·.isValid) = some d) (h : c.step p t (.answer a draw) = some (t', c')) :
    c'.ledger.sent = c.ledger.sent ∧ c'.ledger.delivered = c.ledger.delivered ∧
      t'.get .recordsOut = t.get .recordsOut ∧
      ∀ err, (p.reply batch a).result = .error err →
        c'.flush = .finished (.error err) ∧ ∃ reason, d.invalid = some reason ∧
          err.cause? = some {
            category := .invalidEntry
            message := s!"entry {d.id} could not be converted: {reason}" } := by
  -- a batch with such an entry is refused before the client is asked
  have hr : (p.refusal? batch).isNone = false := by
    rw [← Bool.not_eq_true, Option.isNone_iff_eq_none, Policy.refusal?_eq_none_iff,
      isSendable_eq_false hd]
    exact Bool.false_ne_true
  simp only [step, hf, Option.some.injEq, Prod.mk.injEq] at h
  obtain ⟨rfl, rfl⟩ := h
  refine ⟨by simp [record, hr], by simp [record, hr], ?_, fun err herr => ?_⟩
  · rw [Buffer.recordsOut_settle, Policy.delivered_eq_zero hd]
    simp
  · refine ⟨?_, Policy.exists_cause?_of_find? hd herr⟩
    simp only [Buffer.settle, herr, Buffer.fail]
    split <;> rfl

end Course

/-! ## Fleets -/

namespace Fleet

variable {f f' : Fleet} {es : List (Nat × Course.Event)}

/-- What cannot be sent is kept from the client, and is not counted as delivered. -/
structure Screened (f : Fleet) : Prop where
  /-- Each batch sent is one of its own that was submitted, of which no entry is left out,
      and in the same order. -/
  sent : ∀ m ∈ f.members, m.2.ledger.sent.Sublist (m.2.ledger.submitted.filter isSendable)
  delivered : ∀ m ∈ f.members, ∀ d ∈ m.2.ledger.delivered, d.isValid = true
  /-- Nothing else is counted. -/
  recordsOut : (f.tally.get .recordsOut).toNat = f.total (·.ledger.delivered.length) % 2 ^ 64
  /-- Whatever the answer would be to a batch that is not sent, nothing comes of it but
      that it is handed back, or that the flush fails for its first entry that cannot be
      sent, by an error that says which one that is, and why. -/
  answers : ∀ p c batch backoff d, (p, c) ∈ f.members → c.flush = .submitting batch backoff →
    batch.find? (!·.isValid) = some d → ∀ a draw tally c',
    c.step p f.tally (.answer a draw) = some (tally, c') →
    c'.ledger.sent = c.ledger.sent ∧ c'.ledger.delivered = c.ledger.delivered ∧
      tally.get .recordsOut = f.tally.get .recordsOut ∧
      ∀ err, (p.reply batch a).result = .error err →
        c'.flush = .finished (.error err) ∧ ∃ reason, d.invalid = some reason ∧
          err.cause? = some {
            category := .invalidEntry
            message := s!"entry {d.id} could not be converted: {reason}" }

/-- What holds of all buffers and is kept by every step, holds of them after every run. -/
theorem forall_mem_of_run {motive : Policy × Course → Prop} (h : run es f = some f')
    (hf : ∀ m ∈ f.members, motive m)
    (step : ∀ {p c t e t' c'}, motive (p, c) → c.step p t e = some (t', c') → motive (p, c')) :
    ∀ m ∈ f'.members, motive m := by
  induction es generalizing f with
  | nil =>
    cases h
    exact hf
  | cons x es ih =>
    obtain ⟨i, e⟩ := x
    rw [run, Option.bind_eq_some_iff] at h
    obtain ⟨f₁, h₁, h₂⟩ := h
    obtain ⟨p, c, t', c', hi, hs, rfl⟩ := exists_of_step h₁
    refine ih h₂ fun m hm => ?_
    rcases List.mem_or_eq_of_mem_set hm with hm | rfl
    · exact hf m hm
    · exact step (hf _ (List.mem_of_getElem? hi)) hs

/-- The counter of entries delivered agrees with the ledgers. -/
theorem recordsOut_of_run (h : run es f = some f')
    (hf : f.tally.get .recordsOut = (f.total (·.ledger.delivered.length)).toUInt64) :
    f'.tally.get .recordsOut = (f'.total (·.ledger.delivered.length)).toUInt64 := by
  induction es generalizing f with
  | nil =>
    cases h
    exact hf
  | cons x es ih =>
    obtain ⟨i, e⟩ := x
    rw [run, Option.bind_eq_some_iff] at h
    obtain ⟨f₁, h₁, h₂⟩ := h
    obtain ⟨p, c, t', c', hi, hs, rfl⟩ := exists_of_step h₁
    refine ih h₂ ?_
    obtain ⟨n, ht, hl⟩ := Course.recordsOut_of_step hs
    rw [ht, hf, total, total, sum_map_set hi hl]
    exact (UInt64.ofNat_add _ _).symm

/-- It holds of all buffers of a fleet, after every run. -/
theorem screened_of_start {ms : List (Policy × WriterSettings)} (h : run es (start ms) = some f) :
    f.Screened := by
  have hzero : (start ms).total (·.ledger.delivered.length) = 0 := total_eq_zero fun m hm => by
    obtain ⟨⟨p, settings⟩, -, rfl⟩ := List.mem_map.1 hm
    rfl
  have hcount := recordsOut_of_run h (by rw [hzero]; rfl)
  have hall := forall_mem_of_run (motive := fun m => m.2.Screened) h
    (fun m hm => by
      obtain ⟨⟨p, settings⟩, -, rfl⟩ := List.mem_map.1 hm
      exact Course.screened_of_empty rfl)
    (fun hc hs => hc.of_change (Course.change_of_step hc.working hs))
  exact {
    sent := fun m hm => (hall m hm).sent
    delivered := fun m hm => (hall m hm).delivered
    recordsOut := by rw [hcount]; exact UInt64.toNat_ofNat'
    answers := fun _ _ _ _ _ _ hf hd _ _ _ _ hs => Course.step_of_find? hf hd hs }

/-- Whatever is submitted to a writer, and whatever happens to the buffers of a fleet,
    no entry that cannot be sent gets to the client or is counted as delivered. -/
theorem screened_of_run {p : Policy} {calls : List Dispatch.Event} {t : Dispatch.Traffic}
    {ms : List (Policy × WriterSettings)} (ht : Dispatch.Traffic.run p calls {} = some t)
    (hf : run es (start ms) = some f) : t.Screened p calls ∧ f.Screened :=
  ⟨(Dispatch.Traffic.traced_of_run ht).screened, screened_of_start hf⟩

/-- By the standard rules a batch fails for the first entry that cannot be sent, and a
    buffer that cuts off such a batch, for the first one in it. A submission that comes
    after the gate was shut is refused instead. Without any rules, a buffer puts such a
    batch back, and cuts it off anew. -/
theorem screened_of_run_two :
    let bad : Entry := .unconvertible "b" "not UTF-8"
    let batch : List Entry := [{ id := "a" }, bad, .unconvertible "c" ""]
    let calls : List Dispatch.Event :=
      [.submit 0 batch, .go 0, .go 0, .close 1, .go 1, .submit 2 batch, .go 2, .go 0, .go 2,
        .go 2, .go 0, .go 0]
    let ms : List (Policy × WriterSettings) :=
      [({}, { maxBatchSize := 2 }), ({ rules := {} }, { maxBatchSize := 2 })]
    let es : List (Nat × Course.Event) :=
      [(1, .write bad), (0, .write (.unconvertible "d" "")), (1, .write { id := "a" }),
        (0, .write bad), (1, .write { id := "c" }), (1, .flush), (0, .flush), (1, .look false),
        (0, .look false), (0, .answer (.ok {}) 0.5), (1, .answer (.ok {}) 0.5), (1, .wake),
        (1, .look false)]
    ∃ t d f, Dispatch.Traffic.run {} calls {} = some t ∧ t.asked = [] ∧
      t.lanes[0]? = some (.submission (.finished (some (.failure (.requestFailed d))))) ∧
      d.cause = {
        category := .invalidEntry
        message := "entry b could not be converted: not UTF-8" } ∧
      t.lanes[2]? = some (.submission (.finished (some (.failure .closed)))) ∧
      Dispatch.Traffic.FoundShut {} calls 2 batch ∧
      run es (start ms) = some f ∧
      f.members.map (fun m => (m.2.flush.error?.bind (·.cause?), m.2.flush.batch.map (·.id))) =
        [(some {
          category := .invalidEntry
          message := "entry d could not be converted: " }, []), (none, ["b", "a"])] ∧
      t.Screened {} calls ∧ f.Screened := by
  intro bad batch calls ms es
  have hrun : (run es (start ms)).map (fun f => f.members.map fun m =>
      (m.2.flush.error?.bind (·.cause?), m.2.flush.batch.map (·.id))) =
      some [(some {
        category := .invalidEntry
        message := "entry d could not be converted: " }, []), (none, ["b", "a"])] := by
    decide +kernel
  obtain ⟨f, hf, hmembers⟩ := Option.map_eq_some_iff.1 hrun
  have hshut : Dispatch.Traffic.FoundShut {} calls 2 batch :=
    ⟨calls.take 8, [.go 2, .go 0, .go 0], _, rfl, rfl, rfl, rfl,
      by simp [Dispatch.Event.Begins, Dispatch.Event.call?]⟩
  exact ⟨_, _, f, rfl, rfl, rfl, by decide +kernel, rfl, hshut, hf, hmembers,
    screened_of_run rfl hf⟩

end Fleet

end Outbox
