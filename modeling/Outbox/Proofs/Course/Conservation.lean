import Outbox.Proofs.Course.Steps

/-!
# Nothing is lost and nothing is sent twice

Between the calls on a buffer, every entry it has accepted is delivered, waiting
or lost, and is so once (`Course.conserved_of_run`). This holds whatever the
client answers and whenever the writer is found closed, as long as no batch is
refused, which takes someone who closes the writer between the look at it and
the admission of the batch.

* Entries are lost with one batch at most, the last one submitted, whose answer
  has ended the work (`Course.Ended`).
* What is delivered or lost is never sent again, nor submitted.

Most of it is an invariant (`Course.Accounted`), by which the entries accepted
are those the course holds in one place or another (`Course.holdings`). If no
two of them have the same id, then no two places share one.
-/

namespace Outbox

/-- The batch that is out. -/
def Flush.batch : Flush → List Entry
  | .submitting batch _ => batch
  | _ => []

/-- The error with which a flush has failed. -/
def Flush.error? : Flush → Option Error
  | .finished (.error e) => some e
  | .finished (.ok ()) | .looking _ | .submitting _ _ | .pausing _ _ => none

/-- The error of a flush is its result. -/
theorem Flush.eq_of_error? {f : Flush} {e : Error} (h : f.error? = some e) :
    f = .finished (.error e) := by
  unfold error? at h
  split at h <;> cases h
  rfl

/-- No batch is out when a flush begins. -/
@[simp] theorem Buffer.batch_flush (b : Buffer) : b.flush.batch = [] := by
  obtain ⟨-, h⟩ | ⟨reason, -, h⟩ := b.flush_cases
  · exact h ▸ rfl
  · exact h ▸ rfl

/-- No batch is out when the last flush begins. -/
@[simp] theorem Buffer.batch_lastFlush (b : Buffer) : b.lastFlush.batch = [] := by
  obtain ⟨-, h⟩ | ⟨r, h⟩ := b.lastFlush_cases
  · exact h ▸ rfl
  · exact h ▸ rfl

/-- An entry that is accepted begins a flush at most. -/
theorem Buffer.batch_ite_flush (b : Buffer) :
    Flush.batch (if b.isFull then b.flush else .finished (.ok ())) = [] := by
  split
  · exact b.batch_flush
  · rfl

/-- A flush does not begin with a batch that is out. -/
theorem Buffer.flush_ne_submitting (b : Buffer) {batch : List Entry} {backoff : Backoff} :
    b.flush ≠ .submitting batch backoff := by
  obtain ⟨-, h⟩ | ⟨reason, -, h⟩ := b.flush_cases <;> rw [h] <;> nofun

/-- The last flush does not begin with a batch that is out. -/
theorem Buffer.lastFlush_ne_submitting (b : Buffer) {batch : List Entry} {backoff : Backoff} :
    b.lastFlush ≠ .submitting batch backoff := by
  obtain ⟨-, h⟩ | ⟨r, h⟩ := b.lastFlush_cases <;> rw [h] <;> nofun

/-- A ledger that has recorded more. -/
structure Ledger.Extends (l l' : Ledger) : Prop where
  accepted : l.accepted <+: l'.accepted
  delivered : l.delivered <+: l'.delivered
  lost : l.lost <+: l'.lost

/-- A ledger goes on from itself. -/
theorem Ledger.Extends.refl (l : Ledger) : l.Extends l :=
  ⟨List.prefix_rfl, List.prefix_rfl, List.prefix_rfl⟩

/-- A ledger goes on from what it went on from before. -/
theorem Ledger.Extends.trans {l l' l'' : Ledger} (h : l.Extends l') (h' : l'.Extends l'') :
    l.Extends l'' :=
  ⟨h.accepted.trans h'.accepted, h.delivered.trans h'.delivered, h.lost.trans h'.lost⟩

/-- The batches in `new` are those in `old` and later ones, none of which has an
    entry with the id of one in `done`. -/
def Avoids (done : List Entry) (old new : List (List Entry)) : Prop :=
  ∃ later, new = later ++ old ∧ ∀ batch ∈ later, ∀ e ∈ batch, ∀ d ∈ done, e.id ≠ d.id

/-- No new batches hold anything. -/
theorem Avoids.refl (done : List Entry) (old : List (List Entry)) : Avoids done old old :=
  ⟨[], rfl, by simp⟩

/-- One more batch is avoided if it holds nothing that is done with. -/
theorem Avoids.cons {done batch : List Entry} {old new : List (List Entry)}
    (h : Avoids done old new) (hbatch : ∀ e ∈ batch, ∀ d ∈ done, e.id ≠ d.id) :
    Avoids done old (batch :: new) := by
  obtain ⟨later, rfl, hlater⟩ := h
  refine ⟨batch :: later, rfl, fun b hb => ?_⟩
  rcases List.mem_cons.1 hb with rfl | hb
  · exact hbatch
  · exact hlater b hb

namespace Course

variable {p : Policy} {t t' : Tally} {c c' : Course} {e : Event}

/-! ## Holdings -/

/-- All entries of a course, wherever they are. -/
def holdings (c : Course) : List Entry :=
  c.ledger.delivered ++ c.flush.batch ++ c.buffer.pending.toList ++ c.ledger.lost

/-- No batch is out between calls. -/
theorem batch_of_isIdle (h : c.isIdle = true) : c.flush.batch = [] := by
  unfold isIdle at h
  split at h <;> simp_all [Flush.batch]

/-- Between calls all holdings are delivered, waiting or lost. -/
theorem holdings_of_isIdle (h : c.isIdle = true) :
    c.holdings = c.ledger.delivered ++ c.buffer.pending.toList ++ c.ledger.lost := by
  rw [holdings, batch_of_isIdle h, List.append_nil]

/-- A batch that has met its fate is still there in its parts. -/
theorem perm_of_fate {batch delivered residual lost : List Entry} {a : Answer}
    (h : p.Fate batch a delivered residual lost) (ds ws ls : List Entry) :
    (ds ++ delivered ++ (residual ++ ws) ++ (ls ++ lost)).Perm (ds ++ batch ++ ws ++ ls) := by
  refine List.perm_iff_count.2 fun e => ?_
  have hfate := List.perm_iff_count.1 h.perm e
  simp only [List.count_append] at hfate ⊢
  omega

/-- What is accepted is added to the holdings, and nothing else. -/
theorem Change.holdings_perm (h : Change p t c e t' c') (he : e ≠ .refuse) :
    ∃ new, c'.ledger.accepted = c.ledger.accepted ++ new ∧
      c'.holdings.Perm (c.holdings ++ new) := by
  -- a refusal aside, entries only move from one place to another
  cases h with
  | turnedAway hi =>
    refine ⟨[], by simp, ?_⟩
    rw [List.append_nil, holdings_of_isIdle hi]
    simp [holdings, Flush.batch]
  | @accepted e b hi ha hs hb =>
    refine ⟨[e], rfl, ?_⟩
    rw [holdings_of_isIdle hi, holdings, b.batch_ite_flush, hb]
    refine List.perm_iff_count.2 fun d => ?_
    simp only [Queue.toList_push, List.count_append, List.count_nil]
    omega
  | called hi => exact ⟨[], by simp, by simp [holdings, batch_of_isIdle hi]⟩
  | calledLast hi => exact ⟨[], by simp, by simp [holdings, batch_of_isIdle hi]⟩
  | stopped hf hr => exact ⟨[], by simp, by simp [holdings, hf, Flush.batch]⟩
  | @cut _ batch rest hf hne hcut =>
    refine ⟨[], by simp, ?_⟩
    have hrest := cut_append c.buffer.settings.maxBatchSize c.buffer.settings.maxBatchBytes
      c.buffer.pending
    rw [hcut] at hrest
    simp [holdings, hf, Flush.batch, ← hrest]
  | ended hf hends hs =>
    refine ⟨[], by simp [Ledger.settle], ?_⟩
    simpa [holdings, hf, Flush.batch, Ledger.settle, Buffer.abort] using perm_of_fate hs.fate ..
  | completed hf hs | paused hf hs | exhausted hf hs =>
    refine ⟨[], by simp [Ledger.settle], ?_⟩
    simpa [holdings, hf, Flush.batch, Ledger.settle] using perm_of_fate hs.fate ..
  | refused => exact absurd rfl he
  | woken hf => exact ⟨[], by simp, by simp [holdings, hf, Flush.batch]⟩

/-- Every change goes on with the ledger. -/
theorem Change.extends (h : Change p t c e t' c') : c.ledger.Extends c'.ledger := by
  cases h with
  | accepted => exact ⟨List.prefix_append _ _, List.prefix_rfl, List.prefix_rfl⟩
  | ended | completed | paused | exhausted =>
    exact ⟨List.prefix_rfl, List.prefix_append _ _, List.prefix_append _ _⟩
  | turnedAway | called | calledLast | stopped | cut | refused | woken =>
    exact ⟨List.prefix_rfl, List.prefix_rfl, List.prefix_rfl⟩

/-! ## Requests -/

/-- What is submitted is one batch at a time, of entries that wait. -/
theorem Change.submitted_cases (h : Change p t c e t' c') :
    c'.ledger.submitted = c.ledger.submitted ∨
      ∃ batch, c'.ledger.submitted = batch :: c.ledger.submitted ∧
        ∀ d ∈ batch, d ∈ c.buffer.pending.toList := by
  cases h with
  | @cut _ batch rest _ _ hcut =>
    refine .inr ⟨batch, rfl, fun d hd => ?_⟩
    have hrest := cut_append c.buffer.settings.maxBatchSize c.buffer.settings.maxBatchBytes
      c.buffer.pending
    rw [hcut] at hrest
    exact hrest ▸ List.mem_append_left _ hd
  | _ => exact .inl rfl

/-- What is delivered was sent: a batch that is refused delivers nothing. -/
theorem settle_sent {batch delivered residual lost : List Entry} {backoff : Backoff} {a : Answer}
    (hf : c.flush = .submitting batch backoff) (h : p.Fate batch a delivered residual lost) :
    let l := c.ledger.settle p batch delivered residual lost
    (l.sent = c.ledger.sent ∧ l.delivered = c.ledger.delivered) ∨
      ∃ ds, l.sent = c.flush.batch :: c.ledger.sent ∧ l.delivered = c.ledger.delivered ++ ds ∧
        ∀ d ∈ ds, d ∈ c.flush.batch := by
  rw [hf]
  cases hr : (p.refusal? batch).isNone with
  | true =>
    refine .inr ⟨delivered, if_pos hr, rfl, fun d hd => ?_⟩
    exact h.perm.mem_iff.1 (List.mem_append_left _ hd)
  | false =>
    have hnone := delivered_of_fate c.ledger h
    rw [hr, if_neg Bool.false_ne_true] at hnone
    exact .inl ⟨if_neg (by simp [hr]), hnone.symm⟩

/-- What is sent is the batch that is out, and what is delivered is of that batch. -/
theorem Change.sent_cases (h : Change p t c e t' c') :
    (c'.ledger.sent = c.ledger.sent ∧ c'.ledger.delivered = c.ledger.delivered) ∨
      ∃ ds, c'.ledger.sent = c.flush.batch :: c.ledger.sent ∧
        c'.ledger.delivered = c.ledger.delivered ++ ds ∧ ∀ d ∈ ds, d ∈ c.flush.batch := by
  cases h with
  | ended hf _ hs | completed hf hs | paused hf hs | exhausted hf hs =>
    exact settle_sent hf hs.fate
  | turnedAway | accepted | called | calledLast | stopped | cut | refused | woken =>
    exact .inl ⟨rfl, rfl⟩

/-! ## The invariant -/

/-- What is true of a course at all times. -/
structure Accounted (p : Policy) (c : Course) : Prop where
  /-- No flush is under way after the work has ended. -/
  working : c.Working
  /-- What was accepted is held in one place or another. -/
  balance : c.ledger.accepted.Perm c.holdings
  /-- The batch that is out is the latest. -/
  latest : ∀ batch backoff, c.flush = .submitting batch backoff →
    c.ledger.submitted.head? = some batch
  /-- What is delivered has been sent. -/
  requested : ∀ d ∈ c.ledger.delivered, ∃ batch ∈ c.ledger.sent, d ∈ batch
  /-- Nothing is lost as long as the work goes on. -/
  usable : c.buffer.aborted = none → c.ledger.lost = []

/-- The work goes on, or has ended before, or ends with the answer to the batch
    that is out. After it has ended, the ledger stays as it is. -/
theorem Change.work_cases (h : Change p t c e t' c') (hw : c.Working) :
    (c'.buffer.aborted = c.buffer.aborted ∧ c'.ledger.lost = c.ledger.lost ∧
      (c.buffer.aborted.isSome = true → c'.ledger = c.ledger)) ∨
    (∃ batch backoff a draw delivered lost, c.flush = .submitting batch backoff ∧
      e = .answer a draw ∧ p.Ends batch a delivered lost ∧ c'.buffer.aborted.isSome = true ∧
      c'.ledger = c.ledger.settle p batch delivered [] lost) := by
  have hnone (hi : c.isIdle = false) (ha : c.buffer.aborted.isSome = true) : False := by
    simp [hw hi] at ha
  cases h with
  | ended hf hends => exact .inr ⟨_, _, _, _, _, _, hf, rfl, hends, rfl, rfl⟩
  | accepted _ ha _ hb => exact .inl ⟨by rw [hb], rfl, fun hs => by simp [ha] at hs⟩
  | cut hf => exact .inl ⟨rfl, rfl, fun ha => (hnone (by simp [isIdle, hf]) ha).elim⟩
  | completed hf | paused hf | exhausted hf =>
    exact .inl ⟨rfl, List.append_nil _, fun ha => (hnone (by simp [isIdle, hf]) ha).elim⟩
  | turnedAway | called | calledLast | stopped | refused | woken =>
    exact .inl ⟨rfl, rfl, fun _ => rfl⟩

/-- Only by being cut off does a batch get out. -/
theorem Change.latest (h : Change p t c e t' c') {batch : List Entry} {backoff : Backoff}
    (hf : c'.flush = .submitting batch backoff) : c'.ledger.submitted.head? = some batch := by
  cases h with
  | cut =>
    obtain ⟨rfl, -⟩ := Flush.submitting.inj hf
    rfl
  | accepted =>
    dsimp only at hf
    split at hf
    · exact absurd hf (Buffer.flush_ne_submitting _)
    · cases hf
  | called => exact absurd hf (Buffer.flush_ne_submitting _)
  | calledLast => exact absurd hf (Buffer.lastFlush_ne_submitting _)
  | turnedAway | stopped | ended | completed | paused | exhausted | refused | woken => cases hf

/-! ### Preservation, one fact at a time -/

/-- The entries accepted remain those that are held. -/
theorem Accounted.balance_of_change (hc : Accounted p c) (h : Change p t c e t' c')
    (he : e ≠ .refuse) : c'.ledger.accepted.Perm c'.holdings := by
  obtain ⟨new, hnew, hperm⟩ := h.holdings_perm he
  rw [hnew]
  exact (hc.balance.append_right new).trans hperm.symm

/-- What is delivered was sent. -/
theorem Accounted.requested_of_change (hc : Accounted p c) (h : Change p t c e t' c') :
    ∀ d ∈ c'.ledger.delivered, ∃ batch ∈ c'.ledger.sent, d ∈ batch := by
  obtain ⟨hs, hd⟩ | ⟨ds, hs, hd, hds⟩ := h.sent_cases
  · rw [hs, hd]
    exact hc.requested
  · rw [hs, hd]
    intro d hd
    rcases List.mem_append.1 hd with hd | hd
    · obtain ⟨batch, hb, hd⟩ := hc.requested d hd
      exact ⟨batch, .tail _ hb, hd⟩
    · exact ⟨c.flush.batch, .head _, hds d hd⟩

/-- Nothing is lost as long as the work has not ended. -/
theorem Accounted.usable_of_change (hc : Accounted p c) (h : Change p t c e t' c')
    (hn : c'.buffer.aborted = none) : c'.ledger.lost = [] := by
  obtain ⟨ha, hl, -⟩ | ⟨_, _, _, _, _, _, -, -, -, ha, -⟩ := h.work_cases hc.working
  · rw [hl, hc.usable (ha ▸ hn)]
  · rw [hn] at ha
    cases ha

/-- The account is kept by every change but a refusal. -/
theorem Accounted.of_change (hc : Accounted p c) (h : Change p t c e t' c') (he : e ≠ .refuse) :
    Accounted p c' where
  working := h.working hc.working
  balance := hc.balance_of_change h he
  latest _ _ := h.latest
  requested := hc.requested_of_change h
  usable := hc.usable_of_change h

/-- At the start there is nothing. -/
theorem accounted_of_empty {b : Buffer} (hp : b.pending.toList = []) (ha : b.aborted = none) :
    Accounted p { buffer := b } where
  working _ := ha
  balance := by simp [holdings, hp, Flush.batch]
  latest _ _ hf := nomatch hf
  requested := by simp
  usable _ := rfl

/-! ## Runs -/

/-- What holds at the start and is kept by every change holds after every run in
    which no batch is refused. -/
theorem Accounted.run_induction {motive : Course → Prop} {es : List Event} (hc : Accounted p c)
    (nil : motive c)
    (change : ∀ {e t₁ c₁ t₂ c₂}, Accounted p c₁ → motive c₁ → Change p t₁ c₁ e t₂ c₂ → motive c₂)
    (h : Course.run p es (t, c) = some (t', c')) (hes : .refuse ∉ es) :
    Accounted p c' ∧ motive c' := by
  refine Course.run_induction (motive := fun es _ c' => .refuse ∉ es → Accounted p c' ∧ motive c')
    (fun _ => ⟨hc, nil⟩) (fun _ ih hstep hes => ?_) h hes
  rw [List.mem_append, List.mem_singleton, not_or] at hes
  obtain ⟨hc₁, hm⟩ := ih hes.1
  have hchange := change_of_step hc₁.working hstep
  exact ⟨hc₁.of_change hchange (Ne.symm hes.2), change hc₁ hm hchange⟩

/-- The account is kept by every run without refusals. -/
theorem Accounted.run {es : List Event} (hc : Accounted p c)
    (h : Course.run p es (t, c) = some (t', c')) (hes : .refuse ∉ es) : Accounted p c' :=
  (hc.run_induction (motive := fun _ => True) trivial (fun _ _ _ => trivial) h hes).1

/-! ## The end of the work -/

/-- In the course of some events, the answer to a batch has ended the work. All
    that is lost is of this batch, and nothing is delivered nor submitted any more. -/
def Ended (p : Policy) (s : Tally × Course) (es : List Event) (c : Course) : Prop :=
  ∃ es₁ a draw es₂ t₁ c₁ batch backoff delivered, es = es₁ ++ .answer a draw :: es₂ ∧
    run p es₁ s = some (t₁, c₁) ∧ c₁.flush = .submitting batch backoff ∧
    p.Ends batch a delivered c.ledger.lost ∧
    c.ledger.delivered = c₁.ledger.delivered ++ delivered ∧
    c.ledger.submitted = c₁.ledger.submitted

/-- The work remains ended by what ended it. -/
theorem Ended.concat {s : Tally × Course} {es : List Event} (h : Ended p s es c) (e : Event)
    (hl : c'.ledger = c.ledger) : Ended p s (es ++ [e]) c' := by
  obtain ⟨es₁, a, draw, es₂, t₁, c₁, batch, backoff, delivered, rfl, h₁, hf, hends, hd, hs⟩ := h
  refine ⟨es₁, a, draw, es₂ ++ [e], t₁, c₁, batch, backoff, delivered, by simp, h₁, hf, ?_⟩
  rw [hl]
  exact ⟨hends, hd, hs⟩

/-- The work ends by an answer, and only once. -/
theorem Accounted.ended_of_run {es : List Event} (hc : Accounted p c)
    (ha : c.buffer.aborted = none) (h : Course.run p es (t, c) = some (t', c'))
    (hes : .refuse ∉ es) (ha' : c'.buffer.aborted.isSome = true) : Ended p (t, c) es c' := by
  refine Course.run_induction (motive := fun es _ c' => .refuse ∉ es →
    c'.buffer.aborted.isSome = true → Ended p (t, c) es c') ?_ ?_ h hes ha'
  · intro _ ha'
    simp [ha] at ha'
  · intro es e t₁ c₁ t₂ c₂ h₁ ih hstep hes ha₂
    rw [List.mem_append, List.mem_singleton, not_or] at hes
    have hc₁ := hc.run h₁ hes.1
    -- the work had ended before, or is ended by this answer
    obtain ⟨hb, -, hl⟩ | ⟨batch, backoff, a, draw, delivered, lost, hf, rfl, hends, -, hl⟩ :=
      (change_of_step hc₁.working hstep).work_cases hc₁.working
    · rw [hb] at ha₂
      exact (ih hes.1 ha₂).concat e (hl ha₂)
    · -- Nothing was lost before, so all that is lost now is of the batch that was out.
      have hnone := hc₁.usable (hc₁.working (by simp [isIdle, hf]))
      refine ⟨es, a, draw, [], t₁, c₁, batch, backoff, delivered, rfl, h₁, hf, ?_⟩
      rw [hl, Ledger.settle, hnone]
      exact ⟨hends, rfl, rfl⟩

/-! ## Later batches -/

/-- What may still be sent is neither delivered nor lost. -/
theorem Accounted.ne_of_mem (hc : Accounted p c) (hids : (c.ledger.accepted.map (·.id)).Nodup)
    {e d : Entry} (he : e ∈ c.flush.batch ++ c.buffer.pending.toList)
    (hd : d ∈ c.ledger.delivered ++ c.ledger.lost) : e.id ≠ d.id := by
  have hperm : c.ledger.accepted.Perm ((c.flush.batch ++ c.buffer.pending.toList) ++
      (c.ledger.delivered ++ c.ledger.lost)) := by
    refine hc.balance.trans (List.perm_iff_count.2 fun x => ?_)
    simp only [holdings, List.count_append]
    omega
  have hnodup := (hperm.map (·.id)).nodup_iff.1 hids
  rw [List.map_append, List.nodup_append] at hnodup
  exact hnodup.2.2 _ (List.mem_map_of_mem he) _ (List.mem_map_of_mem hd)

/-- What is delivered or lost at some time is in no later batch. -/
theorem Accounted.avoids_of_run {es : List Event} (hc : Accounted p c)
    (h : Course.run p es (t, c) = some (t', c')) (hes : .refuse ∉ es)
    (hids : (c'.ledger.accepted.map (·.id)).Nodup) :
    Avoids (c.ledger.delivered ++ c.ledger.lost) c.ledger.submitted c'.ledger.submitted ∧
      Avoids (c.ledger.delivered ++ c.ledger.lost) c.ledger.sent c'.ledger.sent := by
  refine (hc.run_induction (motive := fun c' => c.ledger.Extends c'.ledger ∧
    ((c'.ledger.accepted.map (·.id)).Nodup →
      Avoids (c.ledger.delivered ++ c.ledger.lost) c.ledger.submitted c'.ledger.submitted ∧
      Avoids (c.ledger.delivered ++ c.ledger.lost) c.ledger.sent c'.ledger.sent))
    ⟨.refl _, fun _ => ⟨.refl _ _, .refl _ _⟩⟩ ?_ h hes).2.2 hids
  intro e t₁ c₁ t₂ c₂ hc₁ ⟨hgrown, ih⟩ hchange
  refine ⟨hgrown.trans hchange.extends, fun hids => ?_⟩
  have hids₁ : (c₁.ledger.accepted.map (·.id)).Nodup :=
    hids.sublist (hchange.extends.accepted.sublist.map _)
  -- What may still be sent avoids all that is done now, hence all that was done before.
  have hne : ∀ x ∈ c₁.flush.batch ++ c₁.buffer.pending.toList,
      ∀ d ∈ c.ledger.delivered ++ c.ledger.lost, x.id ≠ d.id := fun x hx d hd =>
    hc₁.ne_of_mem hids₁ hx (List.mem_append.2 ((List.mem_append.1 hd).imp
      (hgrown.delivered.subset ·) (hgrown.lost.subset ·)))
  obtain ⟨hsubmitted, hsent⟩ := ih hids₁
  constructor
  · obtain hs | ⟨batch, hs, hb⟩ := hchange.submitted_cases
    · exact hs ▸ hsubmitted
    · exact hs ▸ hsubmitted.cons fun x hx => hne x (List.mem_append_right _ (hb x hx))
  · obtain ⟨hs, -⟩ | ⟨ds, hs, -⟩ := hchange.sent_cases
    · exact hs ▸ hsent
    · exact hs ▸ hsent.cons fun x hx => hne x (List.mem_append_left _ hx)

/-! ## Conservation -/

/-- An entry is accepted exactly if the work has not ended and it is not too
    large. -/
theorem accepted_write (hi : c.isIdle = true) (e : Entry) :
    (c.write e).ledger.accepted =
      if c.buffer.aborted = none ∧ e.size ≤ c.buffer.settings.maxRecordBytes then
        c.ledger.accepted ++ [e]
      else c.ledger.accepted := by
  have h : Change {} {} c (.write e) {} (c.write e) := change_write hi e
  generalize c.write e = c' at h ⊢
  cases h with
  | turnedAway _ hr =>
    -- One of the two checks has failed.
    rw [if_neg]
    rintro ⟨ha, hs⟩
    rcases hr with ⟨reason, hr, -⟩ | ⟨-, hr, -⟩
    · simp [ha] at hr
    · omega
  | accepted _ ha hs => exact (if_pos ⟨ha, hs⟩).symm

/-- No entry is lost and none is sent again, given the events so far. -/
structure Conserved (p : Policy) (s : Tally × Course) (es : List Event) (t : Tally)
    (c : Course) : Prop where
  /-- An entry is accepted exactly if the work has not ended and it is not too
      large. -/
  accepts : c.isIdle = true → ∀ e : Entry, (c.write e).ledger.accepted =
    if c.buffer.aborted = none ∧ e.size ≤ c.buffer.settings.maxRecordBytes then
      c.ledger.accepted ++ [e]
    else c.ledger.accepted
  /-- What is delivered was part of a batch that went to the client. -/
  requested : ∀ d ∈ c.ledger.delivered, ∃ batch ∈ c.ledger.sent, d ∈ batch
  /-- Between calls every entry accepted is delivered, waiting or lost. -/
  balance : c.isIdle = true → c.ledger.accepted.Perm
    (c.ledger.delivered ++ c.buffer.pending.toList ++ c.ledger.lost)
  /-- No entry is two of these, or one of them twice. -/
  once : ((c.ledger.delivered ++ c.buffer.pending.toList ++ c.ledger.lost).map (·.id)).Nodup
  /-- Nothing is lost as long as the work goes on. -/
  usable : c.buffer.aborted = none → c.ledger.lost = []
  /-- All that is lost is of the batch whose answer has ended the work. -/
  ended : c.buffer.aborted.isSome = true → Ended p s es c
  /-- What is delivered or lost is in no later batch, whatever happens. -/
  later : ∀ (es' : List Event) (t' : Tally) (c' : Course), run p es' (t, c) = some (t', c') →
    .refuse ∉ es' → (c'.ledger.accepted.map (·.id)).Nodup →
    Avoids (c.ledger.delivered ++ c.ledger.lost) c.ledger.submitted c'.ledger.submitted ∧
      Avoids (c.ledger.delivered ++ c.ledger.lost) c.ledger.sent c'.ledger.sent

/-- Whatever happens to a buffer from its creation on (see
    `Buffer.eq_of_create`), no entry is lost and none is sent again, provided
    that no batch is refused and that no two entries accepted have the same id. -/
theorem conserved_of_run {settings : WriterSettings} {es : List Event}
    (h : run p es (t, { buffer := { settings } }) = some (t', c)) (hes : .refuse ∉ es)
    (hids : (c.ledger.accepted.map (·.id)).Nodup) :
    Conserved p (t, { buffer := { settings } }) es t' c := by
  have hempty : Accounted p { buffer := { settings } } := accounted_of_empty rfl rfl
  have hc := hempty.run h hes
  have hnodup : (c.holdings.map (·.id)).Nodup := (hc.balance.map (·.id)).nodup_iff.1 hids
  refine ⟨accepted_write, hc.requested, fun hi => ?_, ?_, hc.usable,
    hempty.ended_of_run rfl h hes, fun es' t' c' => hc.avoids_of_run⟩
  · exact holdings_of_isIdle hi ▸ hc.balance
  · refine hnodup.sublist (List.Sublist.map _ ?_)
    simp [holdings]

/-- Of three entries, the second is rejected at first, and is lost with the
    batch that fails for good. A fourth one comes too late. -/
theorem conserved_of_run_three :
    let settings : WriterSettings :=
      { maxBatchSize := 3, maxBufferedRequests := 3, retry := { maxAttempts := 1 } }
    let es : List Event :=
      [.write { id := "a" }, .write { id := "b" }, .write { id := "c" }, .look false,
        .answer (.ok ⟨[{ id := "b" }, { id := "x" }, { id := "b" }]⟩) 0.5, .wake, .look false,
        .answer (.error { category := .resourceNotFound, message := "gone" }) 0.5,
        .write { id := "d" }]
    ∃ t c, run {} es ({}, { buffer := { settings } }) = some (t, c) ∧ .refuse ∉ es ∧
      c.ledger.delivered.map (·.id) = ["a", "c"] ∧ c.ledger.lost.map (·.id) = ["b"] ∧
      (c.ledger.accepted.map (·.id)).Nodup ∧
      Conserved {} ({}, { buffer := { settings } }) es t c := by
  intro settings es
  have hes : .refuse ∉ es := by simp [es]
  have hrun : (run {} es ({}, { buffer := { settings } })).map (fun (_, c) =>
      (c.ledger.accepted.map (·.id), c.ledger.delivered.map (·.id), c.ledger.lost.map (·.id))) =
        some (["a", "b", "c"], ["a", "c"], ["b"]) := by
    decide +kernel
  obtain ⟨⟨t, c⟩, h, hc⟩ := Option.map_eq_some_iff.1 hrun
  simp only [Prod.mk.injEq] at hc
  have hids : (c.ledger.accepted.map (·.id)).Nodup := by
    rw [hc.1]
    decide
  exact ⟨t, c, h, hes, hc.2.1, hc.2.2, hids, conserved_of_run h hes hids⟩

end Course

end Outbox
