import Mathlib.Data.List.Flatten
import Outbox.Proofs.Course.Retryability

/-!
# Writers that do not retry

If every error is final, then each entry goes out once at most: the batches
submitted, from the first one on, and the entries behind them are just the
entries accepted (`Course.Straight`). Nothing is put back, and nothing pauses.

A batch that is not accepted completely (`FullyAccepted`) ends the work, whatever
the reason is. The call fails with an error that says so
(`Buffer.settle_of_not_fullyAccepted`), and nothing is submitted from then on
(`Course.failsFast_of_run`).

There are three ways for this to happen. A request that fails as a whole, or a
batch with an entry that cannot be sent, is an error in itself. Rejected entries
come as a success, but with nothing handed back; they are reported, and so the
report must not be empty (`Policy.firstOfEach_ne_nil`).
-/

namespace Outbox

/-- All entries of a batch can be sent, and the client accepts each of them. -/
def FullyAccepted (batch : List Entry) (a : Answer) : Prop :=
  (∀ e ∈ batch, e.isValid = true) ∧ ∃ r, a = .ok r ∧ ∀ e ∈ batch, r.rejects e.id = false

instance (batch : List Entry) : (a : Answer) → Decidable (FullyAccepted batch a)
  | .error _ => isFalse fun ⟨_, _, h, _⟩ => nomatch h
  | .ok r =>
    decidable_of_iff ((∀ e ∈ batch, e.isValid = true) ∧ ∀ e ∈ batch, r.rejects e.id = false)
      (by simp [FullyAccepted])

/-! ## Replies -/

namespace Policy

variable {p : Policy} {batch : List Entry} {a : Answer}

/-- A batch is accepted completely unless it fails or something is rejected. -/
theorem fullyAccepted_iff :
    FullyAccepted batch a ↔ failure? batch a = none ∧ ∃ r, a = .ok r ∧ r.rejected batch = [] := by
  have hrejected (r : Receipt) :
      r.rejected batch = [] ↔ ∀ e ∈ batch, r.rejects e.id = false := by
    simp [Receipt.rejected]
  rw [failure?_eq_none_iff, invalidity?_eq_none_iff]
  constructor
  · rintro ⟨hv, r, ha, hr⟩
    exact ⟨⟨hv, r, ha⟩, r, ha, (hrejected r).2 hr⟩
  · rintro ⟨⟨hv, -⟩, r, ha, hr⟩
    exact ⟨hv, r, ha, (hrejected r).1 hr⟩

/-- The reply to a batch that is accepted completely. -/
theorem reply_of_fullyAccepted (ha : FullyAccepted batch a) :
    p.reply batch a = ⟨.ok { delivered := batch.length }, some []⟩ := by
  obtain ⟨hf, r, rfl, hr⟩ := fullyAccepted_iff.1 ha
  have hres : batch.filter (r.rejectedIds.contains ·.id) = [] := by
    simpa [Receipt.rejected] using hr
  rw [reply_of_receipt hf, onReceipt, hres]
  rfl

/-- A policy not to retry hands nothing back. -/
theorem Fate.residual_eq_nil {delivered residual lost : List Entry} (hp : p.failOnError = true)
    (h : p.Fate batch a delivered residual lost) : residual = [] := by
  cases h with
  | ended => rfl
  | retried _ hp' => simp [hp] at hp'
  | handedBack _ _ hr => exact hr hp

/-- Where every error is final, nothing is handed back. -/
theorem handedBack_reply (hp : p.failOnError = true) (batch : List Entry) (a : Answer) :
    (p.reply batch a).handedBack.getD [] = [] := by
  have hreply := p.replied batch a
  cases hr : p.reply batch a
  rw [hr] at hreply
  cases hreply with
  | failed | rejected => rfl
  | retried _ hp' => simp [hp] at hp'
  | handedBack _ _ hres => exact hres hp

end Policy

/-- A batch that is not accepted completely ends the work, whatever the reason is. -/
theorem Buffer.settle_of_not_fullyAccepted {p : Policy} {batch : List Entry} {a : Answer}
    (b : Buffer) (hp : p.failOnError = true) (ha : ¬FullyAccepted batch a) (t : Tally)
    (backoff : Backoff) (draw : Float) :
    ∃ t' err, b.settle t batch backoff draw (p.reply batch a) =
      (b.abort err, t', .finished (.error err)) ∧ err.isFailFast = true := by
  have hreply := p.replied batch a
  cases hr : p.reply batch a
  rw [hr] at hreply
  cases hreply with
  | @failed f err _ herr =>
    obtain rfl : err = .failFast (p.rules.diagnose f) := by simpa [hp] using herr
    exact ⟨_, _, rfl, rfl⟩
  | retried _ hp' => simp [hp] at hp'
  | handedBack hf hok hres =>
    exact absurd (Policy.fullyAccepted_iff.2 ⟨hf, _, hok, hres hp⟩) ha
  | rejected _ _ _ hne =>
    -- What is rejected is reported, and the report is not empty.
    exact ⟨_, _, if_pos (by simpa using Policy.firstOfEach_ne_nil hne), rfl⟩

/-- After a batch that is accepted completely, the flush goes on. -/
theorem Buffer.settle_of_fullyAccepted {p : Policy} {batch : List Entry} {a : Answer}
    (b : Buffer) (ha : FullyAccepted batch a) (t : Tally) (backoff : Backoff) (draw : Float) :
    ∃ t', b.settle t batch backoff draw (p.reply batch a) = (b, t', .looking backoff.reset) := by
  rw [Policy.reply_of_fullyAccepted ha]
  exact ⟨_, rfl⟩

/-- Entries are off the buffer, or were put back to be tried again. -/
def Flush.isMidway : Flush → Bool
  | .submitting _ _ | .pausing _ _ => true
  | .looking _ | .finished _ => false

/-- A flush that is not midway has no batch out. -/
theorem Flush.ne_submitting {f : Flush} (hf : f.isMidway = false) (batch : List Entry)
    (backoff : Backoff) : f ≠ .submitting batch backoff := by
  rintro rfl
  cases hf

/-- A flush that is not midway does not pause. -/
theorem Flush.ne_pausing {f : Flush} (hf : f.isMidway = false) (pause : Span)
    (backoff : Backoff) : f ≠ .pausing pause backoff := by
  rintro rfl
  cases hf

/-- A flush does not begin midway. -/
theorem Buffer.isMidway_flush (b : Buffer) : b.flush.isMidway = false := by
  obtain ⟨-, h⟩ | ⟨reason, -, h⟩ := b.flush_cases <;> rw [h] <;> rfl

/-- The last flush does not begin midway. -/
theorem Buffer.isMidway_lastFlush (b : Buffer) : b.lastFlush.isMidway = false := by
  obtain ⟨-, h⟩ | ⟨r, h⟩ := b.lastFlush_cases <;> rw [h] <;> rfl

/-- A buffer agrees with its writer on whether errors are final. -/
theorem Buffer.failOnError_of_create {settings : WriterSettings} {failOnError : Bool} {b : Buffer}
    (h : create settings failOnError = .ok b) : settings.failOnError = failOnError := by
  unfold create at h
  split at h
  · cases h
  · split at h
    · assumption
    · cases h

namespace Course

variable {p : Policy} {t t' : Tally} {c c' : Course} {e : Event}

/-! ## Each entry goes out once -/

/-- Nothing has been sent again so far. -/
structure Straight (c : Course) : Prop where
  /-- Each entry accepted is part of one batch, or waits. -/
  tiled : c.ledger.submitted.reverse.flatten ++ c.buffer.pending.toList = c.ledger.accepted
  /-- No batch is sent twice. -/
  sent : c.ledger.sent.Sublist c.ledger.submitted
  /-- The batch that is out is the latest one, and is not recorded as sent yet. -/
  out : ∀ batch backoff, c.flush = .submitting batch backoff →
    ∃ earlier, c.ledger.submitted = batch :: earlier ∧ c.ledger.sent.Sublist earlier
  /-- No flush pauses, -/
  unpaused : ∀ pause backoff, c.flush ≠ .pausing pause backoff
  /-- nothing was put back, -/
  putBack : c.ledger.putBack = 0
  /-- and no pause was taken. -/
  pauses : c.ledger.pauses = 0

/-- Nothing goes out. -/
theorem Straight.of_flush (hc : c.Straight) {f : Flush} (hf : f.isMidway = false) :
    Straight { c with flush := f } where
  tiled := hc.tiled
  sent := hc.sent
  out batch backoff h := absurd h (Flush.ne_submitting hf batch backoff)
  unpaused := Flush.ne_pausing hf
  putBack := hc.putBack
  pauses := hc.pauses

/-- An entry is accepted. -/
theorem Straight.accept (hc : c.Straight) {b : Buffer} {e : Entry}
    (hb : b = { c.buffer with pending := c.buffer.pending.push e }) :
    Straight { c with
      buffer := b
      ledger := { c.ledger with accepted := c.ledger.accepted ++ [e] } } where
  tiled := by rw [hb, Queue.toList_push, ← hc.tiled, List.append_assoc]
  sent := hc.sent
  out := hc.out
  unpaused := hc.unpaused
  putBack := hc.putBack
  pauses := hc.pauses

/-- The batch that was out is settled, and nothing of it is put back. -/
theorem Straight.settle (hc : c.Straight) {b : Buffer} {f : Flush}
    {batch delivered lost : List Entry} {backoff : Backoff}
    (hf : c.flush = .submitting batch backoff) (hb : b.pending = c.buffer.pending)
    (hm : f.isMidway = false) :
    Straight {
      buffer := b
      flush := f
      ledger := c.ledger.settle p batch delivered [] lost } where
  tiled := hb ▸ hc.tiled
  sent := by
    -- the batch that is out is the last one submitted
    obtain ⟨earlier, hsub, hsent⟩ := hc.out batch backoff hf
    simp only [Ledger.settle, hsub]
    split
    · exact hsent.cons_cons batch
    · exact hsent.cons batch
  out batch backoff h := absurd h (Flush.ne_submitting hm batch backoff)
  unpaused := Flush.ne_pausing hm
  putBack := hc.putBack
  pauses := hc.pauses

/-- Each entry keeps going out once at most. -/
theorem Straight.of_change (hp : p.failOnError = true) (hc : c.Straight)
    (h : Change p t c e t' c') : c'.Straight := by
  cases h with
  | turnedAway | stopped | refused => exact hc.of_flush rfl
  | @accepted e b _ _ _ hb =>
    refine (hc.accept hb).of_flush ?_
    split
    · exact b.isMidway_flush
    · rfl
  | called => exact hc.of_flush (Buffer.isMidway_flush _)
  | calledLast => exact hc.of_flush (Buffer.isMidway_lastFlush _)
  | @cut _ batch rest _ _ hcut =>
    refine ⟨?_, hc.sent.cons batch, fun batch' backoff' hf => ?_, nofun, hc.putBack, hc.pauses⟩
    · simpa [← held_cut hcut] using hc.tiled
    · obtain ⟨rfl, -⟩ := Flush.submitting.inj hf
      exact ⟨_, rfl, hc.sent⟩
  | ended hf | completed hf => exact hc.settle hf rfl rfl
  | paused _ hs hne | exhausted _ hs hne => exact absurd (hs.fate.residual_eq_nil hp) hne
  | woken hf => exact absurd hf (hc.unpaused _ _)

/-- Nothing has gone out of an empty buffer. -/
theorem straight_of_empty {b : Buffer} (hb : b.pending.toList = []) :
    Straight { buffer := b } where
  tiled := by simp [hb]
  sent := .refl _
  out := nofun
  unpaused := nofun
  putBack := rfl
  pauses := rfl

/-- No retry is counted. -/
theorem retries_of_run {es : List Event} (hp : p.failOnError = true)
    (h : run p es (t, c) = some (t', c')) : t'.get .retries = t.get .retries := by
  refine run_induction (motive := fun _ t' _ => t'.get .retries = t.get .retries) rfl ?_ h
  intro es e t₁ c₁ t₂ c₂ _ ih hstep
  obtain rfl | ⟨_, _, _, r, hr, hs⟩ := settle_of_step hstep
  · exact ih
  · refine ((Buffer.counted_of_settle hs).2 ?_).trans ih
    obtain rfl | ⟨a, rfl⟩ := hr
    · rfl
    · exact Policy.handedBack_reply hp _ _

/-! ## The first failure is the last one -/

/-- A batch that is accepted completely is followed by the next one, if any. -/
theorem step_of_fullyAccepted {batch : List Entry} {backoff : Backoff} {a : Answer}
    (hf : c.flush = .submitting batch backoff) (ha : FullyAccepted batch a) (t : Tally)
    (draw : Float) :
    ∃ t' ledger, c.step p t (.answer a draw) =
      some (t', { buffer := c.buffer, flush := .looking backoff.reset, ledger }) := by
  obtain ⟨t', hs⟩ := c.buffer.settle_of_fullyAccepted (p := p) ha t backoff draw
  exact ⟨t', record p c.ledger batch a c.buffer c.buffer (.looking backoff.reset),
    by simp only [step, hf, hs]⟩

/-- A batch that is not accepted completely ends the work. -/
theorem step_of_not_fullyAccepted {batch : List Entry} {backoff : Backoff} {a : Answer}
    (hp : p.failOnError = true) (hf : c.flush = .submitting batch backoff)
    (ha : ¬FullyAccepted batch a) (t : Tally) (draw : Float) :
    ∃ t' err ledger, err.isFailFast = true ∧ c.step p t (.answer a draw) =
      some (t', { buffer := c.buffer.abort err, flush := .finished (.error err), ledger }) := by
  obtain ⟨t', err, hs, herr⟩ := c.buffer.settle_of_not_fullyAccepted hp ha t backoff draw
  exact ⟨t', err, record p c.ledger batch a c.buffer (c.buffer.abort err) (.finished (.error err)),
    herr, by simp only [step, hf, hs]⟩

/-- Nothing is retried: what a buffer in front of a writer with the policy `p` has
    come to, which is `c`, with the tally `t'`, having started with `t`. -/
structure FailsFast (p : Policy) (t t' : Tally) (c : Course) : Prop where
  /-- Each entry accepted is part of one batch, or waits. -/
  tiled : c.ledger.submitted.reverse.flatten ++ c.buffer.pending.toList = c.ledger.accepted
  /-- So it is sent once at most, -/
  requested : c.ledger.sent.reverse.flatten.Sublist c.ledger.accepted
  /-- which is to say that no two requests have an entry in common. -/
  nodup : (c.ledger.accepted.map (·.id)).Nodup → (c.ledger.sent.flatten.map (·.id)).Nodup
  retries : t'.get .retries = t.get .retries
  putBack : c.ledger.putBack = 0
  pauses : c.ledger.pauses = 0
  unpaused : ∀ pause backoff, c.flush ≠ .pausing pause backoff
  /-- If the batch that is out is accepted completely, then the flush goes on. -/
  proceeds : ∀ batch backoff a draw, c.flush = .submitting batch backoff → FullyAccepted batch a →
    ∃ t₁ c₁, c.step p t' (.answer a draw) = some (t₁, c₁) ∧
      c₁.flush = .looking backoff.reset ∧ c₁.buffer = c.buffer
  /-- If the batch that is out is not accepted completely, then the call fails and
      the work has ended, after which nothing changes any more. -/
  fails : ∀ batch backoff a draw, c.flush = .submitting batch backoff → ¬FullyAccepted batch a →
    ∃ t₁ c₁ err, c.step p t' (.answer a draw) = some (t₁, c₁) ∧
      c₁.flush = .finished (.error err) ∧ err.isFailFast = true ∧
      c₁.buffer.aborted = some err.message ∧
      ∀ es t₂ c₂, run p es (t₁, c₁) = some (t₂, c₂) →
        t₂ = t₁ ∧ c₂.buffer = c₁.buffer ∧ c₂.ledger = c₁.ledger

/-- Whatever happens to a buffer whose settings say that errors are final. -/
theorem failsFast_of_run {settings : WriterSettings} {b : Buffer} {es : List Event}
    (hb : Buffer.create settings p.failOnError = .ok b) (hs : settings.failOnError = true)
    (h : run p es (t, { buffer := b }) = some (t', c)) : FailsFast p t t' c := by
  have hp : p.failOnError = true := Buffer.failOnError_of_create hb ▸ hs
  obtain rfl : b = { settings } := Buffer.eq_of_create hb
  obtain ⟨-, hc⟩ := change_induction (motive := fun _ _ c => c.Straight) (fun _ => rfl)
    (straight_of_empty (b := { settings }) rfl) (fun _ hc hch => hc.of_change hp hch) h
  -- what is sent is among the batches submitted, which are the entries accepted, cut into parts
  have hrequested : c.ledger.sent.reverse.flatten.Sublist c.ledger.accepted := by
    rw [← hc.tiled]
    exact hc.sent.reverse.flatten.trans (List.sublist_append_left _ _)
  refine ⟨hc.tiled, hrequested, fun hids => ?_, retries_of_run hp h, hc.putBack, hc.pauses,
    hc.unpaused, fun batch backoff a draw hf ha => ?_, fun batch backoff a draw hf ha => ?_⟩
  · have hperm : c.ledger.sent.flatten.Perm c.ledger.sent.reverse.flatten :=
      (List.reverse_perm _).symm.flatten
    exact ((hperm.map (·.id)).nodup_iff).2 (hids.sublist (hrequested.map _))
  · obtain ⟨t₁, ledger, hstep⟩ := step_of_fullyAccepted hf ha t' draw
    exact ⟨t₁, _, hstep, rfl, rfl⟩
  · obtain ⟨t₁, err, ledger, hfast, hstep⟩ := step_of_not_fullyAccepted hp hf ha t' draw
    exact ⟨t₁, _, err, hstep, rfl, hfast, rfl, fun es t₂ c₂ => unchanged_of_run rfl rfl⟩

/-- Two of three entries are delivered. The third is rejected, which would end the
    work. -/
theorem failsFast_of_run_three :
    let settings : WriterSettings := { failOnError := true, maxBatchSize := 2 }
    let p : Policy := { failOnError := true }
    let es : List Event :=
      [.write { id := "a" }, .write { id := "b" }, .write { id := "c" }, .flush, .look false,
        .answer (.ok {}) 0.5, .look false]
    ∃ b t c, Buffer.create settings p.failOnError = .ok b ∧ settings.failOnError = true ∧
      run p es ({}, { buffer := b }) = some (t, c) ∧
      c.ledger.sent.map (·.map (·.id)) = [["a", "b"]] ∧ c.flush.batch = [{ id := "c" }] ∧
      ¬FullyAccepted c.flush.batch (.ok ⟨[{ id := "c" }]⟩) ∧ FailsFast p {} t c := by
  intro settings p es
  have hb : Buffer.create settings p.failOnError = .ok { settings } := by
    simp [Buffer.create, WriterSettings.validate, RetrySettings.validate_default, settings, p]
  have hrun : (run p es ({}, { buffer := { settings } })).map
      (fun s => (s.2.ledger.sent.map (·.map (·.id)), s.2.flush.batch)) =
        some ([["a", "b"]], [{ id := "c" }]) := by
    decide +kernel
  obtain ⟨⟨t, c⟩, h, hc⟩ := Option.map_eq_some_iff.1 hrun
  obtain ⟨hsent, hbatch⟩ := Prod.mk.inj hc
  have hrejected : ¬FullyAccepted c.flush.batch (.ok ⟨[{ id := "c" }]⟩) := by
    rintro ⟨-, r, hr, hall⟩
    cases hr
    exact absurd (hall { id := "c" } (hbatch ▸ List.mem_singleton_self _)) (by decide)
  exact ⟨_, t, c, hb, rfl, h, hsent, hbatch, hrejected, failsFast_of_run hb rfl h⟩

end Course

end Outbox
