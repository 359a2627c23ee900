import Outbox.Proofs.Course.Shared

/-!
# What an error says about the work

The error that a call returns tells how the work on the buffer stands
(`Course.retryability_of_run`):

* the work has ended if and only if the error is *final*, that is, if the
  delivery went wrong and is not to be tried again (`Error.Final`);
* if the error is retryable, or the flush has found the writer closed, then
  nothing is counted as failed, and all that is not delivered still waits;
* once the work has ended, every call fails with the same final error, and
  nothing changes any more (`Course.run_of_aborted`).

The first two are about the last event of a call, before which the work has not
ended, and all entries are kept (`Course.last_of_run`). Whether anything is counted as
failed is decided when the buffer settles a batch, whatever the ids in it are
(`Buffer.counted_of_settle`).
-/

namespace Outbox

/-- The delivery went wrong, and is not to be tried again. -/
def Error.Final (e : Error) : Prop :=
  e.kind = .failFast ∨ (e.kind = .sink ∧ e.isRetryable = false)

/-- A failed delivery that is not to be tried again is final. -/
theorem Error.final_of_isSinkFailure {e : Error} (h : e.isSinkFailure = true)
    (hr : e.isRetryable = false) : e.Final := by
  simp only [isSinkFailure, Bool.or_eq_true, decide_eq_true_eq] at h
  exact h.elim (fun hs => .inr ⟨hs, hr⟩) .inl

/-- What may be tried again is not final. -/
theorem Error.not_final_of_isRetryable {e : Error} (h : e.isRetryable = true) : ¬e.Final := by
  rintro (hk | ⟨-, hr⟩)
  · cases e <;> simp_all [kind, isRetryable]
  · simp [h] at hr

/-- Counts entries that failed for good. -/
def Counter.countsFailures : Counter → Bool
  | .recordErrors | .sendErrors => true
  | .recordsOut | .bytesOut | .retries => false

/-- When a batch is settled, failures are counted only if the work ends, and retries
    only if something is handed back. -/
theorem Buffer.counted_of_settle {b b' : Buffer} {t t' : Tally} {batch : List Entry}
    {backoff : Backoff} {draw : Float} {r : Reply} {f : Flush}
    (h : b.settle t batch backoff draw r = (b', t', f)) :
    (b'.aborted = none → ∀ k, k.countsFailures = true → t'.get k = t.get k) ∧
      (r.handedBack.getD [] = [] → t'.get .retries = t.get .retries) := by
  rw [settle] at h
  split at h
  · rw [fail] at h
    split at h <;> cases h
    · exact ⟨fun ha => (by cases ha), fun _ => by simp⟩
    · exact ⟨fun _ _ _ => rfl, fun _ => rfl⟩
  · rename_i o _
    dsimp only at h
    -- What is delivered is neither a failure nor a retry.
    set t₁ := (t.add .recordsOut o.delivered.toUInt64).add .bytesOut
      ((Sizes.ofBatch batch).without
        ((r.handedBack.getD []).map (·.id) ++ o.rejected.map (·.id))).toUInt64 with ht₁
    have hk (k : Counter) (hk : k.countsFailures = true) : t₁.get k = t.get k := by
      cases k <;> simp_all [Counter.countsFailures]
    have hretries : t₁.get .retries = t.get .retries := by simp [ht₁]
    clear_value t₁
    split at h
    · cases h
      exact ⟨fun ha => (by cases ha), fun _ => by simp [hretries]⟩
    · split at h
      · cases h
        exact ⟨fun _ => hk, fun _ => hretries⟩
      · rename_i hres
        refine ⟨fun _ k hkf => ?_, fun hnone => absurd (List.isEmpty_iff.2 hnone) hres⟩
        have hne : Counter.retries ≠ k := by rintro rfl; cases hkf
        obtain ⟨_, _, -, hp⟩ | ⟨_, -, hp⟩ :=
          b.putBack_cases t₁ (r.handedBack.getD []) backoff draw <;> cases hp.symm.trans h
        · simp [hne, hk k hkf]
        · simp [hne, hk k hkf]

/-- A flush that fails at once does so as the work has ended before. -/
theorem Buffer.error_of_flush {b : Buffer} {err : Error} (h : b.flush = .finished (.error err)) :
    ∃ reason, b.aborted = some reason ∧ err = .aborted reason := by
  obtain ⟨-, hl⟩ | ⟨reason, ha, hl⟩ := b.flush_cases <;> rw [hl] at h <;> cases h
  exact ⟨reason, ha, rfl⟩

/-- The last flush fails at once only when the work has ended. -/
theorem Buffer.error_of_lastFlush {b : Buffer} {err : Error}
    (h : b.lastFlush = .finished (.error err)) : ∃ reason, b.aborted = some reason ∧
      (err = .aborted reason ∨ err = .leftBehind b.pending.size reason) := by
  rw [lastFlush] at h
  split at h
  · obtain ⟨reason, ha, herr⟩ := error_of_flush h
    exact ⟨reason, ha, .inl herr⟩
  · rename_i reason ha
    split at h <;> cases h
    exact ⟨reason, ha, .inr rfl⟩

namespace Course

variable {p : Policy} {t t' : Tally} {c c' : Course} {e : Event}

/-! ## The last event of a call -/

/-- A step by which something is counted settles a batch. -/
theorem settle_of_step (h : c.step p t e = some (t', c')) :
    t' = t ∨ ∃ batch backoff draw r, (r = .failure .closed ∨ ∃ a, r = p.reply batch a) ∧
      c.buffer.settle t batch backoff draw r = (c'.buffer, t', c'.flush) := by
  cases step_eq_some_iff.1 h with
  | write | flush | lastFlush | stopped | cut | woken => exact .inl rfl
  | @answered a draw batch backoff _ _ _ _ hs =>
    exact .inr ⟨batch, backoff, draw, _, .inr ⟨a, rfl⟩, hs⟩
  | @refused batch backoff _ _ _ _ hs => exact .inr ⟨batch, backoff, 0, _, .inl rfl, hs⟩

/-- The work does not begin again. -/
theorem Change.aborted_eq_none (h : Change p t c e t' c') (ha : c'.buffer.aborted = none) :
    c.buffer.aborted = none := by
  cases h with
  | accepted _ hn => exact hn
  | ended => cases ha
  | turnedAway | called | calledLast | stopped | cut | completed | paused | exhausted | refused
  | woken => exact ha

/-- A call that fails at once leaves the buffer as it was. The entry is too large, or
    the work has ended before. -/
theorem Change.error_of_call {err : Error} (h : Change p t c e t' c') (he : e.isCall = true)
    (hf : c'.flush = .finished (.error err)) : c'.buffer = c.buffer ∧
      ((∃ size limit, err = .tooLarge size limit) ∨
        ∃ reason, c.buffer.aborted = some reason ∧
          (err = .aborted reason ∨ err = .leftBehind c.buffer.pending.size reason)) := by
  -- a call fails by itself when its entry is too large, or when the work had ended before
  cases h with
  | turnedAway _ haway =>
    cases hf
    obtain ⟨reason, ha, rfl⟩ | ⟨-, -, rfl⟩ := haway
    · exact ⟨rfl, .inr ⟨reason, ha, .inl rfl⟩⟩
    · exact ⟨rfl, .inl ⟨_, _, rfl⟩⟩
  | @accepted e b _ ha _ hb =>
    dsimp only at hf
    split at hf
    · obtain ⟨reason, hr, -⟩ := Buffer.error_of_flush hf
      simp [hb, ha] at hr
    · cases hf
  | called =>
    obtain ⟨reason, ha, rfl⟩ := Buffer.error_of_flush hf
    exact ⟨rfl, .inr ⟨reason, ha, .inl rfl⟩⟩
  | calledLast => exact ⟨rfl, .inr (Buffer.error_of_lastFlush hf)⟩
  | stopped | cut | ended | completed | paused | exhausted | refused | woken => cases he

/-- A call does not give up on entries at its beginning. -/
theorem Change.isRetryable_eq_false_of_call {err : Error} (h : Change p t c e t' c')
    (he : e.isCall = true) (hf : c'.flush = .finished (.error err)) : err.isRetryable = false := by
  obtain ⟨-, ⟨_, _, rfl⟩ | ⟨_, -, rfl | rfl⟩⟩ := h.error_of_call he hf <;> rfl

/-- A call that ends the work says so, and only such a call does. -/
theorem Change.aborted_iff {err : Error} (h : Change p t c e t' c')
    (ha : c.buffer.aborted = none) (hf : c'.flush = .finished (.error err)) :
    c'.buffer.aborted.isSome = true ↔ err.Final := by
  -- All but one of the errors leave the work as it was.
  have goes_on (hc : c'.buffer.aborted = none) (herr : ¬err.Final) :
      c'.buffer.aborted.isSome = true ↔ err.Final := by simp [hc, herr]
  cases he : e.isCall with
  | true =>
    obtain ⟨hb, ⟨size, limit, rfl⟩ | ⟨reason, hr, -⟩⟩ := h.error_of_call he hf
    · exact goes_on (hb ▸ ha) (by simp [Error.Final, Error.kind])
    · simp [ha] at hr
  | false =>
    cases h with
    | turnedAway | accepted | called | calledLast => cases he
    | stopped _ hr =>
      cases hf
      obtain ⟨-, hr⟩ | ⟨-, -, hr⟩ := hr <;> cases hr
      exact goes_on ha (by simp [Error.Final, Error.kind])
    | ended _ _ _ herr hretry =>
      cases hf
      simp [Buffer.abort, Error.final_of_isSinkFailure herr hretry]
    | exhausted =>
      cases hf
      exact goes_on ha (Error.not_final_of_isRetryable rfl)
    | refused =>
      cases hf
      exact goes_on ha (by simp [Error.Final, Error.kind])
    | cut | completed | paused | woken => cases hf

/-- A flush that fails for lack of attempts, or as it has found the writer closed,
    keeps all that it has not delivered. -/
theorem Kept.of_spared {c₀ : Course} {ds : List Entry} {err : Error} (hk : c₀.Kept c ds)
    (h : Change p t c e t' c') (he : e.isCall = false)
    (hf : c'.flush = .finished (.error err))
    (herr : err.isRetryable = true ∨ (err = .closed ∧ e = .look true)) :
    c'.buffer.aborted = c.buffer.aborted ∧ ∃ ds', c₀.Kept c' ds' := by
  -- a batch is lost only with an error that ends the work, or when it is refused
  cases h with
  | turnedAway | accepted | called | calledLast => cases he
  | stopped hl => exact ⟨rfl, ds, hk.of_held_eq rfl (by simp [Course.held, hl, Flush.batch])⟩
  | ended _ _ _ hsink hretry =>
    cases hf
    rcases herr with hr | ⟨rfl, -⟩
    · simp [hr] at hretry
    · cases hsink
  | exhausted hs hsettled =>
    exact ⟨rfl, _, hk.settle hs hsettled.fate rfl (by simp [Course.held, Flush.batch])⟩
  | refused =>
    cases hf
    obtain hr | ⟨-, he⟩ := herr
    · cases hr
    · cases he
  | cut | completed | paused | woken => cases hf

/-! ## All events of a call -/

/-- As long as the work goes on, nothing is counted as failed. -/
theorem get_of_run {es : List Event} (hw : c.Working) (h : run p es (t, c) = some (t', c'))
    (ha : c'.buffer.aborted = none) {k : Counter} (hk : k.countsFailures = true) :
    t'.get k = t.get k := by
  refine (run_induction
    (motive := fun _ t' c' => c'.Working ∧ (c'.buffer.aborted = none → t'.get k = t.get k))
    ⟨hw, fun _ => rfl⟩ ?_ h).2 ha
  intro es e t₁ c₁ t₂ c₂ _ ⟨hw₁, ih⟩ hstep
  have hch := change_of_step hw₁ hstep
  refine ⟨hch.working hw₁, fun ha₂ => ?_⟩
  rw [← ih (hch.aborted_eq_none ha₂)]
  obtain rfl | ⟨_, _, _, _, -, hs⟩ := settle_of_step hstep
  · rfl
  · exact (Buffer.counted_of_settle hs).1 ha₂ k hk

/-- A call on a buffer on which no flush is under way is over. -/
theorem isIdle_eq_false_of_run {es : List Event} (hw : c.Working) (hne : es ≠ [])
    (hes : ∀ e ∈ es, e.isCall = false) (h : run p es (t, c) = some (t', c')) :
    c.isIdle = false := by
  cases es with
  | nil => exact absurd rfl hne
  | cons e es =>
    obtain ⟨⟨t₁, c₁⟩, h₁, -⟩ := Option.bind_eq_some_iff.1 h
    exact (change_of_step hw h₁).isIdle_eq_false (hes e (List.mem_cons_self ..))

/-- The flush of a call on `c` is under way, in `c₁`, the events since the call being
    `es`. What waited in `c`, and is written by the call, was held when the flush
    began, in `c₀`. Of this, `ds` is delivered. -/
structure Underway (p : Policy) (t : Tally) (c : Course) (call : Event) (es : List Event)
    (t₁ : Tally) (c₁ c₀ : Course) (ds : List Entry) : Prop where
  /-- The call began when no other was under way. -/
  idle : c.isIdle = true
  /-- The call and the events so far have led to `c₁`. -/
  run : Course.run p (call :: es) (t, c) = some (t₁, c₁)
  /-- The work has not ended. -/
  aborted : c₁.buffer.aborted = none
  /-- The call by itself delivers nothing. -/
  delivered : c₀.ledger.delivered = c.ledger.delivered
  /-- What waited, and what the call writes, is held in its order. -/
  held : c₀.held = c.buffer.pending.toList ++ call.written
  /-- Of that, nothing was lost. -/
  kept : c₀.Kept c₁ ds

/-- Between calls no flush is under way, so nothing is asked of the work. -/
theorem working_of_isIdle (hi : c.isIdle = true) : c.Working := fun hbusy => by
  simp [hi] at hbusy

/-- A call is over at once, or by an event before which its flush was under way. -/
theorem last_of_run {call : Event} {es : List Event} (hi : c.isIdle = true)
    (hcall : call.isCall = true) (hes : ∀ e ∈ es, e.isCall = false)
    (h : run p (call :: es) (t, c) = some (t', c')) :
    (es = [] ∧ Change p t c call t' c') ∨
      ∃ es' e t₁ c₁ c₀ ds, es = es' ++ [e] ∧ Underway p t c call es' t₁ c₁ c₀ ds ∧
        Change p t₁ c₁ e t' c' := by
  have hw := working_of_isIdle hi
  obtain ⟨⟨t₀, c₀⟩, h₀, hrun⟩ := Option.bind_eq_some_iff.1 h
  have hch₀ := change_of_step hw h₀
  have hw₀ := hch₀.working hw
  rcases List.eq_nil_or_concat es with rfl | ⟨es, e, rfl⟩
  · cases hrun
    exact .inl ⟨rfl, hch₀⟩
  have hbusy := isIdle_eq_false_of_run hw₀ (by simp) hes hrun
  rw [List.concat_eq_append] at hes hrun ⊢
  rw [List.forall_mem_append, List.forall_mem_singleton] at hes
  rw [run_append] at hrun
  obtain ⟨⟨t₁, c₁⟩, hrun₁, h₁⟩ := Option.bind_eq_some_iff.1 hrun
  obtain ⟨⟨t₂, c₂⟩, h₂, h₃⟩ := Option.bind_eq_some_iff.1 h₁
  cases h₃
  have hw₁ := (change_induction (motive := fun _ _ _ => True) hw₀ trivial
    (fun _ _ _ => trivial) hrun₁).1
  have hch := change_of_step hw₁ h₂
  have hbusy₁ := hch.isIdle_eq_false hes.2
  -- All is kept until then.
  obtain ⟨ds, hk⟩ := (flushed_of_run hw₀ hes.1 hrun₁).kept_of_isIdle hbusy₁
  obtain ⟨hd, hidle | hheld⟩ := hch₀.held_of_call hcall
  · simp [hbusy] at hidle
  · exact .inr ⟨es, e, t₁, c₁, c₀, ds, rfl,
      ⟨hi, by rw [run, h₀, Option.bind_some, hrun₁], hw₁ hbusy₁, hd, hheld, hk⟩, hch⟩

/-- The error with which a call on `c` has ended, in `c'`, says how the work stands.
    The events since it began are `es`. -/
structure Candid (t : Tally) (c : Course) (call : Event) (es : List Event) (err : Error)
    (t' : Tally) (c' : Course) : Prop where
  /-- The work has ended if and only if the error is final. -/
  ended : c'.buffer.aborted.isSome = true ↔ err.Final
  /-- If the error is retryable, or the flush has found the writer closed, then the
      work goes on, nothing is counted as failed, and nothing is dropped. -/
  spared : err.isRetryable = true ∨ (err = .closed ∧ es.getLast? = some (.look true)) →
    c'.buffer.aborted = none ∧ (∀ k, k.countsFailures = true → t'.get k = t.get k) ∧
      c.Spares (c.buffer.pending.toList ++ call.written) [] c'

/-- The error of a call on a buffer whose work has not ended says how the work stands. -/
theorem candid_of_run {call : Event} {es : List Event} {err : Error} (hi : c.isIdle = true)
    (ha : c.buffer.aborted = none) (hcall : call.isCall = true)
    (hes : ∀ e ∈ es, e.isCall = false) (h : run p (call :: es) (t, c) = some (t', c'))
    (hf : c'.flush = .finished (.error err)) : Candid t c call es err t' c' := by
  obtain ⟨rfl, hch⟩ | ⟨es, e, t₁, c₁, c₀, ds, rfl, hu, hch⟩ := last_of_run hi hcall hes h
  · -- The call has failed at once.
    refine ⟨hch.aborted_iff ha hf, ?_⟩
    rintro (hr | ⟨-, hl⟩)
    · simp [hch.isRetryable_eq_false_of_call hcall hf] at hr
    · cases hl
  · have he := hes e (List.mem_append_right _ (List.mem_singleton_self e))
    refine ⟨hch.aborted_iff hu.aborted hf, fun herr => ?_⟩
    rw [List.getLast?_concat, Option.some.injEq] at herr
    obtain ⟨ha', ds', hk⟩ := hu.kept.of_spared hch he hf herr
    have ha₂ := ha'.trans hu.aborted
    refine ⟨ha₂, fun k hk => get_of_run (working_of_isIdle hi) h ha₂ hk, ?_⟩
    have hheld : c'.held = c'.buffer.pending.toList := held_of_isIdle (by simp [isIdle, hf])
    rw [← hu.held]
    exact ⟨⟨ds', hu.delivered ▸ hk.delivered, hheld ▸ hk.perm⟩, hheld ▸ hk.held⟩

/-! ## After the work has ended -/

/-- Nothing changes after the work has ended. -/
theorem Change.unchanged {reason : String} (h : Change p t c e t' c') (hi : c.isIdle = true)
    (ha : c.buffer.aborted = some reason) :
    t' = t ∧ c'.buffer = c.buffer ∧ c'.ledger = c.ledger ∧ c'.isIdle = true := by
  cases h with
  | turnedAway => exact ⟨rfl, rfl, rfl, rfl⟩
  | accepted _ hn => simp [ha] at hn
  | called =>
    obtain ⟨hn, -⟩ | ⟨_, -, hf⟩ := c.buffer.flush_cases
    · simp [ha] at hn
    · exact ⟨rfl, rfl, rfl, by simp [isIdle, hf]⟩
  | calledLast =>
    obtain ⟨hn, -⟩ | ⟨_, hf⟩ := c.buffer.lastFlush_cases
    · simp [ha] at hn
    · exact ⟨rfl, rfl, rfl, by simp [isIdle, hf]⟩
  | stopped hf | cut hf | ended hf | completed hf | paused hf | exhausted hf | refused hf
  | woken hf => simp [isIdle, hf] at hi

/-- Once the work has ended, no event changes anything but the flush. -/
theorem unchanged_of_run {reason : String} {es : List Event} (hi : c.isIdle = true)
    (ha : c.buffer.aborted = some reason) (h : run p es (t, c) = some (t', c')) :
    t' = t ∧ c'.buffer = c.buffer ∧ c'.ledger = c.ledger := by
  have hw := working_of_isIdle hi
  obtain ⟨-, ht, hb, hl, -⟩ := change_induction
    (motive := fun _ t' c' =>
      t' = t ∧ c'.buffer = c.buffer ∧ c'.ledger = c.ledger ∧ c'.isIdle = true)
    hw ⟨rfl, rfl, rfl, hi⟩ (fun _ ⟨ht, hb, hl, hi⟩ hch => by
      obtain ⟨ht', hb', hl', hi'⟩ := hch.unchanged hi (hb ▸ ha)
      exact ⟨ht'.trans ht, hb'.trans hb, hl'.trans hl, hi'⟩) h
  exact ⟨ht, hb, hl⟩

/-- A call that is not the last one fails with the reason for which the work has
    ended. -/
theorem step_of_aborted {reason : String} (hi : c.isIdle = true)
    (ha : c.buffer.aborted = some reason) (he : e.isCall = true) (hl : e ≠ .lastFlush)
    (t : Tally) :
    c.step p t e = some (t, { c with flush := .finished (.error (.aborted reason)) }) := by
  cases e with
  | write e => simp [step, hi, write, Buffer.write, Buffer.usable, ha]
  | flush => simp [step, hi, Buffer.flush, Buffer.usable, ha]
  | lastFlush => exact absurd rfl hl
  | look | answer | refuse | wake => cases he

/-- So do any number of calls, and nothing else changes. -/
theorem run_of_aborted {reason : String} {calls : List Event} (hi : c.isIdle = true)
    (ha : c.buffer.aborted = some reason) (hne : calls ≠ [])
    (hcalls : ∀ e ∈ calls, e.isCall = true ∧ e ≠ .lastFlush) (t : Tally) :
    run p calls (t, c) =
      some (t, { c with flush := .finished (.error (.aborted reason)) }) := by
  induction calls generalizing c with
  | nil => exact absurd rfl hne
  | cons e es ih =>
    rw [List.forall_mem_cons] at hcalls
    rw [run, step_of_aborted hi ha hcalls.1.1 hcalls.1.2, Option.bind_some]
    cases es with
    | nil => rfl
    | cons e' es =>
      exact ih (c := { c with flush := .finished (.error (.aborted reason)) }) rfl ha
        (List.cons_ne_nil e' es) hcalls.2

/-! ## What errors say -/

/-- Whatever has happened to a buffer on which no flush is under way, and whatever
    the client answers: while the work goes on, the error of a call says whether it
    still does afterwards. Once the work has ended, each call fails for good, and
    nothing is sent nor does anything else change. -/
theorem retryability_of_run (p : Policy) (t : Tally) (c : Course) (hi : c.isIdle = true) :
    (c.buffer.aborted = none → ∀ call es err t' c', call.isCall = true →
      (∀ e ∈ es, e.isCall = false) → run p (call :: es) (t, c) = some (t', c') →
      c'.flush = .finished (.error err) → Candid t c call es err t' c') ∧
    ∀ reason, c.buffer.aborted = some reason → ∀ calls, calls ≠ [] →
      (∀ e ∈ calls, e.isCall = true ∧ e ≠ .lastFlush) →
      ∃ err c', run p calls (t, c) = some (t, c') ∧ c'.flush = .finished (.error err) ∧
        err.kind = .sink ∧ err.isRetryable = false ∧
        c'.buffer = c.buffer ∧ c'.ledger = c.ledger := by
  refine ⟨fun ha call es err t' c' hcall hes h hf => candid_of_run hi ha hcall hes h hf,
    fun reason ha calls hne hcalls => ?_⟩
  exact ⟨_, _, run_of_aborted hi ha hne hcalls t, rfl, rfl, rfl, rfl, rfl⟩

/-- Of two entries, the first is delivered. The second waits when no attempt is left,
    or its batch fails for good, after which there is nothing more to be done. -/
theorem retryability_of_run_two :
    let settings : WriterSettings := { maxBatchSize := 1, retry := { maxAttempts := 0 } }
    let c : Course :=
      Course.write (Course.write { buffer := { settings } } { id := "a" }) { id := "b" }
    let es : List Event :=
      [.look false, .answer (.ok {}) 0.5, .look false,
        .answer (.error { category := .transport, message := "lost" }) 0.5]
    let es' : List Event :=
      [.look false, .answer (.ok {}) 0.5, .look false,
        .answer (.error { category := .resourceNotFound, message := "gone" }) 0.5]
    let calls : List Event := [.write { id := "c" }, .flush]
    ∃ err₁ t₁ c₁ err₂ t₂ c₂ err₃ c₃,
      (run {} (.flush :: es) ({}, c) = some (t₁, c₁) ∧ err₁.isRetryable = true ∧
        Candid {} c .flush es err₁ t₁ c₁) ∧
      (run {} (.flush :: es') ({}, c) = some (t₂, c₂) ∧ c₂.buffer.aborted.isSome = true ∧
        Candid {} c .flush es' err₂ t₂ c₂) ∧
      (run {} calls (t₂, c₂) = some (t₂, c₃) ∧ c₃.flush = .finished (.error err₃) ∧
        err₃.kind = .sink ∧ err₃.isRetryable = false ∧ c₃.buffer = c₂.buffer ∧
        c₃.ledger = c₂.ledger) := by
  intro settings c es es' calls
  have hes : ∀ e ∈ es, e.isCall = false := by simp [es, Event.isCall]
  have hes' : ∀ e ∈ es', e.isCall = false := by simp [es', Event.isCall]
  have hcalls : ∀ e ∈ calls, e.isCall = true ∧ e ≠ .lastFlush := by simp [calls, Event.isCall]
  have hrun₁ : (run {} (.flush :: es) ({}, c)).map
      (·.2.flush.error?.map fun e => (e.kind, e.isRetryable)) = some (some (.sink, true)) := by
    decide +kernel
  have hrun₂ : (run {} (.flush :: es') ({}, c)).map
      (·.2.flush.error?.map fun e => (e.kind, e.isRetryable)) = some (some (.sink, false)) := by
    decide +kernel
  obtain ⟨⟨t₁, c₁⟩, h₁, hc₁⟩ := Option.map_eq_some_iff.1 hrun₁
  obtain ⟨⟨t₂, c₂⟩, h₂, hc₂⟩ := Option.map_eq_some_iff.1 hrun₂
  obtain ⟨err₁, hf₁, herr₁⟩ := Option.map_eq_some_iff.1 hc₁
  obtain ⟨err₂, hf₂, herr₂⟩ := Option.map_eq_some_iff.1 hc₂
  have hfinal : err₂.Final := .inr (Prod.mk.inj herr₂)
  have hcandid₁ := (retryability_of_run {} {} c rfl).1 rfl .flush es err₁ t₁ c₁ rfl hes h₁
    (Flush.eq_of_error? hf₁)
  have hcandid₂ := (retryability_of_run {} {} c rfl).1 rfl .flush es' err₂ t₂ c₂ rfl hes' h₂
    (Flush.eq_of_error? hf₂)
  have hended := hcandid₂.ended.2 hfinal
  obtain ⟨reason, hreason⟩ := Option.isSome_iff_exists.1 hended
  have hi₂ : c₂.isIdle = true := by rw [isIdle, Flush.eq_of_error? hf₂]
  obtain ⟨err₃, c₃, h₃⟩ := (retryability_of_run {} t₂ c₂ hi₂).2 reason hreason calls
    (List.cons_ne_nil _ _) hcalls
  exact ⟨err₁, t₁, c₁, err₂, t₂, c₂, err₃, c₃, ⟨h₁, (Prod.mk.inj herr₁).2, hcandid₁⟩,
    ⟨h₂, hended, hcandid₂⟩, h₃⟩

end Course

end Outbox
