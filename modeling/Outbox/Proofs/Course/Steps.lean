import Mathlib.Data.List.Induction
import Outbox.Proofs.Course.Fate
import Outbox.Proofs.Sizes

/-!
# The steps of a course

What an event does to a buffer, its flush, its ledger and the tally
(`Course.Change`). A batch that is answered meets its fate, which the ledger
records. The tally counts it if no two entries of the batch have the same id
(`Policy.Settled`).

* `Course.change_of_step`: every step is such a change, provided that no flush
  is under way after the work has ended (`Course.Working`).
* `Course.Change.working`: this is always so.
* `Course.run_induction`: what holds at the start and is kept by every step
  holds after every run, also of the events so far.
* `Course.change_induction`: the same of what is kept by every change.
-/

namespace Outbox

/-! ## Calls on a buffer -/

/-- A buffer is created empty. -/
theorem Buffer.eq_of_create {settings : WriterSettings} {failOnError : Bool} {b : Buffer}
    (h : create settings failOnError = .ok b) : b = { settings } := by
  unfold create at h
  split at h
  · cases h
  · split at h <;> cases h
    rfl

/-- A flush looks at the buffer first, or fails at once when the work has ended. -/
theorem Buffer.flush_cases (b : Buffer) :
    (b.aborted = none ∧ b.flush = .looking (.ofSettings b.settings.retry)) ∨
      ∃ reason, b.aborted = some reason ∧ b.flush = .finished (.error (.aborted reason)) := by
  unfold flush usable
  cases ha : b.aborted with
  | none => exact .inl ⟨rfl, rfl⟩
  | some reason => exact .inr ⟨reason, rfl, rfl⟩

/-- The last flush looks at the buffer first, or is done at once when the work has ended. -/
theorem Buffer.lastFlush_cases (b : Buffer) :
    (b.aborted = none ∧ b.lastFlush = .looking (.ofSettings b.settings.retry)) ∨
      ∃ r, b.lastFlush = .finished r := by
  unfold lastFlush
  cases ha : b.aborted with
  | none =>
    obtain ⟨-, hf⟩ | ⟨reason, hr, -⟩ := b.flush_cases
    · exact .inl ⟨rfl, hf⟩
    · simp [ha] at hr
  | some reason =>
    right
    dsimp only
    split
    · exact ⟨_, rfl⟩
    · exact ⟨_, rfl⟩

/-- An entry is not accepted, as the work has ended or the entry is too large. -/
def Buffer.TurnsAway (b : Buffer) (e : Entry) (err : Error) : Prop :=
  (∃ reason, b.aborted = some reason ∧ err = .aborted reason) ∨
    (b.aborted = none ∧ b.settings.maxRecordBytes < e.size ∧
      err = .tooLarge e.size b.settings.maxRecordBytes)

/-- An entry is turned away, or else is put behind all that wait, which may call for a flush. -/
theorem Buffer.write_cases (b : Buffer) (e : Entry) :
    (∃ err, b.TurnsAway e err ∧ b.write e = (b, .finished (.error err))) ∨
    (b.aborted = none ∧ e.size ≤ b.settings.maxRecordBytes ∧
      b.write e =
        let b' := { b with pending := b.pending.push e }
        (b', if b'.isFull then b'.flush else .finished (.ok ()))) := by
  unfold write usable accept
  cases ha : b.aborted with
  | some reason => exact .inl ⟨_, .inl ⟨reason, ha, rfl⟩, rfl⟩
  | none =>
    by_cases hs : b.settings.maxRecordBytes < e.size
    · exact .inl ⟨_, .inr ⟨ha, hs, rfl⟩, by simp [hs]⟩
    · exact .inr ⟨rfl, by omega, by simp [hs]⟩

/-- A queue into which nothing is put back is as before. -/
theorem Queue.prepend_nil {α : Type} (q : Queue α) : q.prepend [] = q := by
  cases q
  simp [prepend]

/-- The buffer puts back what it is handed back. -/
theorem Buffer.putBack_cases (b : Buffer) (t : Tally) (residual : List Entry) (backoff : Backoff)
    (draw : Float) :
    let b' := { b with pending := b.pending.prepend residual }
    let t' := t.add .retries residual.length.toUInt64
    (∃ pause next, backoff.next draw = (some pause, next) ∧
      b.putBack t residual backoff draw = (b', t', .pausing pause next)) ∨
    (∃ next, backoff.next draw = (none, next) ∧
      b.putBack t residual backoff draw =
        (b', t', .finished (.error (.exhausted residual.length)))) := by
  unfold putBack
  rcases hn : backoff.next draw with ⟨_ | pause, next⟩
  · exact .inr ⟨next, rfl, rfl⟩
  · exact .inl ⟨pause, next, rfl, rfl⟩

/-- What becomes of a buffer and its flush does not depend on the tally. -/
theorem Buffer.settle_tally (b : Buffer) (t u : Tally) (batch : List Entry) (backoff : Backoff)
    (draw : Float) (r : Reply) : ∃ b' t' u' f, b.settle t batch backoff draw r = (b', t', f) ∧
      b.settle u batch backoff draw r = (b', u', f) := by
  -- no branch is decided by the tally
  unfold settle
  cases r.result with
  | error e =>
    unfold fail
    dsimp only
    split
    · exact ⟨_, _, _, _, rfl, rfl⟩
    · exact ⟨_, _, _, _, rfl, rfl⟩
  | ok o =>
    dsimp only
    split
    · exact ⟨_, _, _, _, rfl, rfl⟩
    · split
      · exact ⟨_, _, _, _, rfl, rfl⟩
      · unfold putBack
        dsimp only
        split
        · exact ⟨_, _, _, _, rfl, rfl⟩
        · exact ⟨_, _, _, _, rfl, rfl⟩

namespace Course

variable {p : Policy} {t t' : Tally} {c c' : Course} {e : Event}

/-- What it takes for an event to happen, and what becomes of the course then. -/
inductive Takes (p : Policy) (t : Tally) (c : Course) : Event → Tally → Course → Prop
  /-- A call begins when no other one is under way. -/
  | write {e : Entry} : c.isIdle = true → Takes p t c (.write e) t (c.write e)
  | flush : c.isIdle = true → Takes p t c .flush t { c with flush := c.buffer.flush }
  | lastFlush : c.isIdle = true → Takes p t c .lastFlush t { c with flush := c.buffer.lastFlush }
  /-- Nothing is left to flush, or the writer is found closed. -/
  | stopped {closed : Bool} {backoff : Backoff} {r : Except Error Unit} :
      c.flush = .looking backoff →
      ((c.buffer.pending.toList = [] ∧ r = .ok ()) ∨
        (c.buffer.pending.toList ≠ [] ∧ closed = true ∧ r = .error .closed)) →
      Takes p t c (.look closed) t { c with flush := .finished r }
  /-- A batch is cut off the buffer. -/
  | cut {backoff : Backoff} {batch : List Entry} {rest : Queue Entry} :
      c.flush = .looking backoff → c.buffer.pending.toList ≠ [] →
      cut c.buffer.settings.maxBatchSize c.buffer.settings.maxBatchBytes c.buffer.pending =
        (batch, rest) →
      Takes p t c (.look false) t {
        buffer := { c.buffer with pending := rest }
        flush := .submitting batch backoff
        ledger := { c.ledger with submitted := batch :: c.ledger.submitted } }
  /-- The reply to the batch that is out is settled. -/
  | answered {a : Answer} {draw : Float} {batch : List Entry} {backoff : Backoff} {b : Buffer}
      {t' : Tally} {f : Flush} : c.flush = .submitting batch backoff →
      c.buffer.settle t batch backoff draw (p.reply batch a) = (b, t', f) →
      Takes p t c (.answer a draw) t'
        { buffer := b, flush := f, ledger := record p c.ledger batch a c.buffer b f }
  /-- The refusal of the batch that is out is settled. -/
  | refused {batch : List Entry} {backoff : Backoff} {b : Buffer} {t' : Tally} {f : Flush} :
      c.flush = .submitting batch backoff →
      c.buffer.settle t batch backoff 0 (.failure .closed) = (b, t', f) →
      Takes p t c .refuse t' { c with buffer := b, flush := f }
  /-- A pause ends. -/
  | woken {pause : Span} {backoff : Backoff} : c.flush = .pausing pause backoff →
      Takes p t c .wake t { c with flush := .looking backoff }

/-- An event happens if it has what it takes. -/
theorem step_eq_some_iff : c.step p t e = some (t', c') ↔ Takes p t c e t' c' := by
  have hne : c.buffer.pending.isEmpty = false ↔ c.buffer.pending.toList ≠ [] := by
    rw [Ne, ← Queue.isEmpty_iff, Bool.not_eq_true]
  constructor
  · intro h
    cases e with
    | write | flush | lastFlush =>
      obtain ⟨hi, h⟩ := Option.ite_none_right_eq_some.1 h
      cases h
      constructor
      exact hi
    | look closed =>
      cases hf : c.flush <;> simp only [step, hf, reduceCtorEq] at h
      cases h
      unfold Buffer.look
      cases he : c.buffer.pending.isEmpty with
      | true => exact .stopped hf (.inl ⟨Queue.isEmpty_iff.1 he, rfl⟩)
      | false =>
        cases closed with
        | true => exact .stopped hf (.inr ⟨hne.1 he, rfl, rfl⟩)
        | false => exact .cut hf (hne.1 he) rfl
    | answer | refuse | wake =>
      -- each of these takes a flush at the right stage
      cases hf : c.flush <;> simp only [step, hf, reduceCtorEq] at h
      cases h
      constructor <;> first | exact hf | rfl
  · intro h
    cases h with
    | write hi | flush hi | lastFlush hi => exact if_pos hi
    | stopped hf hs =>
      obtain ⟨he, rfl⟩ | ⟨he, rfl, rfl⟩ := hs
      · simp [step, hf, Buffer.look, Queue.isEmpty_iff.2 he]
      · simp [step, hf, Buffer.look, hne.2 he]
    | cut hf he hc => simp [step, hf, Buffer.look, hne.2 he, hc]
    | answered hf hs | refused hf hs => simp only [step, hf, hs]
    | woken hf => simp only [step, hf]

/-- What becomes of a course does not depend on the tally. -/
theorem step_tally (h : c.step p t e = some (t', c')) (u : Tally) :
    ∃ u', c.step p u e = some (u', c') := by
  simp only [step_eq_some_iff] at h ⊢
  cases h with
  | write hi => exact ⟨u, .write hi⟩
  | flush hi => exact ⟨u, .flush hi⟩
  | lastFlush hi => exact ⟨u, .lastFlush hi⟩
  | stopped hf hs => exact ⟨u, .stopped hf hs⟩
  | cut hf he hc => exact ⟨u, .cut hf he hc⟩
  | @answered a draw batch backoff _ _ _ hf hs =>
    obtain ⟨b, _, u', f, ht, hu⟩ :=
      c.buffer.settle_tally t u batch backoff draw (p.reply batch a)
    cases hs.symm.trans ht
    exact ⟨u', .answered hf hu⟩
  | @refused batch backoff _ _ _ hf hs =>
    obtain ⟨b, _, u', f, ht, hu⟩ := c.buffer.settle_tally t u batch backoff 0 (.failure .closed)
    cases hs.symm.trans ht
    exact ⟨u', .refused hf hu⟩
  | woken hf => exact ⟨u, .woken hf⟩

/-- No flush is under way after the work has ended. -/
def Working (c : Course) : Prop := c.isIdle = false → c.buffer.aborted = none

/-! ## Changes -/

/-- What an event does to a course and the tally. -/
inductive Change (p : Policy) (t : Tally) (c : Course) : Event → Tally → Course → Prop
  /-- The entry is not accepted. -/
  | turnedAway {e : Entry} {err : Error} : c.isIdle = true → c.buffer.TurnsAway e err →
      Change p t c (.write e) t { c with flush := .finished (.error err) }
  /-- The entry is accepted, which begins a flush if the buffer gets full. -/
  | accepted {e : Entry} {b : Buffer} : c.isIdle = true → c.buffer.aborted = none →
      e.size ≤ c.buffer.settings.maxRecordBytes →
      b = { c.buffer with pending := c.buffer.pending.push e } →
      Change p t c (.write e) t {
        buffer := b
        flush := if b.isFull then b.flush else .finished (.ok ())
        ledger := { c.ledger with accepted := c.ledger.accepted ++ [e] } }
  /-- A flush is called for. -/
  | called : c.isIdle = true → Change p t c .flush t { c with flush := c.buffer.flush }
  /-- The last flush is called for. -/
  | calledLast : c.isIdle = true → Change p t c .lastFlush t { c with flush := c.buffer.lastFlush }
  /-- Nothing is left to flush, or the writer is found closed. -/
  | stopped {closed : Bool} {backoff : Backoff} {r : Except Error Unit} :
      c.flush = .looking backoff →
      ((c.buffer.pending.toList = [] ∧ r = .ok ()) ∨
        (c.buffer.pending.toList ≠ [] ∧ closed = true ∧ r = .error .closed)) →
      Change p t c (.look closed) t { c with flush := .finished r }
  /-- A batch is cut off the buffer. -/
  | cut {backoff : Backoff} {batch : List Entry} {rest : Queue Entry} :
      c.flush = .looking backoff → c.buffer.pending.toList ≠ [] →
      cut c.buffer.settings.maxBatchSize c.buffer.settings.maxBatchBytes c.buffer.pending =
        (batch, rest) →
      Change p t c (.look false) t {
        buffer := { c.buffer with pending := rest }
        flush := .submitting batch backoff
        ledger := { c.ledger with submitted := batch :: c.ledger.submitted } }
  /-- The batch, or a part of it, is lost, which ends the work. -/
  | ended {t' : Tally} {batch delivered lost : List Entry} {backoff : Backoff} {a : Answer}
      {draw : Float} {err : Error} : c.flush = .submitting batch backoff →
      p.Ends batch a delivered lost → p.Settled batch a delivered [] lost t t' →
      err.isSinkFailure = true → err.isRetryable = false →
      (p.reply batch a).handedBack = none →
      Change p t c (.answer a draw) t' {
        buffer := c.buffer.abort err
        flush := .finished (.error err)
        ledger := c.ledger.settle p batch delivered [] lost }
  /-- Nothing is handed back. -/
  | completed {t' : Tally} {batch delivered : List Entry} {backoff : Backoff} {a : Answer}
      {draw : Float} : c.flush = .submitting batch backoff →
      p.Settled batch a delivered [] [] t t' → (p.reply batch a).handedBack = some [] →
      Change p t c (.answer a draw) t' {
        c with
        flush := .looking backoff.reset
        ledger := c.ledger.settle p batch delivered [] [] }
  /-- Some entries are put back, for another attempt after a pause. -/
  | paused {t' : Tally} {batch delivered residual : List Entry} {backoff next : Backoff}
      {pause : Span} {a : Answer} {draw : Float} : c.flush = .submitting batch backoff →
      p.Settled batch a delivered residual [] t t' → residual ≠ [] →
      backoff.next draw = (some pause, next) → (p.reply batch a).handedBack = some residual →
      Change p t c (.answer a draw) t' {
        buffer := { c.buffer with pending := c.buffer.pending.prepend residual }
        flush := .pausing pause next
        ledger := { c.ledger.settle p batch delivered residual [] with
          pauses := c.ledger.pauses + 1 } }
  /-- Some entries are put back, and no attempt is left. -/
  | exhausted {t' : Tally} {batch delivered residual : List Entry} {backoff next : Backoff}
      {a : Answer} {draw : Float} : c.flush = .submitting batch backoff →
      p.Settled batch a delivered residual [] t t' → residual ≠ [] →
      backoff.next draw = (none, next) → (p.reply batch a).handedBack = some residual →
      Change p t c (.answer a draw) t' {
        buffer := { c.buffer with pending := c.buffer.pending.prepend residual }
        flush := .finished (.error (.exhausted residual.length))
        ledger := c.ledger.settle p batch delivered residual [] }
  /-- The batch is refused. -/
  | refused {batch : List Entry} {backoff : Backoff} : c.flush = .submitting batch backoff →
      Change p t c .refuse t { c with flush := .finished (.error .closed) }
  /-- The pause is over. -/
  | woken {pause : Span} {backoff : Backoff} : c.flush = .pausing pause backoff →
      Change p t c .wake t { c with flush := .looking backoff }

/-- An entry is written. -/
theorem change_write (hi : c.isIdle = true) (e : Entry) :
    Change p t c (.write e) t (c.write e) := by
  obtain ⟨err, hr, hw⟩ | ⟨ha, hs, hw⟩ := c.buffer.write_cases e
  · have hc : c.write e = { c with flush := .finished (.error err) } := by simp [write, hw]
    exact hc ▸ .turnedAway hi hr
  · have hc : c.write e = {
        buffer := { c.buffer with pending := c.buffer.pending.push e }
        flush := if Buffer.isFull { c.buffer with pending := c.buffer.pending.push e } then
          Buffer.flush { c.buffer with pending := c.buffer.pending.push e } else .finished (.ok ())
        ledger := { c.ledger with accepted := c.ledger.accepted ++ [e] } } := by
      simp [write, hw, Queue.push]
    exact hc ▸ .accepted hi ha hs rfl

/-! ### Answers -/

section Answer

variable {batch : List Entry} {backoff : Backoff} {a : Answer} {draw : Float}

/-- What an answer makes of a course, in terms of how the buffer settles it. -/
theorem step_answer {b : Buffer} {t₁ : Tally} {f : Flush} (hf : c.flush = .submitting batch backoff)
    (hs : c.buffer.settle t batch backoff draw (p.reply batch a) = (b, t₁, f))
    (h : c.step p t (.answer a draw) = some (t', c')) :
    t' = t₁ ∧
      c' = { buffer := b, flush := f, ledger := record p c.ledger batch a c.buffer b f } := by
  simp only [step, hf, hs, Option.some.injEq, Prod.mk.injEq] at h
  exact ⟨h.1.symm, h.2.symm⟩

/-- The part of a batch that is handed back decides how the flush goes on. -/
theorem change_handedBack {delivered residual : List Entry} {o : Outcome}
    (hf : c.flush = .submitting batch backoff) (hfate : p.Fate batch a delivered residual [])
    (hr : p.reply batch a = ⟨.ok o, some residual⟩) (hod : o.delivered = delivered.length)
    (hor : o.rejected = []) (h : c.step p t (.answer a draw) = some (t', c')) :
    Change p t c (.answer a draw) t' c' := by
  -- What is delivered is counted before it is known whether all of it was.
  set t₁ := (t.add .recordsOut o.delivered.toUInt64).add .bytesOut
    ((Sizes.ofBatch batch).without (residual.map (·.id) ++ [])).toUInt64 with ht₁
  have htally (hids : (batch.map (·.id)).Nodup) :
      t.settle delivered residual [] = t₁.add .retries residual.length.toUInt64 := by
    have hbatch : (delivered ++ residual).Perm batch := by simpa using hfate.perm
    rw [Tally.settle_kept, ht₁, hod, Sizes.without_ofBatch hids hbatch (by simp)]
  by_cases hne : residual = []
  · subst hne
    have hs : c.buffer.settle t batch backoff draw (p.reply batch a) =
        (c.buffer, t₁, .looking backoff.reset) := by
      rw [hr]
      simp only [Buffer.settle, hor]
      rfl
    obtain ⟨rfl, rfl⟩ := step_answer hf hs h
    have hrec := record_kept (l := c.ledger) (b := c.buffer) (f := .looking backoff.reset) hfate
    rw [Queue.prepend_nil] at hrec
    exact hrec ▸ .completed hf ⟨hfate, fun hids => by simp [htally hids]⟩ (by rw [hr])
  · have hs : c.buffer.settle t batch backoff draw (p.reply batch a) =
        c.buffer.putBack t₁ residual backoff draw := by
      rw [hr]
      simp only [Buffer.settle, hor]
      simp [t₁, hne]
    obtain ⟨pause, next, hn, hp⟩ | ⟨next, hn, hp⟩ :=
      c.buffer.putBack_cases t₁ residual backoff draw
    · obtain ⟨rfl, rfl⟩ := step_answer hf (hs.trans hp) h
      exact record_kept hfate ▸
        .paused hf ⟨hfate, fun hids => (htally hids).symm⟩ hne hn (by rw [hr])
    · obtain ⟨rfl, rfl⟩ := step_answer hf (hs.trans hp) h
      exact record_kept hfate ▸
        .exhausted hf ⟨hfate, fun hids => (htally hids).symm⟩ hne hn (by rw [hr])

/-- A batch that failed for good is lost. -/
theorem change_failed {err : Error} (hf : c.flush = .submitting batch backoff)
    (ha : c.buffer.aborted = none) (hends : p.Ends batch a [] batch)
    (hr : p.reply batch a = .failure err) (herr : err.isSinkFailure = true)
    (hretry : err.isRetryable = false)
    (h : c.step p t (.answer a draw) = some (t', c')) : Change p t c (.answer a draw) t' c' := by
  have hs : c.buffer.settle t batch backoff draw (p.reply batch a) =
      (c.buffer.abort err, t.settle [] [] batch, .finished (.error err)) := by
    rw [hr, Tally.settle_lost]
    simp only [Buffer.settle, Reply.failure, Buffer.fail, herr, if_true]
  obtain ⟨rfl, rfl⟩ := step_answer hf hs h
  rw [record_ended ha hends]
  exact .ended hf hends ⟨.ended hends, fun _ => rfl⟩ herr hretry (by rw [hr, Reply.failure])

/-- The entries of a batch that are rejected are lost. -/
theorem change_rejected {r : Receipt} {rs : List Rejection}
    (hf : c.flush = .submitting batch backoff) (ha : c.buffer.aborted = none)
    (hends : p.Ends batch a (r.accepted batch) (r.rejected batch))
    (hrs : rs = Policy.firstOfEach (.ofList ((r.rejected batch).map (·.id))) r.rejections)
    (hne : rs ≠ [])
    (hr : p.reply batch a =
      ⟨.ok { delivered := (r.accepted batch).length, rejected := rs }, none⟩)
    (h : c.step p t (.answer a draw) = some (t', c')) : Change p t c (.answer a draw) t' c' := by
  set t₁ := (t.add .recordsOut (r.accepted batch).length.toUInt64).add .bytesOut
    ((Sizes.ofBatch batch).without (rs.map (·.id))).toUInt64 with ht₁
  have hs : c.buffer.settle t batch backoff draw (p.reply batch a) =
      (c.buffer.abort (.rejected rs.length),
        (t₁.add .recordErrors rs.length.toUInt64).add .sendErrors rs.length.toUInt64,
        .finished (.error (.rejected rs.length))) := by
    rw [hr]
    simp [Buffer.settle, Buffer.reject, hne, t₁]
  have htally (hids : (batch.map (·.id)).Nodup) :
      (t₁.add .recordErrors rs.length.toUInt64).add .sendErrors rs.length.toUInt64 =
        t.settle (r.accepted batch) [] (r.rejected batch) := by
    -- Each entry is reported once, though it may have been rejected several times.
    have hperm : (rs.map (·.id)).Perm ((r.rejected batch).map (·.id)) :=
      hrs ▸ Policy.perm_map_id_rejected hids
    have hlen : rs.length = (r.rejected batch).length := by simpa using hperm.length_eq
    rw [ht₁, hlen, Sizes.without_ofBatch hids (r.accepted_append_rejected_perm batch) hperm]
    simp [Tally.settle]
  obtain ⟨rfl, rfl⟩ := step_answer hf hs h
  rw [record_ended ha hends]
  exact .ended hf hends ⟨.ended hends, htally⟩ rfl rfl (by rw [hr])

/-- The four replies, one by one. -/
theorem change_answer (hf : c.flush = .submitting batch backoff) (ha : c.buffer.aborted = none)
    (h : c.step p t (.answer a draw) = some (t', c')) : Change p t c (.answer a draw) t' c' := by
  have hreply := p.replied batch a
  cases hr : p.reply batch a
  rw [hr] at hreply
  -- one case for each reply a batch can get
  cases hreply with
  | failed hfail he hv =>
    refine change_failed hf ha (.failed hfail hv) hr ?_ ?_ h
    · rw [he]
      split <;> rfl
    · rw [he]
      cases hp : p.failOnError with
      | true => rfl
      | false => simp [Error.isRetryable, hv hp]
  | retried hfail hp hv =>
    exact change_handedBack hf (.retried hfail hp) hr rfl rfl h
  | handedBack hfail ha' hp =>
    exact change_handedBack hf (.handedBack hfail ha' hp) hr rfl rfl h
  | rejected hfail ha' hp hne =>
    exact change_rejected hf ha (.rejected hfail ha' hp hne) rfl
      (Policy.firstOfEach_ne_nil hne) hr h

end Answer

/-- What a step can do. -/
theorem change_of_step (hw : c.Working) (h : c.step p t e = some (t', c')) :
    Change p t c e t' c' := by
  cases step_eq_some_iff.1 h with
  | write hi => exact change_write hi _
  | flush hi => exact .called hi
  | lastFlush hi => exact .calledLast hi
  | stopped hf hs => exact .stopped hf hs
  | cut hf he hc => exact .cut hf he hc
  | answered hf => exact change_answer hf (hw (by simp [isIdle, hf])) h
  | refused hf hs =>
    -- a refusal is retryable, so that nothing is counted
    cases hs
    exact .refused hf
  | woken hf => exact .woken hf

/-- A flush begins only before the work has ended, and the work ends only with
    the flush. -/
theorem Change.working (h : Change p t c e t' c') (hw : c.Working) : c'.Working := by
  unfold Working at *
  cases h with
  | turnedAway | stopped | ended | exhausted | refused => simp [isIdle]
  | accepted hi ha hs hb => exact fun _ => hb ▸ ha
  | called hi =>
    obtain ⟨ha, -⟩ | ⟨reason, -, hf⟩ := c.buffer.flush_cases
    · exact fun _ => ha
    · simp [isIdle, hf]
  | calledLast hi =>
    obtain ⟨ha, -⟩ | ⟨r, hf⟩ := c.buffer.lastFlush_cases
    · exact fun _ => ha
    · simp [isIdle, hf]
  | cut hf | completed hf | paused hf | woken hf => exact fun _ => hw (by simp [isIdle, hf])

/-! ## Runs -/

/-- Events follow one another. -/
theorem run_append (p : Policy) (es es' : List Event) (s : Tally × Course) :
    run p (es ++ es') s = (run p es s).bind (run p es') := by
  induction es generalizing s with
  | nil => rfl
  | cons e es ih =>
    obtain ⟨t, c⟩ := s
    rw [List.cons_append, run, run, Option.bind_assoc]
    exact congrArg _ (funext ih)

/-- What holds at the start and is kept by every step holds after every run. -/
theorem run_induction {motive : List Event → Tally → Course → Prop} {s : Tally × Course}
    (nil : motive [] s.1 s.2)
    (step : ∀ {es e t c t' c'}, run p es s = some (t, c) → motive es t c →
      Course.step p t c e = some (t', c') → motive (es ++ [e]) t' c')
    {es : List Event} (h : run p es s = some (t, c)) : motive es t c := by
  induction es using List.reverseRecOn generalizing t c with
  | nil =>
    cases h
    exact nil
  | append_singleton es e ih =>
    rw [run_append, Option.bind_eq_some_iff] at h
    obtain ⟨⟨t₁, c₁⟩, h₁, h₂⟩ := h
    simp only [run, Option.bind_eq_some_iff] at h₂
    obtain ⟨⟨t₂, c₂⟩, h₂, h₃⟩ := h₂
    cases h₃
    exact step h₁ (ih h₁) h₂

/-- What holds at the start and is kept by every change holds after every run. -/
theorem change_induction {motive : List Event → Tally → Course → Prop} {s : Tally × Course}
    (hw : s.2.Working) (nil : motive [] s.1 s.2)
    (change : ∀ {es e t c t' c'}, run p es s = some (t, c) → motive es t c →
      Change p t c e t' c' → motive (es ++ [e]) t' c')
    {es : List Event} (h : run p es s = some (t, c)) : c.Working ∧ motive es t c := by
  refine run_induction (motive := fun es t c => c.Working ∧ motive es t c) ⟨hw, nil⟩ ?_ h
  intro es e t c t' c' h₁ ⟨hw₁, hm⟩ hstep
  have hchange := change_of_step hw₁ hstep
  exact ⟨hchange.working hw₁, change h₁ hm hchange⟩

end Course

end Outbox
