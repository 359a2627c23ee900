import Outbox.Proofs.Course.Joint

/-!
# Closing a buffer

A buffer is closed by a last flush, after which its writer is closed, and the result of
the flush is returned (`Shutdown`), while others go on with whatever they do on the
writer. If the work of the buffer has ended, there is no flush, but a complaint if
something is left.

No entry that is not delivered is hidden by that (`Shutdown.concluded_of_run`), in
whatever state the buffer and its writer are:

* when the result is returned, the writer is closed and its client has released what it
  holds, which it is asked to only once;
* the close succeeds exactly if nothing is left and the flush, if there was one, has not
  failed;
* if it succeeds, then every entry accepted was delivered or was part of a batch whose
  failure has been returned by an earlier call (`Shared.Reported`), be it that the work
  has ended or that the batch was refused.

Entries get lost only by a step that ends the call on the buffer with such an error
(`Course.Change.fates`), so that a flush that succeeds has lost none.

A buffer that is closed in a rehearsal is closed in one of these ways
(`Rehearsal.exists_shutdown_of_play`).
-/

namespace Outbox

open Dispatch (Traffic)

/-- If the work has ended, there is a complaint unless nothing is left. -/
theorem Buffer.lastFlush_of_aborted {b : Buffer} {reason : String} (h : b.aborted = some reason) :
    b.lastFlush = .finished (if b.pending.isEmpty then .ok ()
      else .error (.leftBehind b.pending.size reason)) := by
  simp only [lastFlush, h]
  split <;> rfl

namespace Course

variable {p : Policy} {t t' : Tally} {c₀ c c' : Course} {e : Event}

/-! ## Failures -/

/-- The batch that was out has failed, these entries with it, and so has the call. -/
def Fails (c c' : Course) (gone : List Entry) : Prop :=
  ∃ batch backoff err, c.flush = .submitting batch backoff ∧ gone ⊆ batch ∧
    c'.flush = .finished (.error err) ∧ err.isRetryable = false

/-- Entries are lost as their batch fails. -/
theorem Change.lost_cases (h : Change p t c e t' c') : c'.ledger.lost = c.ledger.lost ∨
    ∃ gone, c'.ledger.lost = c.ledger.lost ++ gone ∧ c.Fails c' gone := by
  cases h with
  | ended hf hends _ _ hretry =>
    refine .inr ⟨_, rfl, _, _, _, hf, fun d hd => ?_, rfl, hretry⟩
    exact hends.perm.mem_iff.1 (List.mem_append_right _ hd)
  | completed | paused | exhausted => exact .inl (List.append_nil _)
  | turnedAway | accepted | called | calledLast | stopped | cut | refused | woken => exact .inl rfl

/-- What was accepted is delivered or still held, unless its batch has failed. -/
theorem Change.fates (h : Change p t c e t' c') : ∃ new gone,
    c'.ledger.accepted = c.ledger.accepted ++ new ∧
      (c'.ledger.delivered ++ c'.held ++ gone).Perm (c.ledger.delivered ++ c.held ++ new) ∧
      (gone ≠ [] → c.Fails c' gone) := by
  -- the account of the holdings leaves out refusals, where the whole batch is dropped
  by_cases he : e = .refuse
  · subst he
    cases h with
    | @refused batch backoff hf =>
      refine ⟨[], batch, by simp, ?_, fun _ => ?_⟩
      · simp only [held, hf, Flush.batch, List.nil_append, List.append_nil, List.append_assoc]
        exact List.perm_append_comm.append_left _
      · exact ⟨batch, backoff, _, hf, List.Subset.refl _, rfl, rfl⟩
  · obtain ⟨new, hacc, hperm⟩ := h.holdings_perm he
    have hcount := List.perm_iff_count.1 hperm
    simp only [holdings, List.count_append] at hcount
    obtain hlost | ⟨gone, hlost, hfails⟩ := h.lost_cases
    · refine ⟨new, [], hacc, List.perm_iff_count.2 fun d => ?_, fun hne => absurd rfl hne⟩
      have := hcount d
      simp only [hlost, held, List.count_append, List.count_nil] at this ⊢
      omega
    · refine ⟨new, gone, hacc, List.perm_iff_count.2 fun d => ?_, fun _ => hfails⟩
      have := hcount d
      simp only [hlost, held, List.count_append] at this ⊢
      omega

/-! ## The last flush -/

/-- The last flush is called for. -/
def closing (c : Course) : Course := { c with flush := c.buffer.lastFlush }

/-- The last flush is called for between calls. -/
theorem closing_of_step (h : c.step p t .lastFlush = some (t', c')) :
    c.isIdle = true ∧ c' = c.closing := by
  cases step_eq_some_iff.1 h with
  | lastFlush hi => exact ⟨hi, rfl⟩

/-- If the work has ended, then the call ends at once, and succeeds exactly if nothing is
    left. -/
theorem closing_of_aborted (ha : c.buffer.aborted.isSome = true) : c.closing.isIdle = true ∧
    (c.closing.flush = .finished (.ok ()) ↔ c.buffer.pending.toList = []) := by
  obtain ⟨reason, ha⟩ := Option.isSome_iff_exists.1 ha
  have hf : c.closing.flush = _ := Buffer.lastFlush_of_aborted ha
  rw [isIdle, hf]
  refine ⟨rfl, ?_⟩
  rw [← Queue.isEmpty_iff]
  cases c.buffer.pending.isEmpty <;> simp

/-- A step of a flush accepts nothing. -/
theorem Change.accepted_eq (h : Change p t c e t' c') (he : e.isCall = false) :
    c'.ledger.accepted = c.ledger.accepted := by
  cases h with
  | turnedAway | accepted | called | calledLast => cases he
  | stopped | cut | ended | completed | paused | exhausted | refused | woken => rfl

/-- A flush that succeeds leaves nothing behind. -/
theorem Change.pending_eq_nil (h : Change p t c e t' c') (he : e.isCall = false)
    (hf : c'.flush = .finished (.ok ())) : c'.buffer.pending.toList = [] := by
  cases h with
  | stopped _ hr =>
    obtain ⟨hnil, -⟩ | ⟨-, -, rfl⟩ := hr
    · exact hnil
    · cases hf
  | turnedAway | accepted | called | calledLast => cases he
  | cut | ended | completed | paused | exhausted | refused | woken => cases hf

/-- What the last flush has made of a course. -/
structure LastFlushed (c₀ c : Course) : Prop where
  /-- The last flush was called for when no other call was under way. -/
  idle : c₀.isIdle = true
  working : c.Working
  /-- Nothing was accepted since. -/
  accepted : c.ledger.accepted = c₀.ledger.accepted
  /-- What was held at first is kept, or the flush is over. -/
  flushed : c₀.closing.Flushed c
  /-- A flush that succeeds leaves nothing. -/
  nothingLeft : c.flush = .finished (.ok ()) → c.buffer.pending.toList = []
  /-- There is no flush if the work has ended. -/
  complained : c₀.buffer.aborted.isSome = true → c = c₀.closing

/-- The last flush begins with all entries kept, or with a complaint about those left. -/
theorem lastFlushed_closing (hi : c.isIdle = true) : c.LastFlushed c.closing := by
  -- if the work has ended, the last flush has its result at once
  cases ha : c.buffer.aborted with
  | none =>
    obtain ⟨-, hf⟩ | ⟨reason, hr, -⟩ := c.buffer.flush_cases
    · have hf' : c.closing.flush = .looking (.ofSettings c.buffer.settings.retry) := by
        simp [closing, Buffer.lastFlush, ha, hf]
      exact {
        idle := hi
        working := fun _ => ha
        accepted := rfl
        flushed := .kept (.refl _)
        nothingLeft := fun h => by rw [hf'] at h; cases h
        complained := fun h => by simp [ha] at h }
    · simp [ha] at hr
  | some reason =>
    obtain ⟨hended, hok⟩ := closing_of_aborted (c := c) (by simp [ha])
    exact {
      idle := hi
      working := fun h => by simp [hended] at h
      accepted := rfl
      flushed := .kept (.refl _)
      nothingLeft := hok.1
      complained := fun _ => rfl }

/-- The last flush goes on. -/
theorem LastFlushed.of_change (hl : c₀.LastFlushed c) (h : Change p t c e t' c')
    (he : e.isCall = false) : c₀.LastFlushed c' where
  idle := hl.idle
  working := h.working hl.working
  accepted := (h.accepted_eq he).trans hl.accepted
  flushed := hl.flushed.of_change h he
  nothingLeft := h.pending_eq_nil he
  complained ha := by
    -- There is nothing to go on with.
    have hbusy := h.isIdle_eq_false he
    rw [hl.complained ha, (closing_of_aborted ha).1] at hbusy
    cases hbusy

/-- The close succeeds exactly if nothing is left and the flush, if there was one, has not
    failed. -/
theorem LastFlushed.ok_iff (hl : c₀.LastFlushed c) {r : Except Error Unit}
    (hr : c.flush = .finished r) : r = .ok () ↔ c.buffer.pending.toList = [] ∧
      (c₀.buffer.aborted = none → c.flush = .finished (.ok ())) := by
  constructor
  · rintro rfl
    exact ⟨hl.nothingLeft hr, fun _ => hr⟩
  · rintro ⟨hnil, hok⟩
    cases ha : c₀.buffer.aborted with
    | none => exact Flush.finished.inj (hr.symm.trans (hok ha))
    | some reason =>
      have hsome : c₀.buffer.aborted.isSome = true := by simp [ha]
      obtain rfl := hl.complained hsome
      exact Flush.finished.inj (hr.symm.trans ((closing_of_aborted hsome).2.2 hnil))

/-- If it succeeds, then all that was waiting is delivered. -/
theorem LastFlushed.delivered (hl : c₀.LastFlushed c) (hok : c.flush = .finished (.ok ())) :
    ∃ ds, c.ledger.delivered = c₀.ledger.delivered ++ ds ∧ ds.Perm c₀.buffer.pending.toList := by
  have hheld : c.held = [] := by rw [held, hok, hl.nothingLeft hok]; rfl
  have hflushed := hl.flushed
  cases hflushed with
  | @kept _ ds hk =>
    refine ⟨ds, hk.delivered, ?_⟩
    have hperm := hk.perm
    rw [hheld, List.append_nil] at hperm
    simpa [held, closing] using hperm
  | ended hf => rw [hok] at hf; cases hf
  | refused => cases hok

end Course

namespace Shared

variable {p : Policy} {t t' : Tally} {s s' : Shared} {e : Event} {st : Tally × Shared}
  {es : List Event}

/-! ## What was reported -/

/-- In the course of some events, a call on the buffer has failed for good, and with it the
    batch that was out, which the entry was part of. -/
def Reported (p : Policy) (st : Tally × Shared) (es : List Event) (d : Entry) : Prop :=
  ∃ es₁ e es₂ t₁ s₁ t₂ s₂ batch backoff err, es = es₁ ++ e :: es₂ ∧
    run p es₁ st = some (t₁, s₁) ∧ s₁.step p t₁ e = some (t₂, s₂) ∧
    s₁.course.flush = .submitting batch backoff ∧ d ∈ batch ∧
    s₂.course.flush = .finished (.error err) ∧ err.isRetryable = false

/-- What was returned stays returned. -/
theorem Reported.concat {d : Entry} (h : Reported p st es d) (e : Event) :
    Reported p st (es ++ [e]) d := by
  obtain ⟨es₁, e₁, es₂, t₁, s₁, t₂, s₂, batch, backoff, err, rfl, h⟩ := h
  exact ⟨es₁, e₁, es₂ ++ [e], t₁, s₁, t₂, s₂, batch, backoff, err, by simp, h⟩

/-- What happens to the course of a buffer. -/
theorem Change.course_cases (h : Change p t s e t' s') : s'.course = s.course ∨
    ∃ e', Course.Change p t s.course e' t' s'.course ∧
      (e.isCall = false → e'.isCall = false) := by
  cases h with
  | called _ hc => exact .inr ⟨_, hc, nofun⟩
  | looked hc =>
    rw [course_begin]
    exact .inr ⟨_, hc, fun _ => rfl⟩
  | refused _ _ hc | settled _ hc | woken hc => exact .inr ⟨_, hc, fun _ => rfl⟩
  | moved | other => exact .inl rfl

/-- Nothing the others do changes the course of the buffer. -/
theorem course_of_other {e : Dispatch.Event} (h : s.step p t (.other e) = some (t', s')) :
    s'.course = s.course := by
  obtain ⟨others, -, h⟩ := Option.bind_eq_some_iff.1 h
  obtain ⟨-, rfl⟩ := Prod.mk.inj (Option.some.inj h)
  rfl

/-- What was accepted is delivered or held, or its failure was reported. -/
structure Balanced (p : Policy) (st : Tally × Shared) (es : List Event) (s : Shared) : Prop where
  working : s.course.Working
  /-- Entries that are neither delivered nor held were in a batch with a reported failure. -/
  balance : ∃ failed, s.course.ledger.accepted.Perm
      (s.course.ledger.delivered ++ s.course.held ++ failed) ∧
    ∀ d ∈ failed, Reported p st es d

/-- All entries accepted remain delivered, held or reported. -/
theorem Balanced.of_step (hb : Balanced p st es s) (hrun : run p es st = some (t, s))
    (h : s.step p t e = some (t', s')) : Balanced p st (es ++ [e]) s' := by
  obtain ⟨failed, hperm, hfailed⟩ := hb.balance
  obtain hc | ⟨e', hc, -⟩ := (change_of_step hb.working h).course_cases
  · exact ⟨hc ▸ hb.working, failed, hc ▸ hperm, fun d hd => (hfailed d hd).concat e⟩
  · obtain ⟨new, gone, hacc, hfates, hfails⟩ := hc.fates
    refine ⟨hc.working hb.working, failed ++ gone, ?_, fun d hd => ?_⟩
    · rw [hacc]
      refine List.perm_iff_count.2 fun d => ?_
      have hbefore := List.perm_iff_count.1 hperm d
      have hstep := List.perm_iff_count.1 hfates d
      simp only [List.count_append] at hbefore hstep ⊢
      omega
    · rcases List.mem_append.1 hd with hd | hd
      · exact (hfailed d hd).concat e
      · obtain ⟨batch, backoff, err, hf, hsub, hf', herr⟩ := hfails (List.ne_nil_of_mem hd)
        exact ⟨es, e, [], t, s, t', s', batch, backoff, err, rfl, hrun, h, hf, hsub hd, hf', herr⟩

/-- All entries accepted are delivered, held or reported, after every run. -/
theorem balanced_of_run {b : Buffer} (hp : b.pending.toList = []) (ha : b.aborted = none)
    (h : run p es (t, { course := { buffer := b } }) = some (t', s)) :
    Balanced p (t, { course := { buffer := b } }) es s := by
  refine run_induction (motive := fun es _ s => Balanced p _ es s) ⟨fun _ => ha, [], ?_, nofun⟩
    (fun hrun hb hs => hb.of_step hrun hs) h
  simp [Course.held, Flush.batch, hp]

end Shared

/-! ## The machine -/

/-- Where the closing of a buffer stands. -/
inductive Shutdown.Stage where
  /-- It has not begun. -/
  | waiting
  /-- The last flush is under way, or has ended. -/
  | flushing
  /-- The last flush has ended with a result, and the writer is being closed by the call in
      a lane. -/
  | closing (lane : Nat) (r : Except Error Unit)
  /-- The result was returned. -/
  | returned (r : Except Error Unit)

/-- A buffer that is closed, on a writer with other calls. -/
structure Shutdown where
  shared : Shared
  stage : Shutdown.Stage := .waiting

namespace Shutdown

/-- What can happen. -/
inductive Event where
  /-- The buffer is closed, beginning with the last flush. -/
  | call
  /-- Something happens to the flush, the submission of its batch or the calls on the
      writer. -/
  | shared (e : Shared.Event)
  /-- The flush has ended, and the call that closes the writer begins in a lane. -/
  | closeWriter (lane : Nat)
  /-- The writer is closed, and the result is returned. -/
  | finish

/-- The closing call in a lane is neither given up nor followed by another call, as it is
    waited for. -/
def isKept (lane : Nat) (e : Dispatch.Event) : Bool :=
  e.lane ≠ lane || match e with
    | .go _ | .clientReleased _ => true
    | .submit _ _ | .close _ | .answer _ _ | .drop _ => false

/-- Something happens to the buffer and the calls on its writer. -/
def pass (p : Policy) (t : Tally) (d : Shutdown) (e : Shared.Event) (stage : Stage) :
    Option (Tally × Shutdown) :=
  (d.shared.step p t e).map fun (t, shared) => (t, { shared, stage })

/-- What becomes of all this by an event, if it can happen. -/
def step (p : Policy) (t : Tally) (d : Shutdown) : Event → Option (Tally × Shutdown)
  | .call =>
    match d.stage with
    | .waiting => d.pass p t (.call .lastFlush) .flushing
    | _ => none
  | .shared e =>
    match d.stage, e with
    | .flushing, e => if e.isCall then none else d.pass p t e .flushing
    | .closing lane r, .other e =>
      if isKept lane e then d.pass p t (.other e) (.closing lane r) else none
    | _, _ => none
  | .closeWriter lane =>
    match d.stage, d.shared.course.flush with
    | .flushing, .finished r =>
      if d.shared.submission.isFinished then d.pass p t (.other (.close lane)) (.closing lane r)
      else none
    | _, _ => none
  | .finish =>
    match d.stage with
    | .closing lane r =>
      match d.shared.others.lanes[lane]? with
      | some (.closing .finished) => some (t, { d with stage := .returned r })
      | _ => none
    | _ => none

/-- All this over some events. -/
def run (p : Policy) (es : List Event) (st : Tally × Shutdown) : Option (Tally × Shutdown) :=
  es.foldlM (fun (t, d) e => d.step p t e) st

/-- What an event is to the buffer and the calls on its writer. -/
def Event.toShared : Event → List Shared.Event
  | .call => [.call .lastFlush]
  | .shared e => [e]
  | .closeWriter lane => [.other (.close lane)]
  | .finish => []

variable {p : Policy} {t t' : Tally} {d d' : Shutdown} {e : Event} {es : List Event}

/-- What an event does. -/
inductive Change (p : Policy) (t : Tally) (d : Shutdown) : Event → Tally → Shutdown → Prop
  /-- The last flush begins. -/
  | called {t' : Tally} {s : Shared} : d.stage = .waiting →
      d.shared.step p t (.call .lastFlush) = some (t', s) → Change p t d .call t' ⟨s, .flushing⟩
  /-- Something happens during the last flush, but for further calls. -/
  | flushed {e : Shared.Event} {t' : Tally} {s : Shared} : d.stage = .flushing →
      e.isCall = false → d.shared.step p t e = some (t', s) →
      Change p t d (.shared e) t' ⟨s, .flushing⟩
  /-- The flush has finished, and the writer begins to be closed. -/
  | began {lane : Nat} {r : Except Error Unit} {t' : Tally} {s : Shared} : d.stage = .flushing →
      d.shared.course.flush = .finished r →
      d.shared.step p t (.other (.close lane)) = some (t', s) →
      Change p t d (.closeWriter lane) t' ⟨s, .closing lane r⟩
  /-- Something happens to the others, the call that closes the writer among them. -/
  | closed {lane : Nat} {r : Except Error Unit} {e : Dispatch.Event} {t' : Tally} {s : Shared} :
      d.stage = .closing lane r → d.shared.step p t (.other e) = some (t', s) →
      Change p t d (.shared (.other e)) t' ⟨s, .closing lane r⟩
  /-- The writer is closed, and the result is returned. -/
  | returned {lane : Nat} {r : Except Error Unit} : d.stage = .closing lane r →
      .closing .finished ∈ d.shared.others.lanes →
      Change p t d .finish t { d with stage := .returned r }

/-- What is passed on is a step of the buffer and the others. -/
theorem exists_of_pass {e : Shared.Event} {stage : Stage}
    (h : d.pass p t e stage = some (t', d')) :
    ∃ s, d.shared.step p t e = some (t', s) ∧ d' = ⟨s, stage⟩ := by
  obtain ⟨⟨t₁, s⟩, hs, h⟩ := Option.map_eq_some_iff.1 h
  obtain ⟨rfl, rfl⟩ := Prod.mk.inj h
  exact ⟨s, hs, rfl⟩

/-- Every step of the machine is one of its changes. -/
theorem change_of_step (h : d.step p t e = some (t', d')) : Change p t d e t' d' := by
  -- each event is only taken at one of the stages
  cases e with
  | call =>
    cases hd : d.stage <;> simp only [step, hd, reduceCtorEq] at h
    obtain ⟨s, hs, rfl⟩ := exists_of_pass h
    exact .called hd hs
  | shared e =>
    cases hd : d.stage with
    | flushing =>
      simp only [step, hd] at h
      cases hcall : e.isCall <;> simp only [hcall, Bool.false_eq_true, if_true, if_false,
        reduceCtorEq] at h
      obtain ⟨s, hs, rfl⟩ := exists_of_pass h
      exact .flushed hd hcall hs
    | closing lane r =>
      cases e <;> simp only [step, hd, reduceCtorEq] at h
      obtain ⟨-, h⟩ := Option.ite_none_right_eq_some.1 h
      obtain ⟨s, hs, rfl⟩ := exists_of_pass h
      exact .closed hd hs
    | waiting | returned => simp only [step, hd, reduceCtorEq] at h
  | closeWriter lane =>
    cases hd : d.stage <;> cases hf : d.shared.course.flush <;>
      simp only [step, hd, hf, reduceCtorEq] at h
    obtain ⟨-, h⟩ := Option.ite_none_right_eq_some.1 h
    obtain ⟨s, hs, rfl⟩ := exists_of_pass h
    exact .began hd hf hs
  | finish =>
    cases hd : d.stage with
    | closing lane r =>
      simp only [step, hd] at h
      split at h
      · rename_i hl
        obtain ⟨rfl, rfl⟩ := Prod.mk.inj (Option.some.inj h)
        exact .returned hd (List.mem_of_getElem? hl)
      · cases h
    | waiting | flushing | returned => simp only [step, hd, reduceCtorEq] at h

/-! ## Runs -/

theorem run_cons (e : Event) (es : List Event) :
    run p (e :: es) (t, d) = (d.step p t e).bind (run p es) := rfl

/-- One more event is the last step. -/
theorem run_concat (es : List Event) (e : Event) (st : Tally × Shutdown) :
    run p (es ++ [e]) st = (run p es st).bind fun (t, d) => d.step p t e := by
  rw [run, List.foldlM_append]
  exact congrArg _ (funext fun (t, s) => bind_pure _)

/-- Events follow one another. -/
theorem run_append (es es' : List Event) (st : Tally × Shutdown) :
    run p (es ++ es') st = (run p es st).bind (run p es') :=
  List.foldlM_append

/-- One event is one step. -/
theorem run_singleton (h : d.step p t e = some (t', d')) : run p [e] (t, d) = some (t', d') := by
  rw [run_cons, h]
  rfl

/-- Without the machine, its events are events of the buffer and the others. -/
theorem Change.toShared (h : Change p t d e t' d') :
    Shared.run p e.toShared (t, d.shared) = some (t', d'.shared) := by
  cases h with
  | called _ hs | flushed _ _ hs | began _ _ hs | closed _ hs =>
    rw [Event.toShared, Shared.run_cons, hs]
    rfl
  | returned => rfl

/-- What happens to the buffer and the calls on its writer. -/
theorem run_toShared (h : run p es (t, d) = some (t', d')) :
    Shared.run p (es.flatMap (·.toShared)) (t, d.shared) = some (t', d'.shared) := by
  induction es generalizing t d with
  | nil =>
    cases h
    rfl
  | cons e es ih =>
    rw [run_cons, Option.bind_eq_some_iff] at h
    obtain ⟨⟨t₁, d₁⟩, h₁, h₂⟩ := h
    rw [List.flatMap_cons, Shared.run_append, (change_of_step h₁).toShared]
    exact ih h₂

/-- While the last flush is under way, what happens to the buffer and the calls on its writer
    may happen. -/
theorem run_flushing {s : Shared} (hd : d.stage = .flushing) {es : List Shared.Event}
    (hes : ∀ e ∈ es, e.isCall = false) (h : Shared.run p es (t, d.shared) = some (t', s)) :
    run p (es.map .shared) (t, d) = some (t', ⟨s, .flushing⟩) := by
  induction es generalizing t d with
  | nil =>
    cases h
    rw [← hd]
    rfl
  | cons e es ih =>
    rw [Shared.run_cons, Option.bind_eq_some_iff] at h
    obtain ⟨⟨t₁, s₁⟩, h₁, h₂⟩ := h
    have hstep : d.step p t (.shared e) = some (t₁, ⟨s₁, .flushing⟩) := by
      simp [step, hd, pass, h₁, hes e (List.mem_cons_self ..)]
    rw [List.map_cons, run_cons, hstep]
    exact ih (d := ⟨s₁, .flushing⟩) rfl (fun e he => hes e (List.mem_cons_of_mem _ he)) h₂

/-- What has become of the course `c₀` of the buffer. -/
def Stands (c₀ : Course) (d : Shutdown) : Prop :=
  match d.stage with
  | .waiting => d.shared.course = c₀
  | .flushing => c₀.LastFlushed d.shared.course
  | .closing _ r | .returned r =>
    c₀.LastFlushed d.shared.course ∧ d.shared.course.flush = .finished r

/-- How far the close has come stays true of every change. -/
theorem Stands.of_change {c₀ : Course} (hd : d.Stands c₀) (h : Change p t d e t' d') :
    d'.Stands c₀ := by
  cases h with
  | called hstage hs =>
    rw [Stands, hstage] at hd
    cases Shared.takes_of_step hs with
    | called _ _ hc =>
      obtain ⟨hi, rfl⟩ := Course.closing_of_step hc
      exact hd ▸ Course.lastFlushed_closing hi
  | flushed hstage he hs =>
    rw [Stands, hstage] at hd
    change c₀.LastFlushed _
    obtain hc | ⟨e', hc, he'⟩ := (Shared.change_of_step hd.working hs).course_cases
    · exact hc ▸ hd
    · exact hd.of_change hc (he' he)
  | began hstage hf hs =>
    rw [Stands, hstage] at hd
    have hc := Shared.course_of_other hs
    exact ⟨hc ▸ hd, hc ▸ hf⟩
  | closed hstage hs =>
    rw [Stands, hstage] at hd
    have hc := Shared.course_of_other hs
    exact ⟨hc ▸ hd.1, hc ▸ hd.2⟩
  | returned hstage =>
    rw [Stands, hstage] at hd
    exact hd

/-- How far the close has come stays true of every run. -/
theorem Stands.of_run {c₀ : Course} (hd : d.Stands c₀)
    (h : run p es (t, d) = some (t', d')) : d'.Stands c₀ := by
  induction es generalizing t d with
  | nil =>
    cases h
    exact hd
  | cons e es ih =>
    rw [run_cons, Option.bind_eq_some_iff] at h
    obtain ⟨⟨t₁, d₁⟩, h₁, h₂⟩ := h
    exact ih (hd.of_change (change_of_step h₁)) h₂

/-- The result is returned as soon as the closing call has returned. -/
theorem exists_finish (h : run p es (t, d) = some (t', d')) (hw : d.stage = .waiting)
    {r : Except Error Unit} (hr : d'.stage = .returned r) : ∃ before s lane,
    es = before ++ [.finish] ∧ run p before (t, d) = some (t', ⟨s, .closing lane r⟩) ∧
      .closing .finished ∈ s.others.lanes ∧ d' = ⟨s, .returned r⟩ := by
  obtain rfl | ⟨before, e, rfl⟩ := es.eq_nil_or_concat
  · cases h
    rw [hw] at hr
    cases hr
  · rw [List.concat_eq_append, run_concat, Option.bind_eq_some_iff] at h
    obtain ⟨⟨t₁, s, stage⟩, h₁, h₂⟩ := h
    cases change_of_step h₂ with
    | called | flushed | began | closed => cases hr
    | @returned lane r' hstage hmem =>
      obtain rfl : r' = r := Stage.returned.inj hr
      obtain rfl : stage = .closing lane r' := hstage
      exact ⟨before, s, lane, List.concat_eq_append .., h₁, hmem, rfl⟩

/-! ## Returning -/

/-- There are steps by which the result is returned. -/
def Returns (p : Policy) (r : Except Error Unit) (t : Tally) (d : Shutdown) : Prop :=
  ∃ es t' d', run p es (t, d) = some (t', d') ∧ d'.stage = .returned r

/-- A close that can return after a step can return before it. -/
theorem Returns.step {r : Except Error Unit} (hr : Returns p r t' d')
    (h : d.step p t e = some (t', d')) : Returns p r t d := by
  obtain ⟨es, t₁, d₁, hrun, hd₁⟩ := hr
  exact ⟨e :: es, t₁, d₁, by rw [run_cons, h]; exact hrun, hd₁⟩

variable {lane : Nat} {c c' : Dispatch.Closing} {g g' : Dispatch.Gate} {r : Except Error Unit}

/-- The writer is being closed by the call in a lane. -/
structure At (d : Shutdown) (lane : Nat) (r : Except Error Unit) (c : Dispatch.Closing)
    (g : Dispatch.Gate) : Prop where
  stage : d.stage = .closing lane r
  call : d.shared.others.lanes[lane]? = some (.closing c)
  gate : d.shared.others.gate = g

/-- Something happens to the closing call. -/
theorem At.step (hd : d.At lane r c g) {e : Dispatch.Event} (he : isKept lane e = true)
    {others : Traffic} (h : d.shared.others.step p e = some others) :
    d.step p t (.shared (.other e)) =
      some (t, ⟨{ d.shared with others }, .closing lane r⟩) := by
  simp [Shutdown.step, hd.stage, he, pass, Shared.step, h]

/-- The closing call takes its next step. -/
theorem At.returns_of_advance (hd : d.At lane r c g) (ha : c.advance g = some (g', c'))
    (hr : ∀ d' : Shutdown, d'.At lane r c' g' → Returns p r t d') : Returns p r t d := by
  have hlt := (List.getElem?_eq_some_iff.1 hd.call).1
  have hstep : d.shared.others.step p (.go lane) = some {
      gate := g'
      lanes := d.shared.others.lanes.set lane (.closing c')
      asked := if c' = .releasing then .release lane :: d.shared.others.asked
        else d.shared.others.asked } := by
    simp [Traffic.step, Traffic.go, hd.call, hd.gate, ha]
  have hkept : isKept lane (.go lane) = true := Bool.or_true _
  refine Returns.step ?_ (hd.step hkept hstep)
  exact hr _ ⟨rfl, List.getElem?_set_self hlt, rfl⟩

/-- The client is done with releasing. -/
theorem At.returns_of_releasing (hd : d.At lane r .releasing g)
    (hr : ∀ d' : Shutdown, d'.At lane r .noting g → Returns p r t d') : Returns p r t d := by
  have hlt := (List.getElem?_eq_some_iff.1 hd.call).1
  have hstep : d.shared.others.step p (.clientReleased lane) =
      some (d.shared.others.put lane (.closing .noting)) := by
    simp [Traffic.step, Traffic.clientReleased, hd.call, Dispatch.Closing.clientReleased]
  have hkept : isKept lane (.clientReleased lane) = true := Bool.or_true _
  refine Returns.step ?_ (hd.step hkept hstep)
  exact hr _ ⟨rfl, List.getElem?_set_self hlt, hd.gate⟩

/-- Once the writer is closed, the close can return. -/
theorem At.returns_of_finished (hd : d.At lane r .finished g) : Returns p r t d :=
  ⟨[.finish], t, { d with stage := .returned r }, by
    rw [run_cons, Shutdown.step, hd.stage]
    simp [hd.call, run], rfl⟩

/-- Once nothing is under way, the client is released, and the result is returned. -/
theorem At.returns_of_quiet (hd : d.At lane r .arriving g) (hq : g.inFlight = 0)
    (hr : g.closed = true → g.released = true) : Returns p r t d := by
  cases hg : g.closed with
  | true =>
    -- Another call has closed the writer.
    refine hd.returns_of_advance rfl fun d hd => ?_
    rw [hg, if_pos rfl] at hd
    refine hd.returns_of_advance rfl fun d hd => ?_
    refine hd.returns_of_advance rfl fun d hd => ?_
    dsimp only at hd
    rw [hr hg, if_pos rfl] at hd
    exact hd.returns_of_finished
  | false =>
    refine hd.returns_of_advance rfl fun d hd => ?_
    rw [hg, if_neg Bool.false_ne_true] at hd
    refine hd.returns_of_advance rfl fun d hd => ?_
    refine hd.returns_of_advance rfl fun d hd => ?_
    dsimp only at hd
    rw [hq, if_pos rfl] at hd
    refine hd.returns_of_advance rfl fun d hd => ?_
    refine hd.returns_of_releasing fun d hd => ?_
    refine hd.returns_of_advance rfl fun d hd => ?_
    refine hd.returns_of_advance rfl fun d hd => ?_
    exact hd.returns_of_finished

/-! ## The end -/

/-- What a buffer leaves behind that was closed with a result, given the events before, the
    state in which it was closed, and the events since. -/
structure Concluded (p : Policy) (st : Tally × Shared) (es : List Shared.Event) (s₀ : Shared)
    (es' : List Event) (t : Tally) (d : Shutdown) (r : Except Error Unit) : Prop where
  /-- It is the result of the flush, if there was one. -/
  result : d.shared.course.flush = .finished r
  /-- The writer is closed, and its client was asked to release what it holds. -/
  closed : d.shared.others.gate.closed = true
  released : d.shared.others.releaseCount = 1
  /-- The client was done before the result was returned, whatever the result. -/
  done : ∃ before lane, es' = before ++ [.finish] ∧
    .other (.clientReleased lane) ∈ es ++ before.flatMap (·.toShared)
  /-- It is not asked again, whatever happens later. -/
  later : ∀ es'' t' s, Shared.run p es'' (t, d.shared) = some (t', s) →
    s.others.gate.closed = true ∧ s.others.releaseCount = 1
  /-- The close succeeds exactly if nothing is left and the flush has not failed. -/
  success : r = .ok () ↔ d.shared.course.buffer.pending.toList = [] ∧
    (s₀.course.buffer.aborted = none → d.shared.course.flush = .finished (.ok ()))
  /-- If it succeeds, then what is not delivered has been reported by an earlier call. -/
  accounted : r = .ok () → ∃ failed, d.shared.course.ledger.accepted.Perm
    (d.shared.course.ledger.delivered ++ failed) ∧ ∀ x ∈ failed, Shared.Reported p st es x

/-- With nothing else under way, the writer can be closed as soon as the flush has ended. -/
theorem returns_of_flushed {es : List Shared.Event} (hm : d.shared.Managed es)
    (hstage : d.stage = .flushing) (hf : d.shared.course.flush = .finished r)
    (hsub : d.shared.submission.isFinished = true)
    (hq : ∀ c ∈ d.shared.others.lanes, c.isFinished = true)
    (hr : d.shared.others.gate.closed = true → d.shared.others.gate.released = true) :
    Returns p r t d := by
  set lane := d.shared.others.lanes.length with hlane
  have hothers : d.shared.others.step p (.close lane) = some
      { d.shared.others with lanes := d.shared.others.lanes ++ [.closing .arriving] } := by
    simp [Traffic.step, Traffic.enter, hlane]
  have hstep : d.step p t (.closeWriter lane) = some (t, ⟨{ d.shared with
      others := { d.shared.others with
        lanes := d.shared.others.lanes ++ [.closing .arriving] } }, .closing lane r⟩) := by
    simp [step, hstage, hf, hsub, pass, Shared.step, hothers]
  refine Returns.step ?_ hstep
  exact At.returns_of_quiet ⟨rfl, List.getElem?_concat_length, rfl⟩ (hm.quiet hsub hq) hr

/-- What was accepted before is delivered, unless its failure was reported then. -/
theorem accounted_of_stands {st : Tally × Shared} {es : List Shared.Event} {s₀ : Shared}
    (hb : s₀.Balanced p st es) (hl : s₀.course.LastFlushed d.shared.course)
    (hok : d.shared.course.flush = .finished (.ok ())) :
    ∃ failed, d.shared.course.ledger.accepted.Perm
      (d.shared.course.ledger.delivered ++ failed) ∧
      ∀ x ∈ failed, Shared.Reported p st es x := by
  obtain ⟨failed, hperm, hfailed⟩ := hb.balance
  obtain ⟨ds, hds, hpending⟩ := hl.delivered hok
  refine ⟨failed, ?_, hfailed⟩
  rw [hl.accepted, hds]
  rw [Course.held_of_isIdle hl.idle] at hperm
  exact hperm.trans ((hpending.symm.append_left _).append_right failed)

/-- Whatever has happened to a buffer and on its writer, and whatever happens while it is
    closed: a close that returns hides no entry, and it returns unless others are under
    way on the writer. -/
theorem concluded_of_run {settings : WriterSettings} {es : List Shared.Event} {t₀ : Tally}
    {s₀ : Shared} {es' : List Event}
    (h₀ : Shared.run p es (t, { course := { buffer := { settings } } }) = some (t₀, s₀))
    (h : run p es' (t₀, { shared := s₀ }) = some (t', d)) :
    (∀ r, d.stage = .returned r →
      Concluded p (t, { course := { buffer := { settings } } }) es s₀ es' t' d r) ∧
    ∀ r, d.stage = .flushing → d.shared.course.flush = .finished r →
      d.shared.submission.isFinished = true →
      (∀ c ∈ d.shared.others.lanes, c.isFinished = true) →
      (d.shared.others.gate.closed = true → d.shared.others.gate.released = true) →
      Returns p r t' d := by
  have hstands : d.Stands s₀.course := Stands.of_run (d := { shared := s₀ }) rfl h
  -- All that happens to the buffer and on the writer is one run.
  have joined {es' : List Event} {t' : Tally} {d : Shutdown}
      (h : run p es' (t₀, { shared := s₀ }) = some (t', d)) :
      Shared.run p (es ++ es'.flatMap (·.toShared))
        (t, { course := { buffer := { settings } } }) = some (t', d.shared) := by
    rw [Shared.run_append, h₀]
    exact run_toShared h
  refine ⟨fun r hr => ?_, fun r hstage hf hsub hq hr =>
    returns_of_flushed (Shared.managed_of_run (joined h)) hstage hf hsub hq hr⟩
  obtain ⟨before, s, lane, rfl, hbefore, hmem, rfl⟩ := exists_finish h rfl hr
  obtain ⟨hl, hf⟩ := hstands
  have hm : s.Managed _ := Shared.managed_of_run (joined hbefore)
  have hreleased := hm.seen hmem
  have hpos := hm.asked hreleased
  obtain ⟨lane', hdone⟩ := hm.done hreleased
  refine ⟨hf, hm.closed hpos, Nat.le_antisymm hm.once hpos, ⟨before, lane', rfl, hdone⟩,
    fun es'' t'' s'' h'' => ?_, hl.ok_iff hf, ?_⟩
  · have hlater : s''.Managed _ :=
      Shared.managed_of_run (by rw [Shared.run_append, joined h]; exact h'')
    have hpos := hlater.asked (Shared.released_of_run hreleased h'')
    exact ⟨hlater.closed hpos, Nat.le_antisymm hlater.once hpos⟩
  · rintro rfl
    exact accounted_of_stands (d := ⟨s, .returned (.ok ())⟩)
      (Shared.balanced_of_run rfl rfl h₀) hl hf

/-- Of two entries, one is delivered, and the other one is dropped as somebody else closes
    the writer. The close succeeds then, after it has waited for their release. -/
theorem concluded_of_run_two :
    let settings : WriterSettings := { maxBatchSize := 1 }
    let es : List Shared.Event :=
      [.call (.write { id := "a" }), .call (.write { id := "b" }), .call .flush, .look, .go 0.5,
        .go 0.5, .go 0.5, .answer (.ok {}) 0.5, .go 0.5, .go 0.5, .look, .go 0.5,
        .other (.close 0), .other (.go 0), .go 0.5, .go 0.5, .go 0.5, .other (.go 0),
        .other (.go 0), .other (.go 0)]
    let es' : List Event :=
      [.call, .shared .look, .closeWriter 1, .shared (.other (.go 1)),
        .shared (.other (.clientReleased 0)), .shared (.other (.go 0)),
        .shared (.other (.go 1)), .shared (.other (.go 1)), .finish]
    let st : Tally × Shared := ({}, { course := { buffer := { settings } } })
    ∃ t₀ s₀ t d, Shared.run {} es st = some (t₀, s₀) ∧
      run {} es' (t₀, { shared := s₀ }) = some (t, d) ∧ d.stage = .returned (.ok ()) ∧
      d.shared.course.ledger.accepted.map (·.id) = ["a", "b"] ∧
      d.shared.course.ledger.delivered.map (·.id) = ["a"] ∧
      Concluded {} st es s₀ es' t d (.ok ()) := by
  intro settings es es' st
  have hrun : (Shared.run {} es st).bind (fun s₀ => (run {} es' (s₀.1, { shared := s₀.2 })).map
      fun d => (d.2.stage, d.2.shared.course.ledger.accepted.map (·.id),
        d.2.shared.course.ledger.delivered.map (·.id))) =
      some (.returned (.ok ()), ["a", "b"], ["a"]) := by
    rfl
  obtain ⟨⟨t₀, s₀⟩, h₀, hrun⟩ := Option.bind_eq_some_iff.1 hrun
  obtain ⟨⟨t, d⟩, h, hd⟩ := Option.map_eq_some_iff.1 hrun
  simp only [Prod.mk.injEq] at hd
  obtain ⟨hstage, hacc, hdel⟩ := hd
  exact ⟨t₀, s₀, t, d, h₀, h, hstage, hacc, hdel, (concluded_of_run h₀ h).1 _ hstage⟩

end Shutdown

end Outbox
