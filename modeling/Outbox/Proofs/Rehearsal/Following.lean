import Outbox.Proofs.Rehearsal.Beside
import Outbox.Rehearsal.Buffers

/-!
# A flush that is rehearsed

What happens to a buffer in a rehearsal, and on its writer, happens to a buffer that
shares its writer in general (`Follows`):

* what the stage lets happen in any lane is a step of the buffer's own submission or of
  the others (`Follows.of_stage`), and a closing in the background is one of the others
  (`Follows.of_background`);
* a flush goes on in the same way (`Follows.of_flush`).

The two do not keep step with each other. In general, the reply to a batch is settled as
soon as the submission is decided; in a rehearsal, when it has left the gate (`Sending`).
-/

namespace Outbox

namespace Dispatch

/-- The reply of a submission that is decided. -/
def Submission.reply? : Submission → Option Reply
  | .leaving r | .announcing r | .finished r => r
  | .arriving _ | .counted _ | .admitted _ | .outstanding _ => none

end Dispatch

/-- No batch is out when a reply is settled. -/
theorem Buffer.settle_ne_submitting {b b' : Buffer} {t t' : Tally} {batch : List Entry}
    {backoff : Backoff} {draw : Float} {r : Reply} {f : Flush}
    (h : b.settle t batch backoff draw r = (b', t', f)) (batch' : List Entry)
    (backoff' : Backoff) : f ≠ .submitting batch' backoff' := by
  rintro rfl
  unfold settle at h
  split at h
  · unfold fail at h
    split at h <;> cases h
  · dsimp only at h
    split at h
    · cases h
    · split at h
      · cases h
      · unfold putBack at h
        dsimp only at h
        split at h <;> cases h

namespace Shared

variable {p : Policy} {s : Shared} {t : Tally}

/-- The flush looks at the buffer and at the gate. -/
theorem step_look {backoff : Backoff} {b : Buffer} {f : Flush}
    (hs : s.submission.isFinished = true) (hf : s.course.flush = .looking backoff)
    (hl : s.course.buffer.look s.others.gate.closed backoff = (b, f)) (t : Tally) :
    ∃ ledger, s.step p t .look = some (t, begin { s with course := ⟨b, f, ledger⟩ }) := by
  simp only [step, pass, Course.step, hs, hf, hl]
  exact ⟨_, rfl⟩

end Shared

namespace Rehearsal

open Dispatch

/-! ## A batch that is out -/

/-- The batch of a buffer is being submitted. A course knows what comes of that as soon as
    the submission is decided, and the buffer that is rehearsed when it has left. -/
inductive Sending (p : Policy) (draw : Float) (b : Buffer) (batch : List Entry)
    (backoff : Backoff) (c : Course) (sub : Submission) : Prop
  /-- The buffer is as it was when the batch was cut off. -/
  | undecided : sub.entries? = some batch → (sub = .outstanding batch → p.refusal? batch = none) →
      c.buffer = b → c.flush = .submitting batch backoff → Sending p draw b batch backoff c sub
  /-- The course has settled the reply already. -/
  | decided {r : Reply} {t t' : Tally} : sub.reply? = some r →
      b.settle t batch backoff draw r = (c.buffer, t', c.flush) →
      Sending p draw b batch backoff c sub

section Sending

variable {p : Policy} {draw : Float} {b : Buffer} {batch : List Entry} {backoff : Backoff}
  {s : Shared} {g : Gate} {sub : Submission} {t : Tally}

/-- A step of the submission. -/
theorem Sending.of_go (h : Sending p draw b batch backoff s.course s.submission)
    (hs : s.submission.Step p s.others.gate g sub) (t : Tally) :
    ∃ t' c, s.step p t (.go draw) = some (t', ⟨c, sub, { s.others with gate := g }⟩) ∧
      Sending p draw b batch backoff c sub := by
  have ha := hs.advance_eq
  rcases s with ⟨c, sub', others⟩
  dsimp only at h hs ha
  simp only [Shared.step, ha, Option.bind_eq_bind, Option.bind_some]
  -- the reply is settled at the step that decides the submission; those after it change nothing
  -- for the buffer
  cases h with
  | undecided hes hsend hb hf =>
    cases hs with
    | count | letIn =>
      cases hes
      exact ⟨t, c, rfl, .undecided rfl (fun h => by cases h) hb hf⟩
    | send hr =>
      cases hes
      exact ⟨t, c, rfl, .undecided rfl (fun _ => hr) hb hf⟩
    | refuse =>
      cases hes
      subst hb
      rcases hsettle : c.buffer.settle t batch backoff 0 (.failure .closed) with ⟨b', t', f⟩
      refine ⟨t', { c with buffer := b', flush := f }, ?_, .decided rfl hsettle⟩
      simp [Shared.ruling, Shared.pass, Course.step, hf, hsettle]
    | @decline _ r hr =>
      cases hes
      subst hb
      have hreply := Policy.reply_of_refusal hr (.ok {})
      rcases hsettle : c.buffer.settle t batch backoff draw r with ⟨b', t', f⟩
      refine ⟨t', ⟨b', f, Course.record p c.ledger batch (.ok {}) c.buffer b' f⟩, ?_,
        .decided rfl hsettle⟩
      simp [Shared.ruling, Shared.pass, Course.step, hf, hreply, hsettle]
    | leave | leaveLast | announce => cases hes
  | decided hr hsettle =>
    cases hs with
    | leave | leaveLast | announce => exact ⟨t, c, rfl, .decided hr hsettle⟩
    | count | refuse | letIn | decline | send => cases hr

/-- The client answers. -/
theorem Sending.of_answer {es : List Entry}
    (h : Sending p draw b batch backoff s.course s.submission)
    (hs : s.submission = .outstanding es) (a : Answer) (t : Tally) :
    ∃ t' c, s.step p t (.answer a draw) =
        some (t', ⟨c, .leaving (some (p.onAnswer es a)), s.others⟩) ∧
      Sending p draw b batch backoff c (.leaving (some (p.onAnswer es a))) := by
  rcases s with ⟨c, sub', others⟩
  obtain rfl : sub' = .outstanding es := hs
  -- the answer decides the submission, so it cannot have been decided before
  cases h with
  | undecided hes hsend hb hf =>
    cases hes
    obtain rfl : c.buffer = b := hb
    have hreply := Policy.reply_of_refusal_eq_none (hsend rfl) a
    rcases hsettle : c.buffer.settle t batch backoff draw (p.onAnswer batch a) with ⟨b', t', f⟩
    refine ⟨t', ⟨b', f, Course.record p c.ledger batch a c.buffer b' f⟩, ?_, .decided rfl hsettle⟩
    have hf' : c.flush = .submitting batch backoff := hf
    simp [Shared.step, Submission.answered, Shared.pass, Course.step, hf', hreply, hsettle]
  | decided hr => cases hr

/-- The stage lets something happen to the submission. -/
theorem Sending.of_goes {first : Call} {asks : List Ask} {e : Dispatch.Event}
    (h : Sending p draw b batch backoff s.course s.submission) (he : Stage.Goes 0 e)
    (hs : Call.Step p s.others.gate e (.submission s.submission) g first asks) (t : Tally) :
    ∃ e' t' c sub, e'.isCall = false ∧ first = .submission sub ∧
      s.step p t e' = some (t', ⟨c, sub, { s.others with gate := g }⟩) ∧
      Sending p draw b batch backoff c sub := by
  generalize hsub : s.submission = sub at hs
  cases hs with
  | submission hs =>
    obtain ⟨t', c, hstep, h'⟩ := h.of_go (hsub ▸ hs) t
    exact ⟨_, t', c, _, rfl, rfl, hstep, h'⟩
  | @answered _ es a =>
    obtain ⟨t', c, hstep, h'⟩ := h.of_answer hsub a t
    exact ⟨_, t', c, _, rfl, rfl, hstep, h'⟩
  | submissionDropped => cases he

end Sending

/-! ## A buffer that is rehearsed -/

/-- The buffer that the flush is of which a call is part of. -/
def Work.buffer? : Work → Option Nat
  | .flushing j _ _ | .pausing j _ _ _ => some j
  | .closing _ | .sleeping _ | .finished _ => none

/-- A call goes on only when that in the first lane has finished. -/
def Work.isWaiting : Work → Bool
  | .flushing _ (.submitting _ _) _ | .closing _ => true
  | .flushing _ _ _ | .pausing _ _ _ _ | .sleeping _ | .finished _ => false

/-- What the course of a buffer is like of which no batch is out. -/
inductive Staying (i : Nat) (w : Work) (c : Course) : Prop
  /-- No flush of the buffer is under way. -/
  | resting : w.buffer? ≠ some i → c.isIdle = true → Staying i w c
  /-- A flush is about to look at the buffer, or has finished. -/
  | flushing {f : Flush} {rest : Rest} : w = .flushing i f rest → w.isWaiting = false →
      c.flush = f → Staying i w c
  /-- A flush is waiting for its pause to end. -/
  | pausing {wake : Nat} {pause : Span} {backoff : Backoff} {rest : Rest} :
      w = .pausing i wake backoff rest → c.flush = .pausing pause backoff → Staying i w c

variable {σ ρ : Type} [Client σ ρ]

/-- What a buffer is like in a rehearsal, and how the calls on its writer are arranged. -/
inductive Stands (p : Policy) (i : Nat) (d : Buffers σ) (s : Shared) (k : Nat) : Prop
  /-- No batch of it is out, so that the first lane belongs to the others. -/
  | staying {first : Call} : Beside d.stage.traffic first k s.others →
      Mirrors s.others k first → (d.work.isWaiting = false → first.isFinished = true) →
      s.submission.isFinished = true →
      d.buffer? i = some s.course.buffer → Staying i d.work s.course → Stands p i d s k
  /-- A batch of it is out, and is submitted in the first lane. -/
  | sending {b : Buffer} {batch : List Entry} {backoff : Backoff} {rest : Rest} :
      Beside d.stage.traffic (.submission s.submission) k s.others → Vacant s.others k →
      d.work = .flushing i (.submitting batch backoff) rest → d.buffer? i = some b →
      Sending p d.draw b batch backoff s.course s.submission → Stands p i d s k

/-- A buffer of a rehearsal, and all that happens on its writer. -/
structure Follows (p : Policy) (i : Nat) (d : Buffers σ) (s : Shared) (k : Nat) : Prop where
  policy : d.stage.policy = p
  stands : Stands p i d s k

section Steps

variable {p : Policy} {i k : Nat} {d d' : Buffers σ} {s : Shared} {st : Stage σ} {t : Tally}

/-- The stage lets something happen in a lane. -/
theorem Follows.of_stage (h : Follows p i d s k) {lane : Nat} (hgo : d.stage.go lane = some st)
    (t : Tally) : ∃ e t' s', e.isCall = false ∧ s.step p t e = some (t', s') ∧
      Follows p i { d with stage := st } s' k := by
  obtain ⟨rfl, hs⟩ := h
  obtain ⟨e, he, hstep, hp⟩ := Stage.step_of_go hgo
  cases lane with
  | succ lane =>
    cases hs with
    | staying hb hk hquiet hsub hbuf hc =>
      obtain ⟨lane', v, -, hv, hb', hk'⟩ := hb.other he hstep
      exact ⟨_, _, _, rfl, Shared.step_other hv t, hp,
        .staying hb' (hk.congr hk') hquiet hsub hbuf hc⟩
    | sending hb hvac hw hbuf hc =>
      obtain ⟨lane', v, -, hv, hb', hk'⟩ := hb.other he hstep
      exact ⟨_, _, _, rfl, Shared.step_other hv t, hp,
        .sending hb' (hvac.congr hk') hw hbuf hc⟩
  | zero =>
    cases hs with
    | @staying first hb hk hquiet hsub hbuf hc =>
      obtain hk | ⟨hf, -⟩ := hk
      · obtain ⟨first', v, hv, hb', hk', _, hcall⟩ := hb.inFirst hk he hstep
        refine ⟨_, _, _, rfl, Shared.step_other hv t, hp,
          .staying hb' (.inl hk') (fun hw => ?_) hsub hbuf hc⟩
        -- The first lane is waited for, as its call has not finished.
        have hf := hcall.isFinished_eq_false
        rw [hquiet hw] at hf
        cases hf
      · obtain ⟨_, _, hs, -⟩ := hb.own he hstep
        rw [hs.isFinished_eq_false] at hf
        cases hf
    | sending hb hv hw hbuf hc =>
      obtain ⟨first', asks, hs, hb'⟩ := hb.own he hstep
      obtain ⟨e', t', c, sub, he', rfl, hstep', hc'⟩ := hc.of_goes he hs t
      exact ⟨e', t', _, he', hstep', hp, .sending hb' hv hw hbuf hc'⟩

/-- The writer begins to be closed in the background. -/
theorem Follows.of_background (h : Follows p i d s k) (hgo : d.goClosing = some d') (t : Tally) :
    ∃ e s' k', e.isCall = false ∧ s.step p t e = some (t, s') ∧ Follows p i d' s' k' := by
  obtain ⟨rfl, hs⟩ := h
  obtain ⟨j, -, hd⟩ := Option.bind_eq_some_iff.1 hgo
  obtain rfl := Option.some.inj hd
  cases hs with
  | staying hb hk hquiet hsub hbuf hc =>
    obtain ⟨u, v, k', hu, hv, hb', hk', -⟩ := hb.beginLast (p := d.stage.policy)
    rw [Stage.enter_eq hu]
    exact ⟨_, _, k', rfl, Shared.step_other hv t, rfl,
      .staying hb' (hk.congr hk') hquiet hsub hbuf hc⟩
  | sending hb hvac hw hbuf hc =>
    obtain ⟨u, v, k', hu, hv, hb', hk', -⟩ := hb.beginLast (p := d.stage.policy)
    rw [Stage.enter_eq hu]
    exact ⟨_, _, k', rfl, Shared.step_other hv t, rfl,
      .sending hb' (hvac.congr hk') hw hbuf hc⟩

/-- The buffer that is put in place is found there. -/
theorem buffer?_set_self {b : Buffer} (h : d.buffer? i = some b) (b' : Buffer) :
    (d.set i b').buffer? i = some b' := by
  obtain ⟨b, hb⟩ : ∃ b, d.buffers[i]? = some b := by
    cases hi : d.buffers[i]? with
    | some b => exact ⟨b, rfl⟩
    | none => simp [Buffers.buffer?, hi] at h
  simp [Buffers.buffer?, Buffers.set, (List.getElem?_eq_some_iff.1 hb).1]

/-- The other buffers stay as they are. -/
theorem buffer?_set_ne {j : Nat} (h : j ≠ i) (b : Buffer) :
    (d.set j b).buffer? i = d.buffer? i := by
  simp [Buffers.buffer?, Buffers.set, List.getElem?_set_ne h]

/-! ## Work -/

/-- How a call goes on, by the work it is at. -/
inductive Works (d : Buffers σ) : Work → Buffers σ → Prop
  /-- The flush has finished, and the rest of the call comes next. -/
  | proceeded {j : Nat} {r : Except Error Unit} {rest : Rest} :
      Works d (.flushing j (.finished r) rest) (d.proceed j r rest)
  | paused {j : Nat} {pause : Span} {backoff : Backoff} {rest : Rest} :
      Works d (.flushing j (.pausing pause backoff) rest)
        { d with work := .pausing j (d.stage.now + pause.millis) backoff rest }
  /-- A batch is cut off, and its submission begins in the first lane. -/
  | submitted {j : Nat} {backoff backoff' : Backoff} {rest : Rest} {b b' : Buffer}
      {batch : List Entry} : d.buffer? j = some b →
      b.look d.stage.traffic.gate.closed backoff = (b', .submitting batch backoff') →
      Works d (.flushing j (.looking backoff) rest) {
        d.set j b' with
        stage := d.stage.enter (.submit 0 batch)
        work := .flushing j (.submitting batch backoff') rest }
  /-- No batch is cut off. -/
  | looked {j : Nat} {backoff : Backoff} {rest : Rest} {b b' : Buffer} {f : Flush} :
      d.buffer? j = some b → b.look d.stage.traffic.gate.closed backoff = (b', f) →
      (∀ batch backoff, f ≠ .submitting batch backoff) →
      Works d (.flushing j (.looking backoff) rest) {
        d.set j b' with work := .flushing j f rest }
  /-- The reply to the batch is settled. -/
  | settled {j : Nat} {batch : List Entry} {backoff : Backoff} {rest : Rest} {b b' : Buffer}
      {r : Reply} {tally : Tally} {f : Flush} : d.buffer? j = some b → d.reply? = some r →
      b.settle d.tally batch backoff d.draw r = (b', tally, f) →
      Works d (.flushing j (.submitting batch backoff) rest) {
        d.set j b' with tally, work := .flushing j f rest }
  | woken {j wake : Nat} {backoff : Backoff} {rest : Rest} :
      Works d (.pausing j wake backoff rest)
        { d with work := .flushing j (.looking backoff) rest }
  /-- The writer has been closed. -/
  | closed {e : BufferEnding} : d.stage.traffic.lanes.head? = some (.closing .finished) →
      Works d (.closing e) { d with work := .finished e }
  | slept {wake : Nat} : Works d (.sleeping wake) { d with work := .finished .slept }

/-- A call goes on in one of these ways. -/
theorem works_of_goWork {w : Work} (hw : d.work = w) (h : d.goWork = some d') : Works d w d' := by
  cases w with
  | flushing j f rest =>
    cases f with
    | finished | pausing =>
      simp only [Buffers.goWork, hw, Option.some.injEq] at h
      subst h
      constructor
    | looking backoff =>
      simp only [Buffers.goWork, hw, Option.bind_eq_bind, Option.bind_eq_some_iff,
        Option.pure_def, Option.some.injEq] at h
      obtain ⟨b, hb, h⟩ := h
      rcases hl : b.look d.stage.traffic.gate.closed backoff with ⟨b', f⟩
      rw [hl] at h
      subst h
      cases f with
      | submitting batch backoff' => exact .submitted hb hl
      | looking | pausing | finished => exact .looked hb hl fun _ _ h => by cases h
    | submitting batch backoff =>
      simp only [Buffers.goWork, hw, Option.bind_eq_bind, Option.bind_eq_some_iff,
        Option.pure_def, Option.some.injEq] at h
      obtain ⟨b, hb, r, hr, rfl⟩ := h
      exact .settled hb hr rfl
  | pausing | sleeping =>
    simp only [Buffers.goWork, hw, Option.ite_none_right_eq_some, Option.some.injEq] at h
    obtain ⟨-, rfl⟩ := h
    constructor
  | closing e =>
    simp only [Buffers.goWork, hw] at h
    split at h
    · cases h
      exact .closed ‹_›
    · cases h
  | finished => simp [Buffers.goWork, hw] at h

/-! ## Flushes -/

/-- A flush waits for the first lane only while a batch is out. -/
theorem Work.isWaiting_flushing {f : Flush}
    (h : ∀ batch backoff, f ≠ .submitting batch backoff) (j : Nat) (rest : Rest) :
    Work.isWaiting (.flushing j f rest) = false := by
  cases f with
  | submitting batch backoff => exact absurd rfl (h batch backoff)
  | looking | pausing | finished => rfl

/-- A call goes on with the flush of a buffer, and with the rest behind that. -/
inductive Work.Flushes (i : Nat) (rest : Rest) : Work → Prop
  | flushing {f : Flush} : Flushes i rest (.flushing i f rest)
  | pausing {wake : Nat} {backoff : Backoff} : Flushes i rest (.pausing i wake backoff rest)

/-- Nothing but a submission is waited for. -/
theorem Staying.course_flush {w : Work} {c : Course} {f : Flush} {rest : Rest}
    (h : Staying i w c) (hw : w = .flushing i f rest) : c.flush = f := by
  cases h with
  | resting hne => simp [hw, Work.buffer?] at hne
  | flushing hw' _ hf =>
    rw [hw] at hw'
    cases hw'
    exact hf
  | pausing hw' =>
    rw [hw] at hw'
    cases hw'

/-- The flush looks at the buffer and at the gate. -/
theorem Follows.of_look (h : Follows p i d s k) {backoff : Backoff} {rest : Rest}
    (hw : d.work = .flushing i (.looking backoff) rest) (hgo : d.goWork = some d') (t : Tally) :
    ∃ t' s' f, s.step p t .look = some (t', s') ∧ Follows p i d' s' k ∧
      d'.work = .flushing i f rest := by
  obtain ⟨rfl, hs⟩ := h
  cases hs with
  | sending _ _ hw' => rw [hw] at hw'; cases hw'
  | @staying first hb hk hquiet hsub hbuf hc =>
    have hfirst : first.isFinished = true := hquiet (by rw [hw]; rfl)
    have hf := hc.course_flush hw
    -- either a batch goes out in the first lane, or the buffer stays as it is
    cases works_of_goWork hw hgo with
    | @submitted _ _ backoff' _ _ b batch hbuf' hl =>
      cases hbuf.symm.trans hbuf'
      obtain ⟨ledger, hstep⟩ := Shared.step_look (p := d.stage.policy) hsub hf (hb.gate ▸ hl) t
      obtain ⟨u, hu, hb'⟩ := hb.begin (p := d.stage.policy) hfirst
        (e := .submit 0 batch) (c := .submission (.arriving batch)) rfl rfl
      refine ⟨t, _, _, hstep, ⟨?_, .sending (b := b) ?_ (hk.vacant hfirst) rfl ?_ ?_⟩, rfl⟩
      · change (d.stage.enter (.submit 0 batch)).policy = _
        rw [Stage.enter_eq hu]
      · dsimp only [Shared.begin]
        rw [Stage.enter_eq hu]
        exact hb'
      · exact buffer?_set_self hbuf b
      · exact .undecided rfl (fun h => by cases h) rfl rfl
    | @looked _ _ _ _ b f hbuf' hl hne =>
      cases hbuf.symm.trans hbuf'
      obtain ⟨ledger, hstep⟩ := Shared.step_look (p := d.stage.policy) hsub hf (hb.gate ▸ hl) t
      have hbegin : Shared.begin { s with course := ⟨b, f, ledger⟩ } =
          { s with course := ⟨b, f, ledger⟩ } := Shared.begin_of_ne hne
      rw [hbegin] at hstep
      refine ⟨t, _, _, hstep, ⟨rfl, .staying hb hk (fun _ => hfirst) hsub ?_ ?_⟩, rfl⟩
      · exact buffer?_set_self hbuf b
      · exact .flushing rfl (Work.isWaiting_flushing hne i rest) rfl

/-- The submission has left. -/
theorem Follows.of_reply (h : Follows p i d s k) {batch : List Entry} {backoff : Backoff}
    {rest : Rest} (hw : d.work = .flushing i (.submitting batch backoff) rest)
    (hgo : d.goWork = some d') :
    Follows p i d' s k ∧ ∃ f, d'.work = .flushing i f rest := by
  obtain ⟨rfl, hs⟩ := h
  cases hs with
  | staying hb hk hquiet hsub hbuf hc =>
    cases hc with
    | resting hne => simp [hw, Work.buffer?] at hne
    | flushing hw' hwait => rw [hw] at hwait; cases hwait
    | pausing hw' => rw [hw] at hw'; cases hw'
  | @sending b _ _ _ hb hvac hw' hbuf hc =>
    rw [hw] at hw'
    cases hw'
    cases works_of_goWork hw hgo with
    | @settled _ _ _ _ _ b' r tally f hbuf' hr hsettle =>
      cases hbuf.symm.trans hbuf'
      have hfinished : s.submission = .finished (some r) := by
        cases hsub : s.submission <;> simp [Buffers.reply?, hb.lanes, hsub] at hr
        rw [hr]
      cases hc with
      | undecided hes => rw [hfinished] at hes; cases hes
      | @decided r' t₁ _ hr' hsettled =>
        rw [hfinished] at hr'
        cases hr'
        -- the course has settled the reply with another tally
        obtain ⟨_, _, _, _, h₁, h₂⟩ := b.settle_tally t₁ d.tally batch backoff d.draw r
        cases hsettled.symm.trans h₁
        cases hsettle.symm.trans h₂
        have hwait := Work.isWaiting_flushing (Buffer.settle_ne_submitting h₂) i rest
        refine ⟨⟨rfl, .staying hb (.inr ⟨?_, hvac⟩) (fun _ => ?_) ?_ ?_ ?_⟩, _, rfl⟩
        · rw [hfinished]; rfl
        · rw [hfinished]; rfl
        · rw [hfinished]; rfl
        · exact buffer?_set_self hbuf _
        · exact .flushing rfl hwait rfl

/-- The flush pauses. -/
theorem Follows.of_pause (h : Follows p i d s k) {pause : Span} {backoff : Backoff} {rest : Rest}
    (hw : d.work = .flushing i (.pausing pause backoff) rest) (hgo : d.goWork = some d') :
    Follows p i d' s k ∧ ∃ wake, d'.work = .pausing i wake backoff rest := by
  obtain ⟨hp, hs⟩ := h
  cases works_of_goWork hw hgo
  cases hs with
  | sending _ _ hw' => rw [hw] at hw'; cases hw'
  | staying hb hk hquiet hsub hbuf hc =>
    have hf := hc.course_flush hw
    exact ⟨⟨hp, .staying hb hk (fun _ => hquiet (by rw [hw]; rfl)) hsub hbuf (.pausing rfl hf)⟩,
      _, rfl⟩

/-- The pause is over. -/
theorem Follows.of_wake (h : Follows p i d s k) {wake : Nat} {backoff : Backoff} {rest : Rest}
    (hw : d.work = .pausing i wake backoff rest) (hgo : d.goWork = some d') (t : Tally) :
    ∃ s', s.step p t .wake = some (t, s') ∧ Follows p i d' s' k ∧
      d'.work = .flushing i (.looking backoff) rest := by
  obtain ⟨hp, hs⟩ := h
  cases works_of_goWork hw hgo
  -- no batch is out during a pause
  cases hs with
  | sending _ _ hw' => rw [hw] at hw'; cases hw'
  | staying hb hk hquiet hsub hbuf hc =>
    cases hc with
    | resting hne => simp [hw, Work.buffer?] at hne
    | flushing hw' => rw [hw] at hw'; cases hw'
    | pausing hw' hf =>
      rw [hw] at hw'
      cases hw'
      refine ⟨{ s with course := { s.course with flush := .looking backoff } }, ?_, ⟨hp, ?_⟩, rfl⟩
      · simp [Shared.step, Shared.pass, Course.step, hf]
      · exact .staying hb hk (fun _ => hquiet (by rw [hw]; rfl)) hsub hbuf (.flushing rfl rfl rfl)

/-- The flush of the buffer goes on, unless it has finished. -/
theorem Follows.of_flush (h : Follows p i d s k) {rest : Rest} (hw : d.work.Flushes i rest)
    (hne : ∀ r, d.work ≠ .flushing i (.finished r) rest) (hgo : d.goWork = some d') (t : Tally) :
    ∃ es t' s', (∀ e ∈ es, e.isCall = false) ∧ Shared.run p es (t, s) = some (t', s') ∧
      Follows p i d' s' k ∧ d'.work.Flushes i rest := by
  generalize hwork : d.work = w at hw
  cases hw with
  | pausing =>
    obtain ⟨s', hs', h', hw'⟩ := h.of_wake hwork hgo t
    exact ⟨[.wake], t, s', by simp [Shared.Event.isCall], Shared.run_singleton hs', h',
      hw' ▸ .flushing⟩
  | @flushing f =>
    cases f with
    | looking =>
      obtain ⟨t', s', f, hs', h', hw'⟩ := h.of_look hwork hgo t
      exact ⟨[.look], t', s', by simp [Shared.Event.isCall], Shared.run_singleton hs', h',
        hw' ▸ .flushing⟩
    | submitting =>
      obtain ⟨h', f, hw'⟩ := h.of_reply hwork hgo
      exact ⟨[], t, s, List.forall_mem_nil _, rfl, h', hw' ▸ .flushing⟩
    | pausing =>
      obtain ⟨h', wake, hw'⟩ := h.of_pause hwork hgo
      exact ⟨[], t, s, List.forall_mem_nil _, rfl, h', hw' ▸ .pausing⟩
    | finished r => exact absurd hwork (hne r)

end Steps

end Rehearsal

end Outbox
