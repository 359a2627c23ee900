import Outbox.Proofs.Course.Shutdown
import Outbox.Proofs.Rehearsal.Buffers

/-!
# Closing a buffer that is rehearsed

The instruction to close a buffer does what the closing of a buffer does in general
(`Closes`): it begins with the last flush, goes on with a call in the first lane by which
the writer is closed, whatever has become of the flush, and ends with the result of the
flush. Every close that returns in a rehearsal is therefore one that returns in general,
with the same result (`exists_shutdown_of_play`).
-/

namespace Outbox.Rehearsal

open Dispatch

variable {σ ρ : Type} [Client σ ρ] {p : Policy} {i k : Nat} {d d' : Buffers σ} {t : Tally}
  {D : Shutdown}

/-- How far a buffer of a rehearsal is closed. -/
inductive Closes (p : Policy) (i : Nat) (d : Buffers σ) (t : Tally) (D : Shutdown) (k : Nat) : Prop
  /-- The last flush is under way, or has finished. -/
  | flushing : D.stage = .flushing → d.work.Flushes i .closing → Follows p i d D.shared k →
      Closes p i d t D k
  /-- The writer is being closed in the first lane. -/
  | closing {r : Except Error Unit} {c : Closing} : D.stage = .closing k r →
      d.work = .closing (.result r) → d.stage.policy = p →
      Beside d.stage.traffic (.closing c) k D.shared.others →
      D.shared.others.lanes[k]? = some (.closing c) → D.shared.submission.isFinished = true →
      d.buffer? i = some D.shared.course.buffer → D.shared.course.isIdle = true →
      Closes p i d t D k
  /-- The others go on. -/
  | returned {r : Except Error Unit} {es : List Shared.Event} {t' : Tally} {s : Shared} :
      D.stage = .returned r → d.work = .finished (.result r) →
      Shared.run p es (t, D.shared) = some (t', s) → Follows p i d s k → Closes p i d t D k

/-- By some steps the machine gets where the rehearsal has got. -/
def Gets (p : Policy) (i : Nat) (d' : Buffers σ) (t : Tally) (D : Shutdown) : Prop :=
  ∃ es t' D' k', Shutdown.run p es (t, D) = some (t', D') ∧ Closes p i d' t' D' k'

/-- The last flush goes on. -/
theorem Gets.of_flushing (hD : D.stage = .flushing) {es : List Shared.Event} {t' : Tally}
    {s : Shared} (hes : ∀ e ∈ es, e.isCall = false)
    (hrun : Shared.run p es (t, D.shared) = some (t', s)) (hw : d'.work.Flushes i .closing)
    (h : Follows p i d' s k) : Gets p i d' t D :=
  ⟨_, t', ⟨s, .flushing⟩, k, Shutdown.run_flushing hD hes hrun, .flushing rfl hw h⟩

/-- The writer goes on being closed. -/
theorem Gets.of_closing {r : Except Error Unit} (hD : D.stage = .closing k r)
    {e : Dispatch.Event} {v : Traffic} (he : Shutdown.isKept k e = true)
    (hv : D.shared.others.step p e = some v)
    (h : Closes p i d' t ⟨{ D.shared with others := v }, .closing k r⟩ k) : Gets p i d' t D := by
  have hstep : D.step p t (.shared (.other e)) =
      some (t, ⟨{ D.shared with others := v }, .closing k r⟩) := by
    simp [Shutdown.step, hD, he, Shutdown.pass, Shared.step_other hv t]
  exact ⟨_, t, _, k, Shutdown.run_singleton hstep, h⟩

/-- The others go on after the result was returned. -/
theorem Gets.of_returned {r : Except Error Unit} (hD : D.stage = .returned r)
    (hw : d'.work = .finished (.result r)) {es es' : List Shared.Event} {t₁ t' : Tally}
    {s₁ s : Shared} (hrun : Shared.run p es (t, D.shared) = some (t₁, s₁))
    (hrun' : Shared.run p es' (t₁, s₁) = some (t', s)) (h : Follows p i d' s k) :
    Gets p i d' t D := by
  have hboth : Shared.run p (es ++ es') (t, D.shared) = some (t', s) := by
    rw [Shared.run_append, hrun]
    exact hrun'
  exact ⟨[], t, D, k, rfl, .returned hD hw hboth h⟩

/-- The stage lets something happen in a lane. -/
theorem Closes.of_stage (h : Closes p i d t D k) {lane : Nat} {st : Stage σ}
    (hgo : d.stage.go lane = some st) : Gets p i { d with stage := st } t D := by
  cases h with
  | flushing hD hw h =>
    obtain ⟨e, t', s', he, hstep, h'⟩ := h.of_stage hgo t
    exact .of_flushing hD (by simpa using he) (Shared.run_singleton hstep) hw h'
  | @closing r c hD hw hp hb hk hsub hbuf hi =>
    subst hp
    obtain ⟨e, he, hstep, hp⟩ := Stage.step_of_go hgo
    -- the call that closes the writer is in the first lane
    cases lane with
    | succ lane =>
      obtain ⟨lane', v, hne, hv, hb', hk'⟩ := hb.other he hstep
      have hkept : Shutdown.isKept k (e.inLane lane') = true := by
        simp [Shutdown.isKept, Event.lane_inLane, hne]
      exact .of_closing hD hkept hv (.closing rfl hw hp hb' (hk'.trans hk) hsub hbuf hi)
    | zero =>
      obtain ⟨first', v, hv, hb', hk', asks, hcall⟩ := hb.inFirst hk he hstep
      obtain ⟨c', rfl⟩ := hcall.of_closing
      have hkept : Shutdown.isKept k (e.inLane k) = true := by
        cases he with
        | go | clientReleased => exact Bool.or_true _
        | answer => cases hcall
      exact .of_closing hD hkept hv (.closing rfl hw hp hb' hk' hsub hbuf hi)
  | returned hD hw hrun h =>
    obtain ⟨e, t', s', -, hstep, h'⟩ := h.of_stage hgo _
    exact .of_returned hD hw hrun (Shared.run_singleton hstep) h'

/-- The writer begins to be closed in the background. -/
theorem Closes.of_background (h : Closes p i d t D k) (hgo : d.goClosing = some d') :
    Gets p i d' t D := by
  obtain ⟨j, -, hd⟩ := Option.bind_eq_some_iff.1 hgo
  cases h with
  | flushing hD hw h =>
    obtain ⟨e, s', k', he, hstep, h'⟩ := h.of_background hgo t
    obtain rfl := Option.some.inj hd
    exact .of_flushing hD (by simpa using he) (Shared.run_singleton hstep) hw h'
  | closing hD hw hp hb hk hsub hbuf hi =>
    subst hp
    obtain ⟨u, v, k', hu, hv, hb', hk', hsame⟩ := hb.beginLast (p := d.stage.policy)
    -- the lane of the call that closes the writer stays its own
    have hlt := (List.getElem?_eq_some_iff.1 hk).1
    obtain rfl := hsame hlt
    obtain rfl := Option.some.inj hd
    have hkept : Shutdown.isKept k' (.close D.shared.others.lanes.length) = true := by
      simp [Shutdown.isKept, Event.lane, hlt.ne']
    rw [Stage.enter_eq hu]
    exact .of_closing hD hkept hv (.closing rfl hw rfl hb' (hk'.trans hk) hsub hbuf hi)
  | @returned _ _ t₁ _ hD hw hrun h =>
    obtain ⟨e, s', k', -, hstep, h'⟩ := h.of_background hgo t₁
    obtain rfl := Option.some.inj hd
    exact .of_returned hD hw hrun (Shared.run_singleton hstep) h'

/-- The last flush has finished, and the writer begins to be closed. -/
theorem Closes.of_finished {r : Except Error Unit} (hD : D.stage = .flushing)
    (hw : d.work = .flushing i (.finished r) .closing) (h : Follows p i d D.shared k)
    (hgo : d.goWork = some d') : Gets p i d' t D := by
  obtain ⟨rfl, ⟨first, hf, hb⟩, hvac, hsub, hbuf, hi⟩ := h.free_of_finished hw
  have hflush : D.shared.course.flush = .finished r := by
    cases h.stands with
    | staying _ _ _ _ _ hc => exact hc.course_flush hw
    | sending _ _ hw' => rw [hw] at hw'; cases hw'
  obtain ⟨u, v, hu, hv, hb', hk⟩ :=
    hb.beginFirst (p := d.stage.policy) (e := .close 0) hf hvac rfl rfl
  have hstep : D.step d.stage.policy t (.closeWriter k) =
      some (t, ⟨{ D.shared with others := v }, .closing k r⟩) := by
    have hv : D.shared.others.step d.stage.policy (.close k) = some v := hv
    simp [Shutdown.step, hD, hflush, hsub, Shutdown.pass, Shared.step_other hv t]
  cases works_of_goWork hw hgo
  rw [Buffers.proceed, Stage.enter_eq hu]
  exact ⟨_, t, _, k, Shutdown.run_singleton hstep, .closing rfl rfl rfl hb' hk hsub hbuf hi⟩

/-- The call goes on. -/
theorem Closes.of_work (h : Closes p i d t D k) (hgo : d.goWork = some d') : Gets p i d' t D := by
  cases h with
  | flushing hD hw h =>
    -- a flush that has finished is followed by the closing of the writer
    by_cases hfin : ∃ r, d.work = .flushing i (.finished r) .closing
    · obtain ⟨r, hfin⟩ := hfin
      exact of_finished hD hfin h hgo
    · obtain ⟨es, t', s', hes, hrun, h', hw'⟩ := h.of_flush hw (not_exists.1 hfin) hgo t
      exact .of_flushing hD hes hrun hw' h'
  | @closing r c hD hw hp hb hk hsub hbuf hi =>
    -- the work goes on only when the writer has been closed
    cases works_of_goWork hw hgo with
    | closed hc =>
      rw [hb.lanes] at hc
      cases hc
      have h : Follows p i d D.shared k := ⟨hp, .staying hb (.inl hk)
        (by simp [hw, Work.isWaiting]) hsub hbuf (.resting (by simp [hw, Work.buffer?]) hi)⟩
      obtain ⟨es, t', s', hes, h'⟩ := h.of_other (by simp [hw, Work.buffer?]) hgo t
      have hstep : D.step p t .finish = some (t, { D with stage := .returned r }) := by
        simp [Shutdown.step, hD, hk]
      exact ⟨_, t, _, k, Shutdown.run_singleton hstep, .returned rfl rfl hes h'⟩
  | returned hD hw => cases works_of_goWork hw hgo

/-- Something goes on in the rehearsal. -/
theorem Closes.of_go (h : Closes p i d t D k) (hgo : d.go = some d') : Gets p i d' t D := by
  obtain ⟨lane, st, hst, rfl⟩ | hw | hc := go_cases hgo
  · exact h.of_stage hst
  · exact h.of_work hw
  · exact h.of_background hc

/-- Further steps can be put in front. -/
theorem Gets.trans {t' : Tally} {D' : Shutdown} {es : List Shutdown.Event}
    (h : Shutdown.run p es (t, D) = some (t', D')) (h' : Gets p i d' t' D') : Gets p i d' t D := by
  obtain ⟨es', t'', D'', k, hes', hc⟩ := h'
  exact ⟨es ++ es', t'', D'', k, by rw [Shutdown.run_append, h]; exact hes', hc⟩

/-- Time passes. -/
theorem Closes.of_time (h : Closes p i d t D k) (now : Nat) :
    Closes p i { d with stage := { d.stage with now } } t D k := by
  cases h with
  | flushing hD hw h => exact .flushing hD hw (h.of_time now)
  | closing hD hw hp hb hk hsub hbuf hi => exact .closing hD hw hp hb hk hsub hbuf hi
  | returned hD hw hrun h => exact .returned hD hw hrun (h.of_time now)

/-- Things go on in the rehearsal until nothing can. -/
theorem Closes.of_run (h : Closes p i d t D k) (fuel : Nat) : Gets p i (d.run fuel) t D := by
  induction fuel generalizing d t D k with
  | zero => exact ⟨[], t, D, k, rfl, h⟩
  | succ fuel ih =>
    unfold Buffers.run
    split
    · rename_i d' hgo
      obtain ⟨es, t', D', k', hes, h'⟩ := h.of_go hgo
      exact .trans hes (ih h')
    · split
      · rename_i now _ _
        split
        · exact ih (h.of_time now)
        · exact ⟨[], t, D, k, rfl, h⟩
      · exact ⟨[], t, D, k, rfl, h⟩

/-- The buffer is closed as instructed. -/
theorem Free.close {s : Shared} (h : Free p i d s k) (t : Tally) :
    Gets p i ((d.follow (.close i)).run (d.enough (.close i))) t { shared := s } := by
  obtain ⟨hstep, h'⟩ := h.call (e := .lastFlush) (f := s.course.buffer.lastFlush) rfl
    (by simp [Course.step, h.idle]) (fun _ _ => Buffer.lastFlush_ne_submitting _) .closing t
  have hfollow : d.follow (.close i) =
      { d with work := .flushing i s.course.buffer.lastFlush .closing } := by
    simp [Buffers.follow, h.buffer]
  have hcall : Shutdown.step p t { shared := s } .call =
      some (t, ⟨{ s with course := s.course.closing }, .flushing⟩) := by
    simp only [Shutdown.step, Shutdown.pass, hstep]
    rfl
  have hbegun : Closes p i (d.follow (.close i)) t
      ⟨{ s with course := s.course.closing }, .flushing⟩ k :=
    hfollow ▸ .flushing rfl .flushing h'
  exact .trans (Shutdown.run_singleton hcall) (hbegun.of_run _)

/-- The gate is the same in both. -/
theorem Follows.gate_eq {s : Shared} (h : Follows p i d s k) :
    s.others.gate = d.stage.traffic.gate := by
  cases h.stands with
  | staying hb => exact hb.gate
  | sending hb => exact hb.gate

/-- A close that returns in a rehearsal, whatever was rehearsed before, returns the same
    result in general. The writer of the rehearsal is then in a state that the writer may be
    in later. -/
theorem exists_shutdown_of_play {stage : Stage σ} {buffers : List Buffer} {ids : Nat → String}
    {is : List BufferInstruction} {b : Buffer} (hb : buffers[i]? = some b)
    (his : BufferInstruction.close i ∉ is)
    (h : (Buffers.start stage buffers ids).plays is = some d) {r : Except Error Unit}
    (hend : (d.play (.close i)).1.ending = some (.result r)) : ∃ es t₀ s₀ es' t₁ D es'' t₂ s,
      Shared.run stage.policy es ({}, { course := { buffer := b } }) = some (t₀, s₀) ∧
      Shutdown.run stage.policy es' (t₀, { shared := s₀ }) = some (t₁, D) ∧
      D.stage = .returned r ∧ Shared.run stage.policy es'' (t₁, D.shared) = some (t₂, s) ∧
      s.others.gate = (d.play (.close i)).2.stage.traffic.gate := by
  obtain ⟨es, t₀, s₀, k₀, hes, hfree⟩ := exists_run_of_plays hb his h
  obtain ⟨es', t₁, D, k, hes', hc⟩ := hfree.close t₀
  have hwork : ((d.follow (.close i)).run (d.enough (.close i))).work = .finished (.result r) := by
    simp only [Buffers.play, Buffers.ending?] at hend
    split at hend
    · rename_i hw
      exact hw.trans (congrArg Work.finished (Option.some.inj hend))
    · cases hend
  -- the call has returned, so the buffer is not being flushed, nor the writer being closed
  cases hc with
  | flushing _ hw =>
    rw [hwork] at hw
    cases hw
  | closing _ hw =>
    rw [hwork] at hw
    cases hw
  | returned hD hw hrun h' =>
    rw [hwork] at hw
    cases hw
    exact ⟨es, t₀, s₀, es', t₁, D, _, _, _, hes, hes', hD, hrun, h'.gate_eq⟩

/-- An entry is written, and the buffer closed: the close succeeds. -/
example :
    let stage : Stage Scripted := { policy := {}, destination := "queue", client := {} }
    let succeeds : Option BufferEnding → Bool
      | some (.result (.ok ())) => true
      | _ => false
    ((Buffers.start stage [{ settings := {} }] fun _ => "a").plays
      [.write 0 1 fun id => { id }]).map (fun d => succeeds (d.play (.close 0)).1.ending) =
      some true := by
  decide +kernel

end Outbox.Rehearsal
