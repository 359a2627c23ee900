import Outbox.Proofs.Rehearsal.Following

/-!
# Buffers that are rehearsed

Whatever is instructed in a rehearsal of some buffers, what becomes of any of them and of
the writer is what becomes of a buffer that shares its writer by some events, up to the
instruction by which it is closed (`exists_run_of_plays`). What holds after every run
therefore holds of what is rehearsed.

* Between its calls a buffer is not touched (`Free`), whatever calls on others go on
  (`Follows.of_other`);
* a call on it begins and ends as it does in general (`Free.follow`, `Free.proceed`).
-/

namespace Outbox

/-- No batch is out yet when an entry is written. -/
theorem Buffer.write_ne_submitting {b b' : Buffer} {e : Entry} {f : Flush}
    (h : b.write e = (b', f)) (batch : List Entry) (backoff : Backoff) :
    f ≠ .submitting batch backoff := by
  rintro rfl
  obtain ⟨err, -, hw⟩ | ⟨-, -, hw⟩ := b.write_cases e <;> rw [hw] at h
  · cases h
  · obtain ⟨-, hf⟩ := Prod.mk.inj h
    split at hf
    · exact Buffer.flush_ne_submitting _ hf
    · cases hf

/-- An entry is written. -/
theorem Shared.step_write {p : Policy} {s : Shared} {e : Entry} {b : Buffer} {f : Flush}
    (hs : s.submission.isFinished = true) (hi : s.course.isIdle = true)
    (hw : s.course.buffer.write e = (b, f)) (t : Tally) :
    ∃ ledger, s.step p t (.call (.write e)) = some (t, { s with course := ⟨b, f, ledger⟩ }) := by
  simp only [step, pass, Course.step, Course.Event.isCall, Course.write, hs, hi, hw]
  exact ⟨_, rfl⟩

namespace Rehearsal

open Dispatch

variable {σ ρ : Type} [Client σ ρ]

/-! ## Writing -/

/-- By writing to a buffer it becomes another one, and a call goes on with some work. -/
structure Written (j : Nat) (b b' : Buffer) (w : Work) : Prop where
  isWaiting : w.isWaiting = false
  buffer? : w.buffer? = none ∨ w.buffer? = some j
  /-- The course of the buffer gets there as well. -/
  run : ∀ (p : Policy) (t : Tally) (s : Shared), s.course.buffer = b →
    s.course.isIdle = true → s.submission.isFinished = true →
    ∃ es c, Shared.run p es (t, s) = some (t, { s with course := c }) ∧ c.buffer = b' ∧
      Staying j w c

/-- However often a buffer is to be written to, it becomes one that is written to in general. -/
theorem exists_written (d : Buffers σ) (j : Nat) (b : Buffer) (make : String → Entry)
    (times : Nat) : ∃ made b' w,
      d.write j b make times = { d.set j b' with made, work := w } ∧ Written j b b' w := by
  induction times generalizing d b with
  | zero =>
    exact ⟨d.made, b, _, rfl, rfl, .inl rfl, fun p t s hb hi _ =>
      ⟨[], s.course, rfl, hb, .resting (Option.some_ne_none j).symm hi⟩⟩
  | succ times ih =>
    rcases hw : b.write (make (d.ids d.made)) with ⟨b₁, f⟩
    have hwait := Work.isWaiting_flushing (Buffer.write_ne_submitting hw) j (.writes times make)
    -- Unless the flush has finished well, nothing more is written.
    have stop : Written j b b₁ (.flushing j f (.writes times make)) := by
      refine ⟨hwait, .inr rfl, fun p t s hb hi hs => ?_⟩
      obtain ⟨ledger, hstep⟩ := Shared.step_write (p := p) hs hi (hb ▸ hw) t
      exact ⟨_, _, Shared.run_singleton hstep, rfl, .flushing rfl hwait rfl⟩
    cases f with
    | looking | submitting | pausing =>
      exact ⟨_, b₁, _, by rw [Buffers.write, hw], stop⟩
    | finished r =>
      cases r with
      | error => exact ⟨_, b₁, _, by rw [Buffers.write, hw], stop⟩
      | ok =>
        obtain ⟨made, b', w, hd, hw', hj, hrun⟩ :=
          ih { d with made := if b.aborted.isNone then d.made + 1 else d.made } b₁
        refine ⟨made, b', w, ?_, hw', hj, fun p t s hb hi hs => ?_⟩
        · rw [Buffers.write, hw]
          exact hd
        · obtain ⟨ledger, hstep⟩ := Shared.step_write (p := p) hs hi (hb ▸ hw) t
          obtain ⟨es, c, hes, hc⟩ :=
            hrun p t { s with course := ⟨b₁, .finished (.ok ()), ledger⟩ } rfl rfl hs
          exact ⟨_, c, by rw [Shared.run_cons, hstep]; exact hes, hc⟩

section Steps

variable {p : Policy} {i k : Nat} {d d' : Buffers σ} {s : Shared}

/-! ## Other calls -/

/-- No call on the buffer is under way, nor one in the first lane. -/
structure Free (p : Policy) (i : Nat) (d : Buffers σ) (s : Shared) (k : Nat) : Prop where
  policy : d.stage.policy = p
  beside : ∃ first, first.isFinished = true ∧ Beside d.stage.traffic first k s.others
  vacant : Vacant s.others k
  finished : s.submission.isFinished = true
  buffer : d.buffer? i = some s.course.buffer
  idle : s.course.isIdle = true

/-- What is waited for in the first lane has finished when a call goes on. -/
theorem isFinished_of_goWork {first : Call} {lanes : List Call}
    (hl : d.stage.traffic.lanes = first :: lanes) (hwait : d.work.isWaiting = true)
    (hgo : d.goWork = some d') : first.isFinished = true := by
  cases hwork : d.work with
  | flushing j f rest =>
    cases f with
    | submitting =>
      cases works_of_goWork hwork hgo with
      | settled _ hr _ =>
        simp only [Buffers.reply?, hl, List.head?_cons] at hr
        split at hr
        · rename_i hfirst
          cases hfirst
          rfl
        · cases hr
    | looking | pausing | finished => rw [hwork] at hwait; cases hwait
  | closing =>
    cases works_of_goWork hwork hgo with
    | closed hfirst =>
      rw [hl] at hfirst
      cases hfirst
      rfl
  | pausing | sleeping | finished => rw [hwork] at hwait; cases hwait

/-- A call that is not on the buffer goes on, or the next one begins. -/
theorem Follows.free (h : Follows p i d s k) (hw : d.work.buffer? ≠ some i)
    (hgo : d.work.isWaiting = true → ∃ d', d.goWork = some d') : Free p i d s k := by
  obtain ⟨hp, hs⟩ := h
  cases hs with
  | sending _ _ hw' => simp [hw', Work.buffer?] at hw
  | @staying first hb hk hquiet hsub hbuf hc =>
    have hi : s.course.isIdle = true := by
      cases hc with
      | resting _ hi => exact hi
      | flushing hw' | pausing hw' => simp [hw', Work.buffer?] at hw
    have hf : first.isFinished = true := by
      cases hwait : d.work.isWaiting with
      | false => exact hquiet hwait
      | true =>
        obtain ⟨d', hd'⟩ := hgo hwait
        exact isFinished_of_goWork hb.lanes hwait hd'
    exact ⟨hp, ⟨first, hf, hb⟩, hk.vacant hf, hsub, hbuf, hi⟩

/-- The flush of the buffer has finished. -/
theorem Follows.free_of_finished (h : Follows p i d s k) {r : Except Error Unit} {rest : Rest}
    (hw : d.work = .flushing i (.finished r) rest) : Free p i d s k := by
  obtain ⟨hp, hs⟩ := h
  cases hs with
  | sending _ _ hw' => rw [hw] at hw'; cases hw'
  | @staying first hb hk hquiet hsub hbuf hc =>
    have hf : first.isFinished = true := hquiet (by rw [hw]; rfl)
    refine ⟨hp, ⟨first, hf, hb⟩, hk.vacant hf, hsub, hbuf, ?_⟩
    rw [Course.isIdle, hc.course_flush hw]

/-- Something else begins that is not a call on the buffer. -/
theorem Free.rest (h : Free p i d s k) (hst : d'.stage = d.stage)
    (hbuf : d'.buffer? i = d.buffer? i) (hw : d'.work.buffer? ≠ some i) : Follows p i d' s k := by
  obtain ⟨first, hf, hb⟩ := h.beside
  exact ⟨hst ▸ h.policy, .staying (hst ▸ hb) (.inr ⟨hf, h.vacant⟩) (fun _ => hf) h.finished
    (hbuf ▸ h.buffer) (.resting hw h.idle)⟩

/-- A call that is not on the buffer begins in the first lane. -/
theorem Free.enter (h : Free p i d s k) (d' : Buffers σ) {e : Dispatch.Event} {c : Call}
    (hc : e.call? = some c) (he : e.lane = 0) (hst : d'.stage = d.stage.enter e)
    (hbuf : d'.buffer? i = d.buffer? i) (hw : d'.work.buffer? ≠ some i)
    (hwait : d'.work.isWaiting = true) (t : Tally) :
    ∃ e' s', s.step p t e' = some (t, s') ∧ Follows p i d' s' k := by
  obtain ⟨rfl, ⟨first, hf, hb⟩, hvac, hsub, hbuffer, hi⟩ := h
  obtain ⟨u, v, hu, hv, hb', hk⟩ := hb.beginFirst hf hvac hc he
  rw [Stage.enter_eq hu] at hst
  refine ⟨_, _, Shared.step_other hv t, hst ▸ rfl, .staying (hst ▸ hb') (.inl hk) ?_ hsub
    (hbuf ▸ hbuffer) (.resting hw hi)⟩
  rw [hwait]
  exact fun h => by cases h

/-- Something is written to a buffer. -/
theorem Free.write (h : Free p i d s k) {j : Nat} {b : Buffer} (hb : d.buffer? j = some b)
    (make : String → Entry) (times : Nat) (t : Tally) : ∃ es t' s',
      Shared.run p es (t, s) = some (t', s') ∧ Follows p i (d.write j b make times) s' k := by
  obtain ⟨made, b', w, hd, hw⟩ := exists_written d j b make times
  rw [hd]
  by_cases hj : j = i
  · subst hj
    obtain rfl : b = s.course.buffer := Option.some.inj (hb.symm.trans h.buffer)
    obtain ⟨es, c, hes, rfl, hc⟩ := hw.run p t s rfl h.idle h.finished
    obtain ⟨first, hf, hbeside⟩ := h.beside
    exact ⟨es, t, _, hes, h.policy, .staying hbeside (.inr ⟨hf, h.vacant⟩) (fun _ => hf)
      h.finished (buffer?_set_self h.buffer _) hc⟩
  · refine ⟨[], t, s, rfl, h.rest rfl (buffer?_set_ne hj b') ?_⟩
    obtain hnone | hsome := hw.buffer?
    · simp [hnone]
    · simpa [hsome] using hj

/-- The flush of a buffer, be it this one, has finished. -/
theorem Free.proceed (h : Free p i d s k) (j : Nat) (r : Except Error Unit) (rest : Rest)
    (t : Tally) : ∃ es t' s', Shared.run p es (t, s) = some (t', s') ∧
      Follows p i (d.proceed j r rest) s' k := by
  cases rest with
  | nothing => exact ⟨[], t, s, rfl, h.rest rfl rfl (Option.some_ne_none i).symm⟩
  | writes times make =>
    simp only [Buffers.proceed]
    split
    · rename_i b hb
      exact h.write hb make times t
    · exact ⟨[], t, s, rfl, h.rest rfl rfl (Option.some_ne_none i).symm⟩
  | closing =>
    obtain ⟨e, s', hstep, h'⟩ := h.enter (d.proceed j r .closing) (e := .close 0) rfl rfl rfl rfl
      (Option.some_ne_none i).symm rfl t
    exact ⟨[e], t, s', Shared.run_singleton hstep, h'⟩

/-- A call that is not on the buffer goes on. -/
theorem Follows.of_other (h : Follows p i d s k) (hw : d.work.buffer? ≠ some i)
    (hgo : d.goWork = some d') (t : Tally) : ∃ es t' s',
      Shared.run p es (t, s) = some (t', s') ∧ Follows p i d' s' k := by
  have hfree := h.free hw fun _ => ⟨d', hgo⟩
  have hne {j : Nat} (hj : d.work.buffer? = some j) : j ≠ i := by
    rintro rfl
    exact hw hj
  -- the work touches its own buffer only; what is left to show is that the first lane is free
  -- where it enters a call
  cases hwork : d.work with
  | flushing j f rest =>
    have hj : j ≠ i := hne (by rw [hwork]; rfl)
    have hj' (f : Flush) : Work.buffer? (.flushing j f rest) ≠ some i := by
      simpa [Work.buffer?] using hj
    cases works_of_goWork hwork hgo with
    | @proceeded _ r => exact hfree.proceed j r rest t
    | paused =>
      exact ⟨[], t, s, rfl, hfree.rest rfl rfl (by simpa [Work.buffer?] using hj)⟩
    | @submitted _ _ backoff' _ _ b' batch =>
      let next : Buffers σ := { d.set j b' with
        stage := d.stage.enter (.submit 0 batch)
        work := .flushing j (.submitting batch backoff') rest }
      obtain ⟨e, s', hstep, h'⟩ := hfree.enter next (e := .submit 0 batch) rfl rfl rfl
        (buffer?_set_ne hj b') (hj' _) rfl t
      exact ⟨[e], t, s', Shared.run_singleton hstep, h'⟩
    | looked | settled =>
      exact ⟨[], t, s, rfl, hfree.rest rfl (buffer?_set_ne hj _) (hj' _)⟩
  | pausing j wake backoff rest =>
    have hj : j ≠ i := hne (by rw [hwork]; rfl)
    cases works_of_goWork hwork hgo
    exact ⟨[], t, s, rfl, hfree.rest rfl rfl (by simpa [Work.buffer?] using hj)⟩
  | closing | sleeping =>
    cases works_of_goWork hwork hgo
    exact ⟨[], t, s, rfl, hfree.rest rfl rfl (Option.some_ne_none i).symm⟩
  | finished => cases works_of_goWork hwork hgo

/-- The call goes on, be it on the buffer or not. -/
theorem Follows.of_work (h : Follows p i d s k) (hgo : d.goWork = some d') (t : Tally) :
    ∃ es t' s', Shared.run p es (t, s) = some (t', s') ∧ Follows p i d' s' k := by
  have own (rest : Rest) (hw : d.work.Flushes i rest)
      (hne : ∀ r, d.work ≠ .flushing i (.finished r) rest) : ∃ es t' s',
      Shared.run p es (t, s) = some (t', s') ∧ Follows p i d' s' k := by
    obtain ⟨es, t', s', -, hes, h', -⟩ := h.of_flush hw hne hgo t
    exact ⟨es, t', s', hes, h'⟩
  -- the work is on this buffer, or on another one
  by_cases hw : d.work.buffer? = some i
  · cases hwork : d.work with
    | flushing j f rest =>
      obtain rfl : j = i := by simpa [hwork, Work.buffer?] using hw
      cases f with
      | finished r =>
        cases works_of_goWork hwork hgo
        exact (h.free_of_finished hwork).proceed j r rest t
      | looking | submitting | pausing => exact own rest (hwork ▸ .flushing) (by simp [hwork])
    | pausing j wake backoff rest =>
      obtain rfl : j = i := by simpa [hwork, Work.buffer?] using hw
      exact own rest (hwork ▸ .pausing) (by simp [hwork])
    | closing | sleeping | finished => simp [hwork, Work.buffer?] at hw
  · exact h.of_other hw hgo t

/-! ## Rehearsals -/

/-- What goes on in a rehearsal is a step of the stage, of the call on the buffers, or of
    the closing in the background. -/
theorem go_cases (h : d.go = some d') :
    (∃ lane st, d.stage.go lane = some st ∧ d' = { d with stage := st }) ∨
      d.goWork = some d' ∨ d.goClosing = some d' := by
  simp only [Buffers.go, Option.orElse_eq_some, Option.map_eq_some_iff, Stage.goAny,
    Option.bind_eq_some_iff] at h
  obtain ⟨st, hst, rfl⟩ | ⟨-, hw | ⟨-, hc | ⟨-, st, ⟨lane, -, hst⟩, rfl⟩⟩⟩ := h
  · exact .inl ⟨0, st, hst, rfl⟩
  · exact .inr (.inl hw)
  · exact .inr (.inr hc)
  · exact .inl ⟨lane, st, hst, rfl⟩

/-- Time passes. -/
theorem Follows.of_time (h : Follows p i d s k) (now : Nat) :
    Follows p i { d with stage := { d.stage with now } } s k := by
  obtain ⟨hp, hs⟩ := h
  cases hs with
  | staying hb hk hquiet hsub hbuf hc => exact ⟨hp, .staying hb hk hquiet hsub hbuf hc⟩
  | sending hb hv hw hbuf hc => exact ⟨hp, .sending hb hv hw hbuf hc⟩

/-- Something goes on in the rehearsal. -/
theorem Follows.of_go (h : Follows p i d s k) (hgo : d.go = some d') (t : Tally) :
    ∃ es t' s' k', Shared.run p es (t, s) = some (t', s') ∧ Follows p i d' s' k' := by
  obtain ⟨lane, st, hst, rfl⟩ | hw | hc := go_cases hgo
  · obtain ⟨e, t', s', -, hstep, h'⟩ := h.of_stage hst t
    exact ⟨[e], t', s', k, Shared.run_singleton hstep, h'⟩
  · obtain ⟨es, t', s', hes, h'⟩ := h.of_work hw t
    exact ⟨es, t', s', k, hes, h'⟩
  · obtain ⟨e, s', k', -, hstep, h'⟩ := h.of_background hc t
    exact ⟨[e], t, s', k', Shared.run_singleton hstep, h'⟩

/-- Things go on in the rehearsal until nothing can. -/
theorem Follows.of_run (h : Follows p i d s k) (fuel : Nat) (t : Tally) :
    ∃ es t' s' k', Shared.run p es (t, s) = some (t', s') ∧ Follows p i (d.run fuel) s' k' := by
  induction fuel generalizing d s k t with
  | zero => exact ⟨[], t, s, k, rfl, h⟩
  | succ fuel ih =>
    -- something goes on, or time passes, or the run is over
    unfold Buffers.run
    split
    · rename_i d' hgo
      obtain ⟨es, t₁, s₁, k₁, hes, h₁⟩ := h.of_go hgo t
      obtain ⟨es', t', s', k', hes', h'⟩ := ih h₁ t₁
      exact ⟨es ++ es', t', s', k', by rw [Shared.run_append, hes]; exact hes', h'⟩
    · split
      · rename_i now _ _
        split
        · exact ih (h.of_time now) t
        · exact ⟨[], t, s, k, rfl, h⟩
      · exact ⟨[], t, s, k, rfl, h⟩

/-- A flush of the buffer is called for. -/
theorem Free.call (h : Free p i d s k) {e : Course.Event} {f : Flush} (he : e.isCall = true)
    (hf : ∀ t, s.course.step p t e = some (t, { s.course with flush := f }))
    (hne : ∀ batch backoff, f ≠ .submitting batch backoff) (rest : Rest) (t : Tally) :
    s.step p t (.call e) = some (t, { s with course := { s.course with flush := f } }) ∧
      Follows p i { d with work := .flushing i f rest }
        { s with course := { s.course with flush := f } } k := by
  obtain ⟨first, hfirst, hb⟩ := h.beside
  refine ⟨?_, h.policy, .staying hb (.inr ⟨hfirst, h.vacant⟩) (fun _ => hfirst) h.finished h.buffer
    (.flushing rfl (Work.isWaiting_flushing hne i rest) rfl)⟩
  simp [Shared.step, Shared.pass, he, h.finished, hf]

/-- A call begins as instructed. -/
theorem Free.follow (h : Free p i d s k) (ins : BufferInstruction) (t : Tally) :
    ∃ es t' s', Shared.run p es (t, s) = some (t', s') ∧ Follows p i (d.follow ins) s' k := by
  have rest {w : Work} (hw : w.buffer? ≠ some i) : ∃ es t' s',
      Shared.run p es (t, s) = some (t', s') ∧ Follows p i { d with work := w } s' k :=
    ⟨[], t, s, rfl, h.rest rfl rfl hw⟩
  -- only a call on this buffer is a call in general; one on another buffer begins some work,
  -- which is not followed
  cases ins with
  | write j times make =>
    simp only [Buffers.follow]
    split
    · exact rest (Option.some_ne_none i).symm
    · rename_i b hb
      exact h.write hb make times t
  | flush j =>
    simp only [Buffers.follow]
    split
    · exact rest (Option.some_ne_none i).symm
    · rename_i b hb
      by_cases hj : j = i
      · subst hj
        obtain rfl : b = s.course.buffer := Option.some.inj (hb.symm.trans h.buffer)
        obtain ⟨hstep, h'⟩ := h.call (e := .flush) (f := s.course.buffer.flush) rfl
          (by simp [Course.step, h.idle]) (fun _ _ => Buffer.flush_ne_submitting _) .nothing t
        exact ⟨_, t, _, Shared.run_singleton hstep, h'⟩
      · exact rest (by simpa [Work.buffer?] using hj)
  | close j =>
    simp only [Buffers.follow]
    split
    · exact rest (Option.some_ne_none i).symm
    · rename_i b hb
      by_cases hj : j = i
      · subst hj
        obtain rfl : b = s.course.buffer := Option.some.inj (hb.symm.trans h.buffer)
        obtain ⟨hstep, h'⟩ := h.call (e := .lastFlush) (f := s.course.buffer.lastFlush) rfl
          (by simp [Course.step, h.idle]) (fun _ _ => Buffer.lastFlush_ne_submitting _) .closing t
        exact ⟨_, t, _, Shared.run_singleton hstep, h'⟩
      · exact rest (by simpa [Work.buffer?] using hj)
  | closeWriter =>
    obtain ⟨e, s', hstep, h'⟩ := h.enter (d.follow .closeWriter) (e := .close 0) rfl rfl rfl rfl
      (Option.some_ne_none i).symm rfl t
    exact ⟨[e], t, s', Shared.run_singleton hstep, h'⟩
  | closeWriterAfter ms => exact ⟨[], t, s, rfl, h.rest rfl rfl (Option.some_ne_none i).symm⟩
  | sleep ms => exact rest (Option.some_ne_none i).symm

end Steps

/-- Follows some instructions, as long as each call comes to its end. -/
def Buffers.plays (d : Buffers σ) : List BufferInstruction → Option (Buffers σ)
  | [] => some d
  | ins :: rest =>
    let (report, d) := d.play ins
    if report.ending.isSome then d.plays rest else none

variable {p : Policy} {i k : Nat} {d d' : Buffers σ} {s : Shared}

/-- A call that has ended leaves the buffer free. -/
theorem Follows.free_of_ending (h : Follows p i d s k) (hd : d.ending?.isSome = true) :
    Free p i d s k := by
  unfold Buffers.ending? at hd
  split at hd
  · rename_i e hw
    exact h.free (by simp [hw, Work.buffer?]) (by simp [hw, Work.isWaiting])
  · cases hd

/-- A call on the buffers that returns leaves each buffer free, except that which it has closed. -/
theorem Free.play (h : Free p i d s k) {ins : BufferInstruction} (hins : ins ≠ .close i)
    (hend : (d.play ins).1.ending.isSome = true) (t : Tally) : ∃ es t' s' k',
      Shared.run p es (t, s) = some (t', s') ∧ Free p i (d.play ins).2 s' k' := by
  obtain ⟨es, t₁, s₁, hes, h₁⟩ := h.follow ins t
  obtain ⟨es', t', s', k', hes', h'⟩ := h₁.of_run (d.enough ins) t₁
  refine ⟨es ++ es', t', s', k', by rw [Shared.run_append, hes]; exact hes', ?_⟩
  -- the call has ended, so that the buffer is free again
  have hend' : ((d.follow ins).run (d.enough ins)).ending?.isSome = true := by
    cases ins <;> exact hend
  have hfree := h'.free_of_ending hend'
  obtain ⟨hp, hb, hv, hsub, hbuf, hi⟩ := hfree
  refine ⟨?_, ?_, hv, hsub, ?_, hi⟩
  · cases ins <;> exact hp
  · cases ins <;> exact hb
  · cases ins with
    | close j =>
      have hj : j ≠ i := fun hj => hins (hj ▸ rfl)
      rw [← hbuf]
      simp [Buffers.play, Buffers.buffer?, List.getElem?_set_ne hj]
    | write | flush | closeWriter | closeWriterAfter | sleep => exact hbuf

/-- So do all calls one after the other. -/
theorem Free.plays (h : Free p i d s k) {is : List BufferInstruction}
    (his : BufferInstruction.close i ∉ is) (hd : d.plays is = some d') (t : Tally) :
    ∃ es t' s' k', Shared.run p es (t, s) = some (t', s') ∧ Free p i d' s' k' := by
  induction is generalizing d s k t with
  | nil =>
    cases hd
    exact ⟨[], t, s, k, rfl, h⟩
  | cons ins is ih =>
    rw [Buffers.plays] at hd
    obtain ⟨hend, hd⟩ := Option.ite_none_right_eq_some.1 hd
    rw [List.mem_cons, not_or] at his
    obtain ⟨es, t₁, s₁, k₁, hes, h₁⟩ := h.play (Ne.symm his.1) hend t
    obtain ⟨es', t', s', k', hes', h'⟩ := ih h₁ his.2 hd t₁
    exact ⟨es ++ es', t', s', k', by rw [Shared.run_append, hes]; exact hes', h'⟩

/-- At first nothing is under way. -/
theorem free_start {stage : Stage σ} {buffers : List Buffer} {ids : Nat → String} {b : Buffer}
    (hb : buffers[i]? = some b) : Free stage.policy i (Buffers.start stage buffers ids)
      { course := { buffer := b } } 0 where
  policy := rfl
  beside := ⟨.closing .finished, rfl, rfl, rfl, Nat.le_refl 0⟩
  vacant c hc := by cases hc
  finished := rfl
  buffer := by simp [Buffers.start, Buffers.buffer?, hb]
  idle := rfl

/-- Whatever is instructed, what becomes of a buffer in a rehearsal, and of its writer, is
    what may become of them in any case, until the buffer is closed. -/
theorem exists_run_of_plays {stage : Stage σ} {buffers : List Buffer} {ids : Nat → String}
    {is : List BufferInstruction} {b : Buffer} (hb : buffers[i]? = some b)
    (his : BufferInstruction.close i ∉ is)
    (hd : (Buffers.start stage buffers ids).plays is = some d) : ∃ es t s k,
      Shared.run stage.policy es ({}, { course := { buffer := b } }) = some (t, s) ∧
      Free stage.policy i d s k :=
  (free_start hb).plays his hd {}

end Rehearsal

end Outbox
