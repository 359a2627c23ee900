import Outbox.Proofs.Course.Flushing
import Outbox.Proofs.Course.Limits
import Outbox.Proofs.Dispatch.Steps

/-!
# A writer that others may close

A buffer is not alone on its writer: between any two steps of a flush, and of
the submission of its batch, anything may happen to the other calls, one of which
may close the writer (`Shared`). A call on the buffer that fails for this reason
has come upon the shut gate in one of two places (`Shared.Failed`):

* when the flush looked at it, before a batch was taken off the buffer. All that
  is not delivered still waits, in its order;
* when the batch was to be let in, as the gate was shut after that look
  (`Shared.Raced`). The batch is dropped: it is not delivered, nor is it handed
  back. All else still waits, in its order.

So nothing is dropped exactly if there is no such race
(`Shared.spared_iff_not_raced`), which there may be (`Shared.not_spared_of_race`).

The buffers of a rehearsal share their writer in this way
(`Rehearsal.exists_run_of_plays`).
-/

namespace Outbox

open Dispatch (Submission Traffic)

/-- The entries of a submission that is not decided yet. -/
def Dispatch.Submission.entries? : Submission → Option (List Entry)
  | .arriving es | .counted es | .admitted es | .outstanding es => some es
  | .leaving _ | .announcing _ | .finished _ => none

/-- A list is divided at the last place of an element in one way only. -/
theorem append_cons_left_inj {α : Type} {a : α} {l l' r r' : List α}
    (h : l ++ a :: r = l' ++ a :: r') (hr : a ∉ r) (hr' : a ∉ r') : l = l' := by
  -- Were the one place before the other, then the element would come again after it.
  rcases List.append_eq_append_iff.1 h with ⟨m, rfl, hm⟩ | ⟨m, rfl, hm⟩
  · rcases m with _ | ⟨b, m⟩
    · exact (List.append_nil l).symm
    · obtain ⟨-, rfl⟩ := List.cons.inj hm
      exact absurd (List.mem_append_right m (List.mem_cons_self ..)) hr
  · rcases m with _ | ⟨b, m⟩
    · exact List.append_nil l'
    · obtain ⟨-, rfl⟩ := List.cons.inj hm
      exact absurd (List.mem_append_right m (List.mem_cons_self ..)) hr'

/-- What waits at first, and is written then, is delivered, dropped or still
    waiting. What is dropped came first of all that was not delivered. -/
structure Course.Spares (c₀ : Course) (waiting dropped : List Entry) (c : Course) : Prop where
  /-- Each entry is in one of the three places. -/
  perm : ∃ ds, c.ledger.delivered = c₀.ledger.delivered ++ ds ∧
    (ds ++ (dropped ++ c.buffer.pending.toList)).Perm waiting
  /-- What is dropped and what still waits is in its order. -/
  order : (dropped ++ c.buffer.pending.toList).Sublist waiting

/-- There is no doubt about how much is dropped. -/
theorem Course.Spares.dropped_eq_nil {c₀ c : Course} {waiting dropped : List Entry}
    (h : c₀.Spares waiting [] c) (h' : c₀.Spares waiting dropped c) : dropped = [] := by
  obtain ⟨ds, hds, hperm⟩ := h.perm
  obtain ⟨ds', hds', hperm'⟩ := h'.perm
  -- The same entries are delivered, and the same ones still wait.
  obtain rfl : ds = ds' := List.append_cancel_left (hds.symm.trans hds')
  have hlength := hperm.length_eq.trans hperm'.length_eq.symm
  simp only [List.length_append, List.length_nil] at hlength
  exact List.length_eq_zero_iff.1 (by omega)

/-- A buffer on a writer with other calls. -/
structure Shared where
  course : Course
  /-- The submission of the latest batch. -/
  submission : Submission := .finished none
  /-- All other calls on the writer, and its gate. -/
  others : Traffic := {}

namespace Shared

/-- What can happen. -/
inductive Event where
  /-- A call on the buffer begins. -/
  | call (e : Course.Event)
  /-- The flush looks at the buffer and at the gate. -/
  | look
  /-- The submission takes its next step. The fraction is drawn for the pause that
      may follow. -/
  | go (draw : Float)
  /-- The client answers. -/
  | answer (a : Answer) (draw : Float)
  /-- The pause is over. -/
  | wake
  /-- Something happens to the other calls. -/
  | other (e : Dispatch.Event)

/-- The event is that a call begins. -/
def Event.isCall : Event → Bool
  | .call _ => true
  | .look | .go _ | .answer _ _ | .wake | .other _ => false

/-- Something happens to the buffer or its flush. -/
def pass (p : Policy) (t : Tally) (s : Shared) (e : Course.Event) : Option (Tally × Shared) :=
  (s.course.step p t e).map fun (t, course) => (t, { s with course })

/-- The submission of a batch that is off the buffer begins. -/
def begin (s : Shared) : Shared :=
  match s.course.flush with
  | .submitting batch _ => { s with submission := .arriving batch }
  | _ => s

/-- What a step that a submission takes by itself means to its flush. -/
def ruling (draw : Float) : Submission → Submission → Option Course.Event
  | .counted _, .leaving _ => some .refuse
  -- nothing is sent, whatever the client would have answered
  | .admitted _, .leaving _ => some (.answer (.ok {}) draw)
  | _, _ => none

/-- What becomes of all this by an event, if it can happen. A flush goes on, and
    the next call begins, only when the submission has finished. -/
def step (p : Policy) (t : Tally) (s : Shared) : Event → Option (Tally × Shared)
  | .call e => if e.isCall && s.submission.isFinished then s.pass p t e else none
  | .look =>
    if s.submission.isFinished then
      (s.pass p t (.look s.others.gate.closed)).map fun (t, s) => (t, s.begin)
    else none
  | .go draw => do
    let (gate, submission) ← s.submission.advance p s.others.gate
    let s' := { s with submission, others := { s.others with gate } }
    match ruling draw s.submission submission with
    | some e => s'.pass p t e
    | none => return (t, s')
  | .answer a draw => do
    let submission ← s.submission.answered p a
    { s with submission }.pass p t (.answer a draw)
  | .wake => s.pass p t .wake
  | .other e => do
    let others ← s.others.step p e
    return (t, { s with others })

/-- All this over some events. -/
def run (p : Policy) (es : List Event) (st : Tally × Shared) : Option (Tally × Shared) :=
  es.foldlM (fun (t, s) e => s.step p t e) st

/-- A submission that begins leaves the course as it is. -/
theorem course_begin (s : Shared) : s.begin.course = s.course := by
  unfold begin
  split <;> rfl

/-- The batch that is out is submitted. -/
theorem submission_begin {s : Shared} {batch : List Entry} {backoff : Backoff}
    (h : s.course.flush = .submitting batch backoff) : s.begin.submission = .arriving batch := by
  rw [begin, h]

/-- No submission begins while no batch is off the buffer. -/
theorem begin_of_ne {s : Shared}
    (h : ∀ batch backoff, s.course.flush ≠ .submitting batch backoff) : s.begin = s := by
  unfold begin
  split
  · exact absurd ‹_› (h _ _)
  · rfl

/-! ## Steps -/

variable {p : Policy} {t t' : Tally} {s s' : Shared} {e : Event}

/-- What it takes for an event to happen, and what becomes of all this then. -/
inductive Takes (p : Policy) (t : Tally) (s : Shared) : Event → Tally → Shared → Prop
  /-- A call on the buffer begins when its last submission has finished. -/
  | called {e : Course.Event} {t' : Tally} {c : Course} : e.isCall = true →
      s.submission.isFinished = true → s.course.step p t e = some (t', c) →
      Takes p t s (.call e) t' { s with course := c }
  /-- So does the flush look, and may submit a batch. -/
  | looked {t' : Tally} {c : Course} : s.submission.isFinished = true →
      s.course.step p t (.look s.others.gate.closed) = some (t', c) →
      Takes p t s .look t' (begin { s with course := c })
  /-- The submission goes on by itself, -/
  | went {draw : Float} {gate : Dispatch.Gate} {submission : Submission} :
      s.submission.advance p s.others.gate = some (gate, submission) →
      ruling draw s.submission submission = none →
      Takes p t s (.go draw) t { s with submission, others := { s.others with gate } }
  /-- and the flush with it, if the batch is not sent. -/
  | ruled {draw : Float} {gate : Dispatch.Gate} {submission : Submission} {e : Course.Event}
      {t' : Tally} {c : Course} :
      s.submission.advance p s.others.gate = some (gate, submission) →
      ruling draw s.submission submission = some e → s.course.step p t e = some (t', c) →
      Takes p t s (.go draw) t' {
        course := c
        submission
        others := { s.others with gate } }
  /-- The batch is answered. -/
  | answered {a : Answer} {draw : Float} {batch : List Entry} {t' : Tally} {c : Course} :
      s.submission = .outstanding batch → s.course.step p t (.answer a draw) = some (t', c) →
      Takes p t s (.answer a draw) t' {
        s with course := c, submission := .leaving (some (p.onAnswer batch a)) }
  /-- A pause is over. -/
  | woken {t' : Tally} {c : Course} : s.course.step p t .wake = some (t', c) →
      Takes p t s .wake t' { s with course := c }
  /-- Something happens to the others. -/
  | other {e : Dispatch.Event} {others : Traffic} : s.others.step p e = some others →
      Takes p t s (.other e) t { s with others }

/-- What is passed on is a step of the course. -/
theorem exists_of_pass {e : Course.Event} (h : s.pass p t e = some (t', s')) :
    ∃ c, s.course.step p t e = some (t', c) ∧ s' = { s with course := c } := by
  obtain ⟨⟨t₁, c⟩, hc, h⟩ := Option.map_eq_some_iff.1 h
  obtain ⟨rfl, rfl⟩ := Prod.mk.inj h
  exact ⟨c, hc, rfl⟩

/-- Whatever the others do goes on beside the buffer. -/
theorem step_other {e : Dispatch.Event} {others : Traffic} (h : s.others.step p e = some others)
    (t : Tally) : s.step p t (.other e) = some (t, { s with others }) := by
  simp [step, h]

/-- An event that happens has what it takes. -/
theorem takes_of_step (h : s.step p t e = some (t', s')) : Takes p t s e t' s' := by
  cases e with
  | call e =>
    obtain ⟨hcall, h⟩ := Option.ite_none_right_eq_some.1 h
    obtain ⟨c, hc, rfl⟩ := exists_of_pass h
    rw [Bool.and_eq_true] at hcall
    exact .called hcall.1 hcall.2 hc
  | look =>
    obtain ⟨hfin, h⟩ := Option.ite_none_right_eq_some.1 h
    obtain ⟨⟨t₁, s₁⟩, h₁, h⟩ := Option.map_eq_some_iff.1 h
    obtain ⟨rfl, rfl⟩ := Prod.mk.inj h
    obtain ⟨c, hc, rfl⟩ := exists_of_pass h₁
    exact .looked hfin hc
  | go draw =>
    obtain ⟨⟨gate, submission⟩, ha, h⟩ := Option.bind_eq_some_iff.1 h
    cases hr : ruling draw s.submission submission with
    | none =>
      simp only [hr] at h
      obtain ⟨rfl, rfl⟩ := Prod.mk.inj (Option.some.inj h)
      exact .went ha hr
    | some e =>
      simp only [hr] at h
      obtain ⟨c, hc, rfl⟩ := exists_of_pass h
      exact .ruled ha hr hc
  | answer a draw =>
    obtain ⟨submission, ha, h⟩ := Option.bind_eq_some_iff.1 h
    obtain ⟨c, hc, rfl⟩ := exists_of_pass h
    -- only the client is waited for, so that only then it can answer
    cases hs : s.submission with
    | outstanding batch =>
      rw [hs] at ha
      cases ha
      exact .answered hs hc
    | _ => rw [hs] at ha; cases ha
  | wake =>
    obtain ⟨c, hc, rfl⟩ := exists_of_pass h
    exact .woken hc
  | other e =>
    obtain ⟨others, ho, h⟩ := Option.bind_eq_some_iff.1 h
    obtain ⟨rfl, rfl⟩ := Prod.mk.inj (Option.some.inj h)
    exact .other ho

/-- What an event does to all this. -/
inductive Change (p : Policy) (t : Tally) (s : Shared) : Event → Tally → Shared → Prop
  /-- A call on the buffer begins. -/
  | called {e : Course.Event} {t' : Tally} {c : Course} : e.isCall = true →
      Course.Change p t s.course e t' c → Change p t s (.call e) t' { s with course := c }
  /-- The flush looks at the buffer and at the gate, and may submit a batch. -/
  | looked {t' : Tally} {c : Course} :
      Course.Change p t s.course (.look s.others.gate.closed) t' c →
      Change p t s .look t' (begin { s with course := c })
  /-- The submission finds the gate shut. -/
  | refused {batch : List Entry} {draw : Float} {t' : Tally} {c : Course} :
      s.submission = .counted batch → s.others.gate.closed = true →
      Course.Change p t s.course .refuse t' c →
      Change p t s (.go draw) t' {
        s with course := c, submission := .leaving (some (.failure .closed)) }
  /-- The batch is answered, or is not sent at all. -/
  | settled {e : Event} {a : Answer} {draw : Float} {r : Reply} {t' : Tally} {c : Course} :
      e = .answer a draw ∨ e = .go draw → Course.Change p t s.course (.answer a draw) t' c →
      Change p t s e t' { s with course := c, submission := .leaving (some r) }
  /-- The submission goes on, with the same entries if it has not been decided. -/
  | moved {draw : Float} {submission : Submission} {gate : Dispatch.Gate} :
      submission.entries? = s.submission.entries? →
      Change p t s (.go draw) t { s with submission, others := { s.others with gate } }
  /-- A pause is over. -/
  | woken {t' : Tally} {c : Course} : Course.Change p t s.course .wake t' c →
      Change p t s .wake t' { s with course := c }
  /-- Something happens to the others. -/
  | other {e : Dispatch.Event} {others : Traffic} : Change p t s (.other e) t { s with others }

/-- Every step is one of the changes. -/
theorem change_of_step (hw : s.course.Working) (h : s.step p t e = some (t', s')) :
    Change p t s e t' s' := by
  rcases s with ⟨course, submission, others⟩
  cases takes_of_step h with
  | called hcall _ hc => exact .called hcall (Course.change_of_step hw hc)
  | looked _ hc => exact .looked (Course.change_of_step hw hc)
  | went ha hr =>
    -- the flush takes part in the two steps by which the batch is not sent
    cases Submission.step_of_advance ha with
    | count | letIn | send | leave | leaveLast | announce => exact .moved rfl
    | refuse | decline => cases hr
  | ruled ha hr hc =>
    cases Submission.step_of_advance ha with
    | refuse hg =>
      cases hr
      exact .refused rfl hg (Course.change_of_step hw hc)
    | decline =>
      cases hr
      exact .settled (.inr rfl) (Course.change_of_step hw hc)
    | count | letIn | send | leave | leaveLast | announce => cases hr
  | answered _ hc => exact .settled (.inl rfl) (Course.change_of_step hw hc)
  | woken hc => exact .woken (Course.change_of_step hw hc)
  | other => exact .other

/-! ## What a call makes of the entries -/

/-- The last look at the gate found it open or shut. -/
def Looked (p : Policy) (st : Tally × Shared) (es : List Event) (closed : Bool) : Prop :=
  ∃ es₁ es₂ t₁ s₁, es = es₁ ++ .look :: es₂ ∧ .look ∉ es₂ ∧ run p es₁ st = some (t₁, s₁) ∧
    s₁.others.gate.closed = closed

/-- The gate was open when the flush looked at it last, and shut when the batch
    was to be admitted. -/
def Raced (p : Policy) (st : Tally × Shared) (es : List Event) (batch : List Entry) : Prop :=
  ∃ es₁ draw es₂ t₁ s₁, es = es₁ ++ .go draw :: es₂ ∧ .look ∉ es₂ ∧ Looked p st es₁ false ∧
    run p es₁ st = some (t₁, s₁) ∧ s₁.submission = .counted batch ∧ s₁.others.gate.closed = true

variable {st : Tally × Shared} {es : List Event} {batch : List Entry}

/-- A look remains the last one until the next. -/
theorem Looked.of_append {es' : List Event} {closed : Bool} (h : Looked p st es closed)
    (hes' : .look ∉ es') : Looked p st (es ++ es') closed := by
  obtain ⟨es₁, es₂, t₁, s₁, rfl, hes, h⟩ := h
  refine ⟨es₁, es₂ ++ es', t₁, s₁, by simp, ?_, h⟩
  simp [hes, hes']

/-- A look remains the last one until the next. -/
theorem Looked.concat {closed : Bool} (h : Looked p st es closed) (he : e ≠ .look) :
    Looked p st (es ++ [e]) closed :=
  h.of_append (by simpa using he.symm)

/-- The last look has found the gate as it is. -/
theorem Looked.last (h : run p es st = some (t, s)) :
    Looked p st (es ++ [.look]) s.others.gate.closed :=
  ⟨es, [], t, s, rfl, List.not_mem_nil, h, rfl⟩

/-- A race stays the last one until the next look. -/
theorem Raced.concat (h : Raced p st es batch) (he : e ≠ .look) :
    Raced p st (es ++ [e]) batch := by
  obtain ⟨es₁, draw, es₂, t₁, s₁, rfl, hes, h⟩ := h
  refine ⟨es₁, draw, es₂ ++ [e], t₁, s₁, by simp, ?_, h⟩
  simpa [hes] using he.symm

/-- In a race the gate was open at the last look. -/
theorem Raced.looked (h : Raced p st es batch) : Looked p st es false := by
  obtain ⟨es₁, draw, es₂, t₁, s₁, rfl, hes, hl, -⟩ := h
  exact hl.of_append (by simpa using hes)

/-- There is only one last look. -/
theorem Looked.unique {closed closed' : Bool} (h : Looked p st es closed)
    (h' : Looked p st es closed') : closed = closed' := by
  obtain ⟨es₁, es₂, t₁, s₁, rfl, hes, hrun, rfl⟩ := h
  obtain ⟨es₁', es₂', t₁', s₁', heq, hes', hrun', rfl⟩ := h'
  obtain rfl : es₁ = es₁' := append_cons_left_inj heq hes hes'
  rw [hrun] at hrun'
  cases hrun'
  rfl

/-- How a call fails as the writer is closed. -/
inductive Failed (p : Policy) (st : Tally × Shared) (es : List Event) (waiting : List Entry)
    (c : Course) : Prop
  /-- The flush has found the writer closed. -/
  | found : Looked p st es true → st.2.course.Spares waiting [] c → Failed p st es waiting c
  /-- The batch was refused. -/
  | raced {batch : List Entry} : batch ≠ [] → Raced p st es batch →
      st.2.course.Spares waiting batch c → Failed p st es waiting c

/-- What a flush has made of all this since it began. -/
structure Fared (p : Policy) (st : Tally × Shared) (es : List Event) (s : Shared) : Prop where
  working : s.course.Working
  /-- The settings are those at first. -/
  settings : s.course.buffer.settings = st.2.course.buffer.settings
  /-- What was held at first is kept, or the flush is over. -/
  flushed : st.2.course.Flushed s.course
  /-- The batch that is out is the one being submitted, after a look at the gate. -/
  out : ∀ batch backoff, s.course.flush = .submitting batch backoff →
    batch ≠ [] ∧ s.submission.entries? = some batch ∧ Looked p st es false
  /-- A call that has failed at once is over. -/
  idle : st.2.course.isIdle = true → s.course = st.2.course
  /-- If the flush has found the writer closed, it is known how. -/
  failed : s.course.flush = .finished (.error .closed) → Failed p st es st.2.course.held s.course

/-- A step of the flush. -/
theorem Fared.of_course_change {e' : Course.Event} (hf : Fared p st es s)
    (h : Course.Change p t s.course e' t' s'.course) (he' : e'.isCall = false)
    (hout : ∀ batch backoff, s'.course.flush = .submitting batch backoff →
      batch ≠ [] ∧ s'.submission.entries? = some batch ∧ Looked p st (es ++ [e]) false)
    (hfailed : s'.course.flush = .finished (.error .closed) →
      Failed p st (es ++ [e]) st.2.course.held s'.course) :
    Fared p st (es ++ [e]) s' where
  working := h.working hf.working
  settings := h.settings_eq.trans hf.settings
  flushed := hf.flushed.of_change h he'
  out := hout
  idle hi := by
    -- A buffer on which no call is under way does not change by itself.
    have hbusy := h.isIdle_eq_false he'
    rw [hf.idle hi, hi] at hbusy
    cases hbusy
  failed := hfailed

/-- A step that the flush does not take part in. -/
theorem Fared.of_course_eq (hf : Fared p st es s) (hc : s'.course = s.course)
    (hs : s'.submission.entries? = s.submission.entries?) (he : e ≠ .look) :
    Fared p st (es ++ [e]) s' := by
  refine ⟨hc ▸ hf.working, hc ▸ hf.settings, hc ▸ hf.flushed, fun batch backoff hb => ?_,
    hc ▸ hf.idle, fun hb => ?_⟩
  · rw [hc] at hb
    obtain ⟨hne, hsub, hl⟩ := hf.out batch backoff hb
    exact ⟨hne, hs.trans hsub, hl.concat he⟩
  · rw [hc] at hb ⊢
    cases hf.failed hb with
    | found hl hsp => exact .found (hl.concat he) hsp
    | raced hne hr hsp => exact .raced hne (hr.concat he) hsp

/-- Of a flush that fails as the writer is closed, nothing is dropped but the
    batch that was out. -/
theorem Fared.spares {c : Course} {e : Course.Event} (hf : Fared p st es s)
    (h : Course.Change p t s.course e t' c) (he : e.isCall = false)
    (hclosed : c.flush = .finished (.error .closed)) :
    st.2.course.Spares st.2.course.held s.course.flush.batch c := by
  obtain ⟨ds, hk⟩ := hf.flushed.kept_of_isIdle (h.isIdle_eq_false he)
  rw [(h.closed_cases hclosed).1]
  exact ⟨⟨ds, hk.delivered, hk.perm⟩, hk.held⟩

/-- The flush looks at the buffer and at the gate. -/
theorem Fared.look {c : Course} (hf : Fared p st es s) (hrun : run p es st = some (t, s))
    (hcount : st.2.course.buffer.settings.maxBatchSize ≠ 0)
    (h : Course.Change p t s.course (.look s.others.gate.closed) t' c) :
    Fared p st (es ++ [.look]) (begin { s with course := c }) := by
  have hc : (begin { s with course := c }).course = c := course_begin _
  have hlooked := Looked.last hrun
  refine hf.of_course_change (hc.symm ▸ h) rfl ?_ ?_ <;> rw [hc]
  · -- A batch is cut off, which is not empty as something waits.
    intro batch backoff hflush
    rw [h.open_of_submitting hflush] at hlooked
    refine ⟨?_, by rw [submission_begin (s := { s with course := c }) hflush]; rfl, hlooked⟩
    obtain ⟨-, hout⟩ | ⟨batch', _, -, hflush', -, hne, hcut⟩ := h.submit_cases
    · exact absurd hflush (hout batch backoff)
    · obtain ⟨rfl, -⟩ := Flush.submitting.inj (hflush'.symm.trans hflush)
      exact ne_nil_of_cut (hf.settings ▸ hcount) hne hcut
  · -- No batch was out, so that none is dropped.
    intro hclosed
    have hspares := hf.spares h rfl hclosed
    obtain ⟨-, ⟨he, backoff, hflush⟩ | ⟨he, -⟩⟩ := h.closed_cases hclosed
    · rw [Course.Event.look.inj he] at hlooked
      rw [hflush] at hspares
      exact .found hlooked hspares
    · cases he

/-- The batch is not let in. -/
theorem Fared.refuse {c : Course} {draw : Float} (hf : Fared p st es s)
    (hrun : run p es st = some (t, s)) (hsub : s.submission = .counted batch)
    (hgate : s.others.gate.closed = true) (h : Course.Change p t s.course .refuse t' c) :
    Fared p st (es ++ [.go draw])
      { s with course := c, submission := .leaving (some (.failure .closed)) } := by
  refine hf.of_course_change h rfl ?_ fun hclosed => ?_
  · cases h
    nofun
  · have hspares := hf.spares h rfl hclosed
    obtain ⟨-, ⟨he, -⟩ | ⟨-, batch', backoff, hflush⟩⟩ := h.closed_cases hclosed
    · cases he
    · -- The batch that is out is the one that is not let in.
      obtain ⟨hne, hentries, hlooked⟩ := hf.out batch' backoff hflush
      rw [hsub] at hentries
      obtain rfl : batch = batch' := Option.some.inj hentries
      rw [hflush] at hspares
      exact .raced hne ⟨es, draw, [], t, s, rfl, List.not_mem_nil, hlooked, hrun, hsub, hgate⟩
        hspares

/-- The batch is answered. -/
theorem Fared.settle {c : Course} {a : Answer} {draw : Float} {submission : Submission}
    (hf : Fared p st es s) (h : Course.Change p t s.course (.answer a draw) t' c) :
    Fared p st (es ++ [e]) { s with course := c, submission } := by
  refine hf.of_course_change h rfl ?_ fun hclosed => absurd hclosed (h.ne_closed nofun nofun)
  cases h <;> nofun

/-- The pause is over. -/
theorem Fared.wake {c : Course} (hf : Fared p st es s)
    (h : Course.Change p t s.course .wake t' c) :
    Fared p st (es ++ [e]) { s with course := c } := by
  refine hf.of_course_change h rfl ?_ fun hclosed => absurd hclosed (h.ne_closed nofun nofun)
  cases h
  nofun

/-- What a call makes of the entries is kept by every change. -/
theorem Fared.of_change (hf : Fared p st es s) (hrun : run p es st = some (t, s))
    (hcount : st.2.course.buffer.settings.maxBatchSize ≠ 0) (h : Change p t s e t' s')
    (he : e.isCall = false) : Fared p st (es ++ [e]) s' := by
  cases h with
  | called => cases he
  | looked hc => exact hf.look hrun hcount hc
  | refused hsub hgate hc => exact hf.refuse hrun hsub hgate hc
  | settled _ hc => exact hf.settle hc
  | moved hsub => exact hf.of_course_eq rfl hsub nofun
  | woken hc => exact hf.wake hc
  | other => exact hf.of_course_eq rfl rfl nofun

/-! ## Runs -/

theorem run_cons (e : Event) (es : List Event) :
    run p (e :: es) (t, s) = (s.step p t e).bind (run p es) := rfl

/-- One more event is the last step. -/
theorem run_concat (es : List Event) (e : Event) :
    run p (es ++ [e]) st = (run p es st).bind fun (t, s) => s.step p t e := by
  rw [run, List.foldlM_append]
  exact congrArg _ (funext fun (t, s) => bind_pure _)

/-- One event is one step. -/
theorem run_singleton (h : s.step p t e = some (t', s')) : run p [e] (t, s) = some (t', s') := by
  rw [run_cons, h]
  rfl

/-- Events follow one another. -/
theorem run_append (es es' : List Event) :
    run p (es ++ es') st = (run p es st).bind (run p es') :=
  List.foldlM_append

/-- What holds at the start and is kept by every step holds after every run. -/
theorem run_induction {motive : List Event → Tally → Shared → Prop}
    (nil : motive [] st.1 st.2)
    (step : ∀ {es e t s t' s'}, run p es st = some (t, s) → motive es t s →
      Shared.step p t s e = some (t', s') → motive (es ++ [e]) t' s')
    (h : run p es st = some (t, s)) : motive es t s := by
  induction es using List.reverseRecOn generalizing t s with
  | nil =>
    cases h
    exact nil
  | append_singleton es e ih =>
    rw [run_concat, Option.bind_eq_some_iff] at h
    obtain ⟨⟨t₁, s₁⟩, h₁, h₂⟩ := h
    exact step h₁ (ih h₁) h₂

/-- What a call makes of the entries is kept by every run. -/
theorem Fared.of_run (hf : Fared p st [] st.2)
    (hcount : st.2.course.buffer.settings.maxBatchSize ≠ 0) (h : run p es st = some (t, s))
    (hes : ∀ e ∈ es, e.isCall = false) : Fared p st es s := by
  refine run_induction (motive := fun es _ s => (∀ e ∈ es, e.isCall = false) → Fared p st es s)
    (fun _ => hf) (fun h₁ ih hs hes => ?_) h hes
  rw [List.forall_mem_append, List.forall_mem_singleton] at hes
  have hf₁ := ih hes.1
  exact hf₁.of_change h₁ hcount (change_of_step hf₁.working hs) hes.2

/-- A call begins. -/
theorem fared_of_call {e : Course.Event} {c : Course} (hi : s.course.isIdle = true)
    (h : Course.Change p t s.course e t' c) (he : e.isCall = true) :
    Fared p (t', { s with course := c }) [] { s with course := c } where
  working := h.working fun hbusy => by simp [hi] at hbusy
  settings := rfl
  flushed := .kept (.refl c)
  out batch backoff hflush := by
    obtain ⟨-, hout⟩ | ⟨_, _, hl, -⟩ := h.submit_cases
    · exact absurd hflush (hout batch backoff)
    · simp [Course.isIdle, hl] at hi
  idle _ := rfl
  failed hclosed := absurd hclosed (h.ne_closed_of_call he)

/-! ### The events before -/

/-- A look is the last one whatever was before. -/
theorem Looked.cons {closed : Bool} (h : Looked p (t', s') es closed)
    (hs : s.step p t e = some (t', s')) : Looked p (t, s) (e :: es) closed := by
  obtain ⟨es₁, es₂, t₁, s₁, rfl, hes, hrun, hg⟩ := h
  refine ⟨e :: es₁, es₂, t₁, s₁, rfl, hes, ?_, hg⟩
  rw [run_cons, hs, Option.bind_some, hrun]

/-- A race is the last one whatever was before. -/
theorem Raced.cons (h : Raced p (t', s') es batch) (hs : s.step p t e = some (t', s')) :
    Raced p (t, s) (e :: es) batch := by
  obtain ⟨es₁, draw, es₂, t₁, s₁, rfl, hes, hl, hrun, hg⟩ := h
  refine ⟨e :: es₁, draw, es₂, t₁, s₁, rfl, hes, hl.cons hs, ?_, hg⟩
  rw [run_cons, hs, Option.bind_some, hrun]

/-- How a call fails as the writer is closed, from its beginning on. -/
theorem failed_of_run {call : Course.Event} (hv : s.course.buffer.settings.validate = .ok ())
    (hi : s.course.isIdle = true) (h : run p (.call call :: es) (t, s) = some (t', s'))
    (hes : ∀ e ∈ es, e.isCall = false)
    (hclosed : s'.course.flush = .finished (.error .closed)) :
    Failed p (t, s) (.call call :: es) (s.course.buffer.pending.toList ++ call.written)
      s'.course := by
  rw [run_cons, Option.bind_eq_some_iff] at h
  obtain ⟨⟨t₁, s₁⟩, h₁, h₂⟩ := h
  cases change_of_step (fun hbusy => by simp [hi] at hbusy) h₁ with
  | settled he => rcases he with he | he <;> cases he
  | @called _ _ c hcall hc =>
    have hcount : c.buffer.settings.maxBatchSize ≠ 0 :=
      hc.settings_eq ▸ (WriterSettings.bounds_of_validate hv).1
    have hf := (fared_of_call hi hc hcall).of_run hcount h₂ hes
    obtain ⟨hd, hidle | hheld⟩ := hc.held_of_call hcall
    · -- A call that has failed at once has done so for another reason.
      rw [hf.idle hidle] at hclosed
      exact absurd hclosed (hc.ne_closed_of_call hcall)
    · have spares {dropped : List Entry} (hsp : c.Spares c.held dropped s'.course) :
          s.course.Spares (s.course.buffer.pending.toList ++ call.written) dropped s'.course :=
        ⟨hd ▸ hheld ▸ hsp.perm, hheld ▸ hsp.order⟩
      rcases hf.failed hclosed with ⟨hl, hsp⟩ | ⟨hne, hr, hsp⟩
      · exact .found (hl.cons h₁) (spares hsp)
      · exact .raced hne (hr.cons h₁) (spares hsp)

/-- However a call and what others do on the same writer are interleaved: if it
    fails as the writer is closed, then nothing is dropped but the batch for which
    the writer was closed too late to be found so, and too early to let it in. -/
theorem spared_iff_not_raced {call : Course.Event}
    (hv : s.course.buffer.settings.validate = .ok ()) (hi : s.course.isIdle = true)
    (h : run p (.call call :: es) (t, s) = some (t', s')) (hes : ∀ e ∈ es, e.isCall = false)
    (hclosed : s'.course.flush = .finished (.error .closed)) :
    Failed p (t, s) (.call call :: es) (s.course.buffer.pending.toList ++ call.written)
      s'.course ∧
    (s.course.Spares (s.course.buffer.pending.toList ++ call.written) [] s'.course ↔
      ∀ batch, ¬Raced p (t, s) (.call call :: es) batch) := by
  have hf := failed_of_run hv hi h hes hclosed
  refine ⟨hf, fun hspares batch hraced => ?_, fun hnone => ?_⟩
  · rcases hf with ⟨hl, -⟩ | ⟨hne, -, hsp⟩
    · -- The last look has found the writer open, not closed.
      cases hl.unique hraced.looked
    · exact hne (hspares.dropped_eq_nil hsp)
  · rcases hf with ⟨-, hsp⟩ | ⟨-, hr, -⟩
    · exact hsp
    · exact absurd hr (hnone _)

/-- Of three entries, the first is delivered and the second is dropped, as the writer
    is closed just before it would be let in. The third still waits. -/
theorem spared_iff_not_raced_three :
    let c : Course := { buffer := { settings := { maxBatchSize := 1 } } }
    let s : Shared :=
      { course := ((c.write { id := "a" }).write { id := "b" }).write { id := "c" } }
    let es : List Event :=
      [.look, .go 0.5, .go 0.5, .go 0.5, .answer (.ok {}) 0.5, .go 0.5, .go 0.5, .look, .go 0.5,
        .other (.close 0), .other (.go 0), .go 0.5, .go 0.5, .go 0.5]
    ∃ t s', s.course.buffer.settings.validate = .ok () ∧ s.course.isIdle = true ∧
      run {} (.call .flush :: es) ({}, s) = some (t, s') ∧ (∀ e ∈ es, e.isCall = false) ∧
      s'.course.flush = .finished (.error .closed) ∧
      s'.course.buffer.pending.toList = [{ id := "c" }] ∧
      Failed {} ({}, s) (.call .flush :: es) (s.course.buffer.pending.toList ++ []) s'.course ∧
      (s.course.Spares (s.course.buffer.pending.toList ++ []) [] s'.course ↔
        ∀ batch, ¬Raced {} ({}, s) (.call .flush :: es) batch) := by
  intro c s es
  have hv : c.buffer.settings.validate = .ok () := by
    simp [WriterSettings.validate, RetrySettings.validate_default, c]
  have hes : ∀ e ∈ es, e.isCall = false := by simp [es, Event.isCall]
  exact ⟨_, _, hv, rfl, rfl, hes, rfl, rfl, spared_iff_not_raced hv rfl rfl hes rfl⟩

/-- A single entry is dropped: it was accepted, and is neither delivered nor lost
    nor waiting after the flush has failed. -/
theorem not_spared_of_race : ¬∀ (p : Policy) (t t' : Tally) (s s' : Shared)
    (call : Course.Event) (es : List Event), s.course.buffer.settings.validate = .ok () →
    s.course.isIdle = true → run p (.call call :: es) (t, s) = some (t', s') →
    (∀ e ∈ es, e.isCall = false) → s'.course.flush = .finished (.error .closed) →
    s.course.Spares (s.course.buffer.pending.toList ++ call.written) [] s'.course := by
  intro h
  let c : Course := Course.write { buffer := { settings := {} } } { id := "a" }
  have hv : WriterSettings.validate {} = .ok () := by
    simp [WriterSettings.validate, RetrySettings.validate_default]
  obtain ⟨⟨ds, hds, hperm⟩, -⟩ := h {} {} _ { course := c } _ .flush
    [.look, .go 0.5, .other (.close 0), .other (.go 0), .go 0.5, .go 0.5, .go 0.5]
    hv rfl rfl (by simp [Event.isCall]) rfl
  -- Nothing is delivered, and nothing waits.
  obtain rfl : ds = [] := hds.symm
  exact absurd hperm.length_eq (by decide)

end Shared

end Outbox
