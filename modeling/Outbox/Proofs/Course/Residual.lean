import Outbox.Proofs.Course.Limits

/-!
# What is handed back goes out first

Whatever is handed back of a batch is the front of the batch that is submitted
next, be it in the same flush or in a later call, and however many entries are
written in between (`Course.residual_prefix_of_run`).

* Until the next batch is submitted, the buffer grows at its end and nowhere else
  (`Course.Change.grows`), so that what was handed back stays in front, and whatever is
  accepted in the meantime waits behind it (`Course.Waits`).
* The next batch is the longest one within the limits that can be cut off the front
  of all that waits when the flush looks at the writer (`WriterSettings.Fills`,
  `Course.CutOff`). What was handed back is within the limits, as it is a part of a
  batch that was (`WriterSettings.Admits.sublist`); hence the next batch does not end
  before it does.
-/

namespace Outbox

namespace WriterSettings

variable {s : WriterSettings} {es batch : List Entry}

/-- A part of a batch is within the limits, if there is anything in it. -/
theorem Admits.sublist (h : s.Admits batch) (hs : es.Sublist batch) (hne : es ≠ []) :
    s.Admits es where
  ne_nil := hne
  length_le := Nat.le_trans hs.length_le h.length_le
  totalSize_le := Nat.le_trans (totalSize_le_of_sublist hs) h.totalSize_le

/-- What is within the limits fits into one batch. -/
theorem Admits.fits (h : s.Admits batch) : Fits s.maxBatchSize s.maxBatchBytes batch :=
  ⟨h.length_le, .inr h.totalSize_le⟩

/-- A batch is the longest one within the limits that is the front of what waits. -/
structure Fills (s : WriterSettings) (waiting batch : List Entry) : Prop where
  admits : s.Admits batch
  /-- It is cut off the front. -/
  front : batch <+: waiting
  /-- No longer one would be within the limits. -/
  longest : ∀ es, es <+: waiting → s.Admits es → es <+: batch

/-- It takes no more than entries none of which is too large for a batch. -/
theorem fills_cut_of_size_le (hcount : s.maxBatchSize ≠ 0) {q : Queue Entry} (hne : q.toList ≠ [])
    (hq : ∀ e ∈ q.toList, e.size ≤ s.maxBatchBytes) :
    s.Fills q.toList (cut s.maxBatchSize s.maxBatchBytes q).1 where
  admits := ⟨cut_ne_nil hcount hne, length_cut_le _ _ q, totalSize_cut_le hq⟩
  front := ⟨_, cut_append s.maxBatchSize s.maxBatchBytes q⟩
  longest _ hes hadmits := prefix_cut hadmits.fits hes

/-- The batch that is cut off is the longest one within the limits. -/
theorem fills_cut (h : s.validate = .ok ()) {q : Queue Entry} (hne : q.toList ≠ [])
    (hq : ∀ e ∈ q.toList, e.size ≤ s.maxRecordBytes) :
    s.Fills q.toList (cut s.maxBatchSize s.maxBatchBytes q).1 := by
  obtain ⟨hcount, hbytes⟩ := bounds_of_validate h
  exact fills_cut_of_size_le hcount hne fun e he => Nat.le_trans (hq e he) hbytes

end WriterSettings

namespace Course

variable {p : Policy} {t₀ t t' : Tally} {c₀ c c' : Course} {e : Event} {es : List Event}
  {s : WriterSettings} {batch residual : List Entry} {backoff : Backoff} {a : Answer}
  {draw : Float}

/-- No batch is out. -/
def NoneOut (c : Course) : Prop := ∀ batch backoff, c.flush ≠ .submitting batch backoff

/-- What is handed back of a batch is a part of it, and goes to the front. -/
theorem Change.handBack (h : Change p t c (.answer a draw) t' c')
    (hf : c.flush = .submitting batch backoff)
    (hr : (p.reply batch a).handedBack = some residual) (hne : residual ≠ []) :
    residual.Sublist batch ∧
      c'.buffer.pending.toList = residual ++ c.buffer.pending.toList ∧ c'.NoneOut := by
  -- The batch that is out is the one that was answered.
  have same {b : List Entry} {backoff' : Backoff} {r : Option (List Entry)}
      (hf' : c.flush = .submitting b backoff') (hr' : (p.reply b a).handedBack = r) :
      b = batch ∧ r = some residual := by
    obtain ⟨rfl, -⟩ := Flush.submitting.inj (hf'.symm.trans hf)
    exact ⟨rfl, hr'.symm.trans hr⟩
  cases h with
  | ended hf' _ _ _ _ hnone =>
    obtain ⟨-, hnone⟩ := same hf' hnone
    cases hnone
  | completed hf' _ hnil =>
    obtain ⟨-, hnil⟩ := same hf' hnil
    cases hnil
    exact absurd rfl hne
  | paused hf' hs _ _ hsome | exhausted hf' hs _ _ hsome =>
    obtain ⟨rfl, hres⟩ := same hf' hsome
    cases hres
    exact ⟨hs.fate.residual_sublist, Queue.toList_prepend _ _, nofun⟩

/-- Unless a batch is cut off, nothing happens to the entries that wait but that
    others come after them. -/
theorem Change.grows (h : Change p t c e t' c') (hin : c.NoneOut) (hin' : c'.NoneOut) :
    ∃ new, c'.ledger.accepted = c.ledger.accepted ++ new ∧
      c'.buffer.pending.toList = c.buffer.pending.toList ++ new := by
  cases h with
  | @accepted e b _ _ _ hb => exact ⟨[e], rfl, by rw [hb, Queue.toList_push]⟩
  | cut => exact absurd rfl (hin' _ _)
  | ended hf | completed hf | paused hf | exhausted hf | refused hf => exact absurd hf (hin _ _)
  | turnedAway | called | calledLast | stopped | woken => exact ⟨[], by simp, by simp⟩

/-- Since the course `c₀`, no batch was out. What waited then still does, in front of
    all that was accepted since. -/
structure Waits (c₀ : Course) (new : List Entry) (c : Course) : Prop where
  noneOut : c.NoneOut
  /-- Nothing was submitted since. -/
  submitted : c.ledger.submitted = c₀.ledger.submitted
  /-- What was accepted since is `new`. -/
  accepted : c.ledger.accepted = c₀.ledger.accepted ++ new
  /-- It waits behind all that waited before. -/
  pending : c.buffer.pending.toList = c₀.buffer.pending.toList ++ new

/-- In the course of some events from `c₀` on, the next batch is cut off: when the flush
    looks at the writer in `c`, it submits the longest batch within the limits that is
    the front of all that waits. -/
structure CutOff (p : Policy) (s : WriterSettings) (t₀ : Tally) (c₀ : Course) (es : List Event)
    (next new : List Entry) (t : Tally) (c : Course) : Prop where
  /-- The look is one of the events, and `c` is the course right before it. -/
  reached : ∃ es₁ es₂, es = es₁ ++ .look false :: es₂ ∧ run p es₁ (t₀, c₀) = some (t, c)
  /-- Up to then nothing was submitted. -/
  waits : c₀.Waits new c
  /-- The batch is the longest one, by all that waits in `c`. -/
  fills : s.Fills c.buffer.pending.toList next
  /-- It is submitted by the look. -/
  submits : ∃ t' c' backoff, c.step p t (.look false) = some (t', c') ∧
    c'.flush = .submitting next backoff ∧ c'.ledger.submitted = next :: c₀.ledger.submitted

/-- What has become of the entries waiting in the course `c₀`, in which no batch was
    out. -/
inductive Followed (p : Policy) (s : WriterSettings) (t₀ : Tally) (c₀ : Course)
    (es : List Event) (c : Course) : Prop
  /-- They still wait. -/
  | waiting {new : List Entry} : c₀.Waits new c → Followed p s t₀ c₀ es c
  /-- A batch was cut off their front in `c₁`, and further ones later. -/
  | submitted {newer : List (List Entry)} {next new later : List Entry} {t₁ : Tally}
      {c₁ : Course} : CutOff p s t₀ c₀ es next new t₁ c₁ →
      c.ledger.submitted = newer ++ next :: c₀.ledger.submitted →
      c.ledger.accepted = c₁.ledger.accepted ++ later → Followed p s t₀ c₀ es c

/-- A batch that was cut off stays so, whatever happens next. -/
theorem CutOff.concat {next new : List Entry} (h : CutOff p s t₀ c₀ es next new t c) :
    CutOff p s t₀ c₀ (es ++ [e]) next new t c := by
  obtain ⟨⟨es₁, es₂, rfl, hrun⟩, hw, hfills, hsubmits⟩ := h
  exact ⟨⟨es₁, es₂ ++ [e], by simp, hrun⟩, hw, hfills, hsubmits⟩

/-- A batch is cut off only when the flush looks at the writer and finds it open. -/
theorem Change.eq_look (h : Change p t c e t' c') {backoff' : Backoff}
    (hf : c.flush = .looking backoff) (hf' : c'.flush = .submitting batch backoff') :
    e = .look false := by
  cases h with
  | cut => rfl
  | turnedAway hi | accepted hi | called hi | calledLast hi => simp [isIdle, hf] at hi
  | ended hf₀ | completed hf₀ | paused hf₀ | exhausted hf₀ | refused hf₀ | woken hf₀ =>
    cases hf₀.symm.trans hf
  | stopped => cases hf'

/-- By a step of a course in which all still waits, more is accepted behind it, or the
    next batch is cut off. -/
theorem Waits.followed_of_step {new : List Entry} (hc : c₀.Waits new c)
    (hv : s.validate = .ok ()) (hl : Limited s c) (hw : c.Working)
    (hrun : run p es (t₀, c₀) = some (t, c)) (h : c.step p t e = some (t', c')) :
    Followed p s t₀ c₀ (es ++ [e]) c' := by
  have hch := change_of_step hw h
  obtain ⟨hsub, hin⟩ | ⟨next, backoff, hf, hf', hsub, hne, hcut⟩ := hch.submit_cases
  · obtain ⟨more, hacc, hpend⟩ := hch.grows hc.noneOut hin
    rw [hc.accepted, List.append_assoc] at hacc
    rw [hc.pending, List.append_assoc] at hpend
    exact .waiting ⟨hin, hsub.trans hc.submitted, hacc, hpend⟩
  · obtain rfl := hch.eq_look hf hf'
    have hfills := WriterSettings.fills_cut hv hne fun e he =>
      hl.small e (c.pending_sublist_held.subset he)
    rw [hl.settings] at hcut
    rw [hcut] at hfills
    rw [hc.submitted] at hsub
    obtain ⟨later, hacc, -⟩ := hch.held_sublist
    have hcutOff : CutOff p s t₀ c₀ (es ++ [.look false]) next new t c :=
      ⟨⟨es, [], rfl, hrun⟩, hc, hfills, t', c', backoff, h, hf', hsub⟩
    have hfirst : c'.ledger.submitted = [] ++ next :: c₀.ledger.submitted := hsub
    exact .submitted hcutOff hfirst hacc

/-- What follows is kept by every step. -/
theorem Followed.of_step (hc : Followed p s t₀ c₀ es c) (hv : s.validate = .ok ())
    (hl : Limited s c) (hw : c.Working) (hrun : run p es (t₀, c₀) = some (t, c))
    (h : c.step p t e = some (t', c')) : Followed p s t₀ c₀ (es ++ [e]) c' := by
  cases hc with
  | waiting hc => exact hc.followed_of_step hv hl hw hrun h
  | @submitted newer next new later _ c₁ hcut hsub hacc =>
    have hch := change_of_step hw h
    obtain ⟨more, hacc', -⟩ := hch.held_sublist
    have hlater : c'.ledger.accepted = c₁.ledger.accepted ++ (later ++ more) := by
      rw [hacc', hacc, List.append_assoc]
    obtain hsub' | ⟨latest, hsub', -⟩ := hch.submitted_cases
    · exact .submitted hcut.concat (hsub'.trans hsub) hlater
    · have hnewer : c'.ledger.submitted = (latest :: newer) ++ next :: c₀.ledger.submitted := by
        rw [hsub', hsub]
        rfl
      exact .submitted hcut.concat hnewer hlater

/-- What follows on a course of which no batch is out. -/
theorem followed_of_run (hv : s.validate = .ok ()) (hw : c₀.Working) (hl : Limited s c₀)
    (hin : c₀.NoneOut) (h : run p es (t₀, c₀) = some (t, c)) : Followed p s t₀ c₀ es c := by
  have start : Followed p s t₀ c₀ [] c₀ :=
    .waiting ⟨hin, rfl, (List.append_nil _).symm, (List.append_nil _).symm⟩
  refine (run_induction (motive := fun es _ c => (c.Working ∧ Limited s c) ∧
    Followed p s t₀ c₀ es c) ⟨⟨hw, hl⟩, start⟩ ?_ h).2
  intro es e t c t' c' hrun ⟨⟨hw, hl⟩, hc⟩ hstep
  have hch := change_of_step hw hstep
  exact ⟨⟨hch.working hw, hl.of_change hv hch⟩, hc.of_step hv hl hw hrun hstep⟩

/-- Whatever happens to a buffer, once something was handed back of a batch: all of it
    is the front of the batch that is submitted next. That batch is cut off when all
    that was accepted by then waits behind what was handed back, and goes on with it, up
    to the limits. -/
theorem residual_prefix_of_run {failOnError : Bool} {b : Buffer} {t₀ t₁ t₂ : Tally} {c₁ c₂ : Course}
    {es es' : List Event} (hb : Buffer.create s failOnError = .ok b)
    (h₀ : run p es (t, { buffer := b }) = some (t₀, c₀))
    (hf : c₀.flush = .submitting batch backoff)
    (hr : (p.reply batch a).handedBack = some residual) (hne : residual ≠ [])
    (h₁ : c₀.step p t₀ (.answer a draw) = some (t₁, c₁))
    (h₂ : run p es' (t₁, c₁) = some (t₂, c₂)) {newer : List (List Entry)} {next : List Entry}
    (hnext : c₂.ledger.submitted = newer ++ next :: c₁.ledger.submitted) :
    residual <+: next ∧ ∃ new later tally c, CutOff p s t₁ c₁ es' next new tally c ∧
      c.ledger.accepted = c₁.ledger.accepted ++ new ∧
      c₂.ledger.accepted = c.ledger.accepted ++ later ∧
      c.buffer.pending.toList = residual ++ c₀.buffer.pending.toList ++ new ∧
      s.Fills (residual ++ c₀.buffer.pending.toList ++ new) next := by
  have hv : s.validate = .ok () := Buffer.validate_of_create hb
  obtain rfl : b = { settings := s } := Buffer.eq_of_create hb
  obtain ⟨hw₀, hl₀⟩ := change_induction (motive := fun _ _ c => Limited s c) (fun _ => rfl)
    (limited_of_empty (b := { settings := s }) rfl rfl) (fun _ hc hch => hc.of_change hv hch) h₀
  have hch := change_of_step hw₀ h₁
  obtain ⟨hsub, hpend, hin⟩ := hch.handBack hf hr hne
  have hadmits : s.Admits residual :=
    (hl₀.submitted batch (hl₀.latest batch backoff hf)).sublist hsub hne
  cases followed_of_run hv (hch.working hw₀) (hl₀.of_change hv hch) hin h₂ with
  | waiting hc =>
    -- Something was submitted in the meantime.
    have hlength := congrArg List.length (hc.submitted.symm.trans hnext)
    simp only [List.length_append, List.length_cons] at hlength
    omega
  | @submitted _ _ new later tally c hcut hsubmitted hacc =>
    obtain ⟨-, hcons⟩ := List.append_inj' (hnext.symm.trans hsubmitted) rfl
    obtain ⟨rfl, -⟩ := List.cons.inj hcons
    have hwaits : c.buffer.pending.toList = residual ++ c₀.buffer.pending.toList ++ new := by
      rw [hcut.waits.pending, hpend]
    have hfills := hwaits ▸ hcut.fills
    refine ⟨hfills.longest residual ?_ hadmits, new, later, tally, c, hcut, hcut.waits.accepted,
      hacc, hwaits, hfills⟩
    rw [List.append_assoc]
    exact List.prefix_append _ _

/-- Of three entries, the first and the last are handed back, and no attempt is left. Of
    the three written then, two go out with them, and the third does not fit. -/
theorem residual_prefix_of_run_six :
    let s : WriterSettings := {
      maxBatchSize := 5
      maxBatchBytes := 5
      maxRecordBytes := 4
      retry := { maxAttempts := 0 } }
    let es : List Event :=
      [.write { id := "a", payload := ⟨#[1]⟩ }, .write { id := "b" },
        .write { id := "c", payload := ⟨#[2, 3]⟩ }, .flush, .look false]
    let a : Answer := .ok ⟨[{ id := "c" }, { id := "x" }, { id := "a" }]⟩
    let residual : List Entry :=
      [{ id := "a", payload := ⟨#[1]⟩ }, { id := "c", payload := ⟨#[2, 3]⟩ }]
    let es' : List Event :=
      [.write { id := "d", payload := ⟨#[4]⟩ }, .write { id := "e", payload := ⟨#[5]⟩ },
        .write { id := "f", payload := ⟨#[6]⟩ }, .flush, .look false]
    ∃ b t₀ c₀ batch backoff t₁ c₁ t₂ c₂ next, Buffer.create s false = .ok b ∧
      run {} es ({}, { buffer := b }) = some (t₀, c₀) ∧ c₀.flush = .submitting batch backoff ∧
      (Policy.reply {} batch a).handedBack = some residual ∧ residual ≠ [] ∧
      c₀.step {} t₀ (.answer a 0.5) = some (t₁, c₁) ∧
      run {} es' (t₁, c₁) = some (t₂, c₂) ∧
      c₂.ledger.submitted = [] ++ next :: c₁.ledger.submitted ∧
      next.map (·.id) = ["a", "c", "d", "e"] ∧ residual <+: next ∧
      ∃ new later tally c, CutOff {} s t₁ c₁ es' next new tally c ∧
        c.ledger.accepted = c₁.ledger.accepted ++ new ∧
        c₂.ledger.accepted = c.ledger.accepted ++ later ∧
        c.buffer.pending.toList = residual ++ c₀.buffer.pending.toList ++ new ∧
        s.Fills (residual ++ c₀.buffer.pending.toList ++ new) next := by
  intro s es a residual es'
  have hb : Buffer.create s false = .ok { settings := s } := by
    simp [Buffer.create, WriterSettings.validate, RetrySettings.validate_default, s]
  have hrun : ((run {} es ({}, { buffer := { settings := s } })).bind fun s₀ =>
      (s₀.2.step {} s₀.1 (.answer a 0.5)).bind fun s₁ => (run {} es' s₁).map fun s₂ =>
        (s₀.2.flush.batch.map (·.id), (Policy.reply {} s₀.2.flush.batch a).handedBack,
          s₂.2.ledger.submitted.head?.map (·.map (·.id)),
          decide (s₂.2.ledger.submitted.tail = s₁.2.ledger.submitted))) =
      some (["a", "b", "c"], some residual, some ["a", "c", "d", "e"], true) := by
    decide +kernel
  obtain ⟨⟨t₀, c₀⟩, h₀, hrun⟩ := Option.bind_eq_some_iff.1 hrun
  obtain ⟨⟨t₁, c₁⟩, h₁, hrun⟩ := Option.bind_eq_some_iff.1 hrun
  obtain ⟨⟨t₂, c₂⟩, h₂, hrun⟩ := Option.map_eq_some_iff.1 hrun
  simp only [Prod.mk.injEq, Option.map_eq_some_iff, decide_eq_true_eq] at hrun
  obtain ⟨hbatch, hr, ⟨next, hhead, hids⟩, htail⟩ := hrun
  obtain ⟨batch, backoff, hf⟩ : ∃ batch backoff, c₀.flush = .submitting batch backoff := by
    cases hf : c₀.flush with
    | submitting batch backoff => exact ⟨batch, backoff, rfl⟩
    | looking | pausing | finished => simp [hf, Flush.batch] at hbatch
  rw [hf, Flush.batch] at hr
  have hnext : c₂.ledger.submitted = [] ++ next :: c₁.ledger.submitted := by
    rw [List.nil_append, ← htail, List.eq_cons_of_mem_head? (Option.mem_def.2 hhead)]
    rfl
  have hne : residual ≠ [] := List.cons_ne_nil _ _
  exact ⟨_, t₀, c₀, batch, backoff, t₁, c₁, t₂, c₂, next, hb, h₀, hf, hr, hne, h₁, h₂, hnext, hids,
    residual_prefix_of_run hb h₀ hf hr hne h₁ h₂ hnext⟩

end Course

end Outbox
