import Outbox.Proofs.Course.Shared
import Outbox.Proofs.Dispatch.Provenance

/-!
# All calls on a shared writer

The submission of a buffer is a call like the others on its writer: with a lane of its
own, in front of theirs, it is part of one traffic (`Shared.Joint`). What holds of all
traffic therefore holds of a buffer and its neighbours, whatever is called on the buffer
and whatever they do (`Shared.managed_of_run`):

* the client is asked to release what it holds at most once, and the gate is shut then;
* it was asked to when a closing call has seen it done, or knows that another one has
  (`Dispatch.Traffic.Asked`), and it was done then.
-/

namespace Outbox

namespace Dispatch

/-! ## Whoever waits for the release -/

/-- The client was asked to release what it holds by the time that the call is there. -/
def Closing.isAsked : Closing → Bool
  | .releasing | .noting | .announcing => true
  | .arriving | .draining | .counting _ | .awaitingDrain _ | .drained | .following
  | .checking _ | .awaitingRelease _ | .finished | .abandoned => false

/-- The event, about another lane. -/
def Event.inLane (lane : Nat) : Event → Event
  | .submit _ batch => .submit lane batch
  | .close _ => .close lane
  | .go _ => .go lane
  | .answer _ a => .answer lane a
  | .clientReleased _ => .clientReleased lane
  | .drop _ => .drop lane

/-- An event that is moved happens in its new lane. -/
theorem Event.lane_inLane (e : Event) (lane : Nat) : (e.inLane lane).lane = lane := by
  cases e <;> rfl

/-- An event that is moved begins the same call. -/
theorem Event.call?_inLane (e : Event) (lane : Nat) : (e.inLane lane).call? = e.call? := by
  cases e <;> rfl

section Step

variable {p : Policy} {e : Event} {g g' : Gate} {c c' : Call} {asks : List Ask}

/-- The client is asked as a closing call gets there. -/
theorem Call.Step.isAsked {d : Closing} (h : c.Step p g e g' (.closing d) asks)
    (hd : d.isAsked = true) :
    0 < asks.countP Ask.isRelease ∨ ∃ d', c = .closing d' ∧ d'.isAsked = true := by
  cases h with
  | closing hs =>
    cases hs with
    | release => exact .inl (by simp [Ask.isRelease])
    | note | announce => exact .inr ⟨_, rfl, rfl⟩
    | shut | follow | takeTicket | findNone | findSome | goOn | takeReleaseTicket | findReleased
    | findUnreleased | checkAgain => cases hd
  | released => exact .inr ⟨_, rfl, rfl⟩
  | closingDropped => cases hd

/-- A step of a call is the same in another lane. -/
theorem Call.Step.inLane (h : c.Step p g e g' c' asks) (lane : Nat) :
    ∃ asks', c.Step p g (e.inLane lane) g' c' asks' ∧
      asks'.countP Ask.isRelease = asks.countP Ask.isRelease := by
  cases h with
  | submission hs =>
    refine ⟨_, .submission hs, ?_⟩
    cases hs <;> rfl
  | closing hs =>
    refine ⟨_, .closing hs, ?_⟩
    split <;> rfl
  | answered => exact ⟨_, .answered, rfl⟩
  | released => exact ⟨_, .released, rfl⟩
  | submissionDropped => exact ⟨_, .submissionDropped, rfl⟩
  | closingDropped hd => exact ⟨_, .closingDropped hd, rfl⟩

end Step

namespace Traffic

variable {p : Policy} {t t' : Traffic} {e : Event}

/-- The client was asked to release what it holds, if a call relies on that. -/
def Asked (t : Traffic) : Prop :=
  (t.gate.released = true ∨ ∃ c, .closing c ∈ t.lanes ∧ c.isAsked = true) → 0 < t.releaseCount

/-- What the client was asked stays asked. -/
theorem Change.releaseCount_le (h : Change p t e t') : t.releaseCount ≤ t'.releaseCount := by
  rw [releaseCount_eq, releaseCount_eq]
  cases h with
  | new | again => exact Nat.le_refl _
  | goOn =>
    rw [List.countP_append]
    exact Nat.le_add_left _ _

/-- Whoever has seen the release done, or knows of another who has, the client was asked for it. -/
theorem Asked.of_change (ha : t.Asked) (h : Change p t e t') : t'.Asked := by
  have hle := h.releaseCount_le
  -- either the gate says that the release is done, or a closing call has it in mind
  rintro (hr | ⟨c, hc, hasked⟩)
  · cases h with
    | new | again => exact ha (.inl hr)
    | goOn hl hs =>
      rcases hs.noting hr with hr | rfl
      · exact Nat.lt_of_lt_of_le (ha (.inl hr)) hle
      · exact Nat.lt_of_lt_of_le (ha (.inr ⟨_, List.mem_of_getElem? hl, rfl⟩)) hle
  · obtain ⟨lane, hl⟩ := List.getElem?_of_mem hc
    obtain ⟨hl, -⟩ | ⟨hcall, -⟩ | ⟨b, asks, hl, -, hs, hrec⟩ := h.lane_cases hl
    · exact Nat.lt_of_lt_of_le (ha (.inr ⟨c, List.mem_of_getElem? hl, hasked⟩)) hle
    · obtain ⟨_, hc⟩ | hc := Event.call?_cases hcall <;> cases hc
      cases hasked
    · obtain hpos | ⟨d, rfl, hd⟩ := hs.isAsked hasked
      · rw [releaseCount_eq, hrec, List.countP_append]
        exact Nat.add_pos_left hpos _
      · exact Nat.lt_of_lt_of_le (ha (.inr ⟨d, List.mem_of_getElem? hl, hd⟩)) hle

end Traffic

end Dispatch

open Dispatch (Submission Traffic)

namespace Shared

variable {p : Policy} {t t' : Tally} {s s' : Shared} {e : Event} {u : Traffic}

/-- The traffic of all calls on the writer: the submission of the buffer in the first lane,
    and all others behind it. -/
structure Joint (s : Shared) (u : Traffic) : Prop where
  gate : u.gate = s.others.gate
  lanes : u.lanes = .submission s.submission :: s.others.lanes
  releaseCount : u.releaseCount = s.others.releaseCount

/-- What happens to the others happens in the lane behind. -/
theorem Joint.other (hj : s.Joint u) {e : Dispatch.Event} {others : Traffic}
    (h : Traffic.Change p s.others e others) :
    ∃ u', Traffic.Change p u (e.inLane (e.lane + 1)) u' ∧ Joint { s with others } u' := by
  have hset (c : Dispatch.Call) : u.lanes.set (e.inLane (e.lane + 1)).lane c =
      .submission s.submission :: s.others.lanes.set e.lane c := by
    rw [hj.lanes, e.lane_inLane, List.set_cons_succ]
  have hget {c : Dispatch.Call} (hc : s.others.lanes[e.lane]? = some c) :
      u.lanes[(e.inLane (e.lane + 1)).lane]? = some c := by
    rw [hj.lanes, e.lane_inLane, List.getElem?_cons_succ, hc]
  -- the submission is in the first lane, so that each lane of the others is one further on
  cases h with
  | @new c hc hl =>
    have hl' : (e.inLane (e.lane + 1)).lane = u.lanes.length := by
      rw [e.lane_inLane, hl, hj.lanes, List.length_cons]
    exact ⟨_, .new ((e.call?_inLane _).trans hc) hl', hj.gate, by rw [hj.lanes]; rfl,
      hj.releaseCount⟩
  | again hc ho hf =>
    exact ⟨_, .again ((e.call?_inLane _).trans hc) (hget ho) hf, hj.gate, hset _, hj.releaseCount⟩
  | @goOn c c' g asks hc hs =>
    obtain ⟨asks', hs', hcount⟩ := hs.inLane (e.lane + 1)
    refine ⟨_, .goOn (hget hc) (hj.gate ▸ hs'), rfl, hset c', ?_⟩
    have hold := hj.releaseCount
    simp only [Traffic.releaseCount_eq, List.countP_append] at hold ⊢
    rw [hcount, hold]

/-- A step of the buffer's own submission. -/
theorem Joint.own (hj : s.Joint u) {e : Dispatch.Event} (he : e.lane = 0) {g : Dispatch.Gate}
    {submission : Submission} {asks : List Dispatch.Ask}
    (h : Dispatch.Call.Step p s.others.gate e (.submission s.submission) g
      (.submission submission) asks) {course : Course} :
    ∃ u', Traffic.Change p u e u' ∧
      Joint { course, submission, others := { s.others with gate := g } } u' := by
  have hc : u.lanes[e.lane]? = some (.submission s.submission) := by
    rw [hj.lanes, he, List.getElem?_cons_zero]
  refine ⟨_, .goOn hc (hj.gate ▸ h), rfl, by rw [hj.lanes, he]; rfl, ?_⟩
  -- A submission does not ask for the release.
  have hnone : asks.countP Dispatch.Ask.isRelease = 0 := by
    obtain rfl | ⟨_, rfl, -⟩ | ⟨-, hd⟩ := h.asks_cases
    · rfl
    · rfl
    · cases hd
  have hold := hj.releaseCount
  simp only [Traffic.releaseCount_eq, List.countP_append] at hold ⊢
  omega

/-- If the flush has cut off a batch, then its submission begins in place of the last one. -/
theorem Joint.begin (hj : s.Joint u) (hfin : s.submission.isFinished = true) (c : Course) :
    Joint (begin { s with course := c }) u ∨ ∃ batch u',
      Traffic.Change p u (.submit 0 batch) u' ∧ Joint (begin { s with course := c }) u' := by
  cases hf : c.flush with
  | submitting batch backoff =>
    have hbegin : Shared.begin { s with course := c } =
        { s with course := c, submission := .arriving batch } := by rw [Shared.begin, hf]
    have hc : u.lanes[0]? = some (.submission s.submission) := by
      rw [hj.lanes, List.getElem?_cons_zero]
    rw [hbegin]
    refine .inr ⟨batch, _, .again rfl hc hfin, hj.gate, ?_, hj.releaseCount⟩
    rw [hj.lanes]
    rfl
  | looking | pausing | finished =>
    rw [begin_of_ne (by simp [hf])]
    exact .inl ⟨hj.gate, hj.lanes, hj.releaseCount⟩

/-- What an event does to all calls together: nothing, or what some event of the traffic
    does. -/
theorem Joint.of_step (hj : s.Joint u) (h : s.step p t e = some (t', s')) :
    s'.Joint u ∨ ∃ e' u', Traffic.Change p u e' u' ∧ s'.Joint u' ∧
      ∀ lane, e' = .clientReleased lane → ∃ lane, e = .other (.clientReleased lane) := by
  cases takes_of_step h with
  | called | woken => exact .inl ⟨hj.gate, hj.lanes, hj.releaseCount⟩
  | looked hfin _ =>
    obtain hj' | ⟨batch, u', hu, hj'⟩ := hj.begin hfin _
    · exact .inl hj'
    · exact .inr ⟨_, u', hu, hj', fun _ he => by cases he⟩
  | went ha | ruled ha =>
    obtain ⟨u', hu, hj'⟩ := hj.own (e := .go 0) rfl (.submission (Submission.step_of_advance ha))
    exact .inr ⟨_, u', hu, hj', fun _ he => by cases he⟩
  | @answered a _ batch _ _ hs =>
    have hs' : Dispatch.Call.Step p s.others.gate (.answer 0 a) (.submission s.submission)
        s.others.gate (.submission (.leaving (some (p.onAnswer batch a)))) [] := hs ▸ .answered
    obtain ⟨u', hu, hj'⟩ := hj.own rfl hs'
    exact .inr ⟨_, u', hu, hj', fun _ he => by cases he⟩
  | @other e _ ho =>
    obtain ⟨u', hu, hj'⟩ := hj.other (Traffic.change_of_step ho)
    refine .inr ⟨_, u', hu, hj', fun lane he => ?_⟩
    cases e <;> cases he
    exact ⟨_, rfl⟩

/-- What is true of a writer on which a buffer is not alone, given the events so far. -/
structure Managed (es : List Event) (s : Shared) : Prop where
  /-- The client is asked to release what it holds at most once, -/
  once : s.others.releaseCount ≤ 1
  /-- and the gate is shut then. -/
  closed : 0 < s.others.releaseCount → s.others.gate.closed = true
  /-- When it is known to be done, it was asked to -/
  asked : s.others.gate.released = true → 0 < s.others.releaseCount
  /-- and is done. -/
  done : s.others.gate.released = true → ∃ lane, .other (.clientReleased lane) ∈ es
  /-- It is known to be done when a closing call has returned. -/
  seen : .closing .finished ∈ s.others.lanes → s.others.gate.released = true
  /-- Nothing is counted when nothing is under way. -/
  quiet : s.submission.isFinished = true → (∀ c ∈ s.others.lanes, c.isFinished = true) →
    s.others.gate.inFlight = 0

/-- What is true of all traffic, with the events of the neighbours among it. -/
structure InTraffic (es : List Event) (s : Shared) (u : Traffic) (es' : List Dispatch.Event) :
    Prop where
  /-- The traffic is that of the buffer and the others. -/
  joint : s.Joint u
  orderly : u.Orderly
  noted : u.Noted es'
  asked : u.Asked
  /-- When the client is done with its release, that is an event of the neighbours. -/
  events : ∀ lane, .clientReleased lane ∈ es' → ∃ lane, .other (.clientReleased lane) ∈ es

/-- A step of the buffer or of the others is a step of the traffic of all, or none at all. -/
theorem InTraffic.of_step {es : List Event} {es' : List Dispatch.Event} (ht : InTraffic es s u es')
    (h : s.step p t e = some (t', s')) : ∃ u' es'', InTraffic (es ++ [e]) s' u' es'' := by
  have hold (lane : Nat) (hl : .clientReleased lane ∈ es') :
      ∃ lane, .other (.clientReleased lane) ∈ es ++ [e] :=
    (ht.events lane hl).imp fun _ => List.mem_append_left _
  obtain hj | ⟨e', u', hu, hj, he⟩ := ht.joint.of_step h
  · exact ⟨u, es', hj, ht.orderly, ht.noted, ht.asked, hold⟩
  · refine ⟨u', es' ++ [e'], hj, ?_, ?_, ht.asked.of_change hu, fun lane hl => ?_⟩
    · exact {
        inFlight := ht.orderly.inFlight_of_change hu
        once := ht.orderly.once_of_change hu
        quiet := ht.orderly.quiet_of_change hu
        last := ht.orderly.last_of_change hu }
    · exact {
        seen := fun _ hc hd => ht.noted.seen_of_change hu hc hd
        done := ht.noted.done_of_change hu }
    · rcases List.mem_append.1 hl with hl | hl
      · exact hold lane hl
      · obtain ⟨lane', rfl⟩ := he lane (List.mem_singleton.1 hl).symm
        exact ⟨lane', List.mem_append_right _ (List.mem_singleton_self _)⟩

/-- At first there is no call on the writer. -/
theorem inTraffic_of_empty (c : Course) :
    InTraffic [] { course := c } { lanes := [.submission (.finished none)] } [] where
  joint := ⟨rfl, rfl, rfl⟩
  orderly := {
    inFlight := rfl
    once := Nat.le_refl 0
    quiet := fun _ => rfl
    last := fun h => absurd h (Nat.lt_irrefl 0) }
  noted := {
    seen := fun c hc => by simp at hc
    done := fun h => by simp at h }
  asked h := by simp at h
  events _ h := absurd h List.not_mem_nil

/-- What is known of the traffic of all, said of the buffer and the others. -/
theorem InTraffic.managed {es : List Event} {es' : List Dispatch.Event}
    (ht : InTraffic es s u es') : Managed es s := by
  have hcount := ht.joint.releaseCount
  have hgate := ht.joint.gate
  have hmem {c : Dispatch.Closing} (hc : .closing c ∈ s.others.lanes) : .closing c ∈ u.lanes :=
    ht.joint.lanes ▸ List.mem_cons_of_mem _ hc
  refine ⟨?_, fun hpos => ?_, fun hr => ?_, fun hr => ?_, fun hc => ?_, fun hown hothers => ?_⟩
  · have honce := ht.orderly.once
    have hle : u.gate.closed.toNat ≤ 1 := Bool.toNat_le _
    omega
  · exact hgate ▸ ht.orderly.closed (Nat.add_pos_left (hcount ▸ hpos) _)
  · exact hcount ▸ ht.asked (.inl (hgate ▸ hr))
  · obtain ⟨lane, hl⟩ := ht.noted.done (.inl (hgate ▸ hr))
    exact ht.events lane hl
  · exact hgate ▸ ht.noted.seen _ (hmem hc) (.inr rfl)
  · rw [← hgate, ht.orderly.inFlight, List.countP_eq_zero, ht.joint.lanes, List.forall_mem_cons]
    have none {c : Dispatch.Call} (hc : c.isFinished = true) : ¬c.isCounted = true := by
      rw [Dispatch.midway_isCounted.of_isFinished hc]
      exact Bool.false_ne_true
    exact ⟨none hown, fun c hc => none (hothers c hc)⟩

/-- Whatever is called on a buffer, and whatever others do on its writer, the writer is in
    order. -/
theorem managed_of_run {b : Buffer} {es : List Event}
    (h : run p es (t, { course := { buffer := b } }) = some (t', s)) : Managed es s := by
  have htraced := run_induction (motive := fun es _ s => ∃ u es', InTraffic es s u es')
    ⟨_, _, inTraffic_of_empty { buffer := b }⟩ (fun _ ⟨_, _, ht⟩ hs => ht.of_step hs) h
  obtain ⟨u, es', ht⟩ := htraced
  exact ht.managed

/-- The client stays released. -/
theorem released_of_run {es : List Event} (hr : s.others.gate.released = true)
    (h : run p es (t, s) = some (t', s')) : s'.others.gate.released = true := by
  refine run_induction (motive := fun _ _ s => s.others.gate.released = true) hr
    (fun {_ _ _ s _ _} _ hr hs => ?_) h
  have hj : s.Joint { s.others with lanes := .submission s.submission :: s.others.lanes } :=
    ⟨rfl, rfl, rfl⟩
  obtain hj' | ⟨e', u', hu, hj', -⟩ := hj.of_step hs
  · exact hj'.gate ▸ hr
  · exact hj'.gate ▸ hu.gate_released hr

end Shared

end Outbox
