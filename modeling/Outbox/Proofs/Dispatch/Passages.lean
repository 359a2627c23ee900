import Outbox.Proofs.Dispatch.Contract
import Outbox.Proofs.Dispatch.Provenance

/-!
# Submissions among other calls

However the calls on a writer are interleaved, each submission is counted for itself,
and gets the reply it would get if there were no other calls (`Traffic.accounted_of_run`).

A submission passes the gate twice: it is counted when it enters, and no longer when it
leaves (`Passage`). The count is raised and lowered by nothing else. What has passed the
gate in the course of some events is `Traffic.passages`.

* The count is the number of submissions that have entered and not left. No submission
  leaves a gate whose count is zero.
* A submission has passed the gate as where it stands says (`Submission.passed`): once it
  has finished, it has entered once and left once, whether it was refused, answered or
  given up.
* Of what happens in the other lanes, a submission that was let in notices nothing: it
  gets the answer of the client (`Submission.Told`) and its reply, with what is handed
  back, is the one it gets on its own (`Submission.Alone`).
-/

namespace Outbox.Dispatch

/-- A submission passes the gate. -/
inductive Passage where
  | enter (lane : Nat)
  | leave (lane : Nat)
deriving DecidableEq, Repr

namespace Passage

def lane : Passage → Nat
  | enter lane | leave lane => lane

def isEnter : Passage → Bool
  | enter _ => true
  | leave _ => false

def isLeave : Passage → Bool
  | enter _ => false
  | leave _ => true

end Passage

/-- How a submission has passed the gate so far, by where it stands. -/
def Submission.passed (lane : Nat) : Submission → List Passage
  | arriving _ => []
  | counted _ | admitted _ | outstanding _ | leaving _ => [.enter lane]
  | announcing _ | finished _ => [.enter lane, .leave lane]

/-- The call in the lane of an event passes the gate. -/
def Event.passage? : Event → Call → Option Passage
  | .go lane, .submission (.arriving _) => some (.enter lane)
  | .go lane, .submission (.leaving _) => some (.leave lane)
  | _, _ => none

/-- What a passage does to the count. -/
def Gate.Passed (g g' : Gate) : Option Passage → Prop
  | none => g'.inFlight = g.inFlight
  | some (.enter _) => g'.inFlight = g.inFlight + 1
  | some (.leave _) => g'.inFlight + 1 = g.inFlight

/-- The client's answer to the request of a lane. -/
def Event.answer? (lane : Nat) : Event → Option Answer
  | .answer l a => if l = lane then some a else none
  | _ => none

variable {p : Policy} {batch : List Entry} {lane : Nat} {e : Event}

/-- A call that begins does not pass the gate. -/
theorem Event.passage?_of_call? {c : Call} (h : e.call? = some c) (old : Call) :
    e.passage? old = none := by
  cases e <;> cases h <;> rfl

/-- Who passes the gate does so in the lane of the event. -/
theorem Event.lane_of_passage? {c : Call} {x : Passage} (h : e.passage? c = some x) :
    x.lane = e.lane := by
  unfold passage? at h
  split at h <;> cases h <;> rfl

/-- No answer is given in other lanes. -/
theorem Event.answer?_of_lane_ne (h : e.lane ≠ lane) : e.answer? lane = none := by
  cases e <;> simp_all [answer?, Event.lane]

/-! ## Steps of a call -/

section Step

variable {g g' : Gate} {c c' : Call} {s : Submission} {asks : List Ask}

/-- The count is changed by passing the gate, and by nothing else. -/
theorem Call.Step.gate_passed (h : c.Step p g e g' c' asks)
    (hc : c.isCounted = true → 0 < g.inFlight) : g.Passed g' (e.passage? c) := by
  cases h with
  | submission hs =>
    cases hs with
    | leave | leaveLast => exact Nat.sub_add_cancel (hc rfl)
    | count | refuse | letIn | decline | send | announce => rfl
  | closing hs => exact hs.inFlight_eq
  | answered | released | submissionDropped | closingDropped => rfl

/-- A submission passes the gate as where it gets to says. -/
theorem Call.Step.passed (h : Call.Step p g e (.submission s) g' c asks) :
    ∃ s', c = .submission s' ∧
      s'.passed e.lane = s.passed e.lane ++ (e.passage? (.submission s)).toList := by
  cases h with
  | submission hs => cases hs <;> exact ⟨_, rfl, rfl⟩
  | answered | submissionDropped => exact ⟨_, rfl, rfl⟩

end Step

/-! ## On its own -/

namespace Submission

/-- What a submission that was let in has come to, given the answers it got. -/
inductive Heard (p : Policy) (batch : List Entry) : List Answer → Option Reply → Prop
  /-- The client was not asked. -/
  | declined {r : Reply} : p.refusal? batch = some r → Heard p batch [] (some r)
  /-- The client was asked, and has answered once. -/
  | answered (a : Answer) : p.refusal? batch = none →
      Heard p batch [a] (some (p.onAnswer batch a))
  /-- The submission was given up while the client was sending. -/
  | dropped : p.refusal? batch = none → Heard p batch [] none

/-- Where a submission that was let in stands, given the answers it got. -/
inductive Told (p : Policy) (batch : List Entry) : List Answer → Submission → Prop
  | admitted : Told p batch [] (.admitted batch)
  | outstanding : p.refusal? batch = none → Told p batch [] (.outstanding batch)
  | leaving {as : List Answer} {r : Option Reply} : Heard p batch as r →
      Told p batch as (.leaving r)
  | announcing {as : List Answer} {r : Option Reply} : Heard p batch as r →
      Told p batch as (.announcing r)
  | finished {as : List Answer} {r : Option Reply} : Heard p batch as r →
      Told p batch as (.finished r)

/-- A reply to a batch is the one it gets if no other call is made on the writer, where
    the client answers once, or not at all if the batch cannot be sent. -/
structure Alone (p : Policy) (batch : List Entry) (as : List Answer) (r : Reply) : Prop where
  /-- There is one answer if the client is asked, and none otherwise. -/
  asked : as.length = (isSendable batch).toNat
  /-- With that answer, six steps lead from the arrival to the reply. -/
  reply : ∀ a, as = [] ∨ as = [a] →
    ∃ g, after p a 6 ({}, .arriving batch) = (g, .finished (some r))

variable {as : List Answer} {s : Submission} {r : Reply} {g g' : Gate} {c : Call}
  {asks : List Ask}

/-- A reply that was heard is that of a submission on its own. -/
theorem Heard.alone (h : Heard p batch as (some r)) : Alone p batch as r := by
  cases h with
  | declined hr =>
    have hs : isSendable batch = false := by
      rw [← Bool.not_eq_true, ← Policy.refusal?_eq_none_iff (p := p), hr]
      exact nofun
    refine ⟨by rw [hs]; rfl, fun a _ => ?_⟩
    exact Policy.reply_of_refusal hr a ▸ after_arriving p a batch rfl
  | answered a hr =>
    refine ⟨by rw [Policy.refusal?_eq_none_iff.1 hr]; rfl, fun b hb => ?_⟩
    obtain rfl : a = b := by simpa using hb
    exact Policy.reply_of_refusal_eq_none hr a ▸ after_arriving p a batch rfl

/-- So is the reply of a submission that has finished. -/
theorem Told.alone (h : Told p batch as (.finished (some r))) : Alone p batch as r := by
  cases h with
  | finished hh => exact hh.alone

/-- The event is an answer to this submission, if it is one. -/
theorem Told.step (hs : Told p batch as s) (h : Call.Step p g e (.submission s) g' c asks) :
    ∃ s', c = .submission s' ∧ Told p batch (as ++ (e.answer? e.lane).toList) s' := by
  -- a step of its own, the answer of the client, or being given up
  cases h with
  | submission hstep =>
    refine ⟨_, rfl, ?_⟩
    change Told p batch (as ++ []) _
    rw [List.append_nil]
    cases hstep with
    | count | refuse | letIn => cases hs
    | decline hr => cases hs; exact .leaving (.declined hr)
    | send hr => cases hs; exact .outstanding hr
    | leave => cases hs with | leaving hh => exact .finished hh
    | leaveLast => cases hs with | leaving hh => exact .announcing hh
    | announce => cases hs with | announcing hh => exact .finished hh
  | @answered lane es a =>
    cases hs with
    | outstanding hr =>
      refine ⟨_, rfl, ?_⟩
      simpa [Event.answer?, Event.lane] using .leaving (.answered a hr)
  | submissionDropped =>
    cases hs with
    | outstanding hr => exact ⟨_, rfl, .leaving (.dropped hr)⟩

end Submission

namespace Traffic

variable {t t' : Traffic} {es : List Event}

/-- The gate is passed by an event. -/
def passage? (t : Traffic) (e : Event) : Option Passage := (t.lanes[e.lane]?).bind e.passage?

/-- How the gate is passed in the course of some events. -/
def passages (p : Policy) : List Event → Traffic → List Passage
  | [], _ => []
  | e :: es, t => (t.passage? e).toList ++ (t.step p e).elim [] (passages p es)

/-- The answers of the client to a lane, in the course of some events. -/
def answers (lane : Nat) (es : List Event) : List Answer := es.filterMap (·.answer? lane)

/-- How the gate is passed in one more step. -/
theorem passages_concat (h : run p es t = some t') (e : Event) :
    passages p (es ++ [e]) t = passages p es t ++ (t'.passage? e).toList := by
  induction es generalizing t with
  | nil =>
    obtain rfl := Option.some.inj h
    rw [List.nil_append, passages, passages, List.nil_append]
    cases t.step p e <;> exact List.append_nil _
  | cons d es ih =>
    obtain ⟨t₁, h₁, h⟩ := Option.bind_eq_some_iff.1 h
    rw [List.cons_append, passages, passages, h₁, Option.elim_some, Option.elim_some, ih h,
      List.append_assoc]

/-- The last answer comes last. -/
theorem answers_concat (lane : Nat) (es : List Event) (e : Event) :
    answers lane (es ++ [e]) = answers lane es ++ (e.answer? lane).toList := by
  rw [answers, List.filterMap_append, List.filterMap_cons]
  cases e.answer? lane <;> rfl

/-! ## The count -/

/-- Each step changes the count by how the gate is passed. -/
theorem Orderly.gate_passed (ho : Orderly t) (h : t.step p e = some t') :
    t.gate.Passed t'.gate (t.passage? e) := by
  cases change_of_step h with
  | new hc hl => rw [passage?, hl, List.getElem?_eq_none (Nat.le_refl _)]; rfl
  | again hc hl => rw [passage?, hl, Option.bind_some, Event.passage?_of_call? hc]; rfl
  | goOn hl hs =>
    rw [passage?, hl, Option.bind_some]
    exact hs.gate_passed fun hc => ho.inFlight ▸ countP_pos hl hc

/-- What has entered has left, or is counted. -/
theorem balance_of_run (h : run p es {} = some t) :
    t.gate.inFlight + (passages p es {}).countP Passage.isLeave =
      (passages p es {}).countP Passage.isEnter := by
  induction es using List.reverseRecOn generalizing t with
  | nil =>
    obtain rfl := Option.some.inj h
    rfl
  | append_singleton es e ih =>
    obtain ⟨t₁, h₁, hstep⟩ := run_concat.1 h
    have hbefore := ih h₁
    have hnow := (orderly_of_run h₁).gate_passed hstep
    rw [passages_concat h₁, List.countP_append, List.countP_append]
    -- nobody passes the gate, or one enters or leaves
    cases hx : t₁.passage? e with
    | none =>
      rw [hx, Gate.Passed] at hnow
      rw [Option.toList_none, List.countP_nil, List.countP_nil]
      omega
    | some x =>
      rw [hx] at hnow
      rw [Option.toList_some, List.countP_singleton, List.countP_singleton]
      cases x <;> simp [Gate.Passed, Passage.isEnter, Passage.isLeave] at hnow ⊢ <;> omega

/-! ## One lane -/

/-- What passes the gate in a lane, of which no other call takes the place of the
    submission there. -/
theorem passed_of_run {s : Submission} (hl : t.lanes[lane]? = some (.submission s))
    (hes : ∀ e ∈ es, ¬e.Begins lane) (h : run p es t = some t') :
    ∃ s', t'.lanes[lane]? = some (.submission s') ∧
      s'.passed lane = s.passed lane ++ (passages p es t).filter (·.lane = lane) := by
  refine submission_induction (P := fun es s' =>
    s'.passed lane = s.passed lane ++ (passages p es t).filter (·.lane = lane))
    hl (List.append_nil _).symm ?_ ?_ hes h
  · -- in the other lanes others pass
    intro es t₁ e s₁ h₁ hlane hpassed
    have hnone : (t₁.passage? e).toList.filter (·.lane = lane) = [] := by
      rw [List.filter_eq_nil_iff]
      intro x hx
      obtain ⟨c, -, hx⟩ := Option.bind_eq_some_iff.1 (Option.mem_toList.1 hx)
      simpa [Event.lane_of_passage? hx] using hlane
    rw [passages_concat h₁, List.filter_append, hnone, List.append_nil, hpassed]
  · rintro es t₁ e s₁ g c asks h₁ hl₁ rfl hpassed hs
    obtain ⟨s₂, rfl, hpassed₂⟩ := hs.passed
    refine ⟨s₂, rfl, ?_⟩
    have hall : (t₁.passage? e).toList.filter (·.lane = e.lane) =
        (e.passage? (.submission s₁)).toList := by
      rw [passage?, hl₁, Option.bind_some, List.filter_eq_self]
      intro x hx
      simpa using Event.lane_of_passage? (Option.mem_toList.1 hx)
    rw [passages_concat h₁, List.filter_append, hall, hpassed₂, hpassed, List.append_assoc]

/-- The submission in a lane is told the answers to this lane. -/
theorem told_of_run {s : Submission} (hl : t.lanes[lane]? = some (.submission s))
    (hs : s.Told p batch []) (hes : ∀ e ∈ es, ¬e.Begins lane) (h : run p es t = some t') :
    ∃ s', t'.lanes[lane]? = some (.submission s') ∧ s'.Told p batch (answers lane es) := by
  refine submission_induction (P := fun es s' => s'.Told p batch (answers lane es))
    hl hs ?_ ?_ hes h
  · intro es t₁ e s₁ _ hlane htold
    rw [answers_concat, Event.answer?_of_lane_ne hlane, Option.toList_none, List.append_nil]
    exact htold
  · rintro es t₁ e s₁ g c asks - - rfl htold hstep
    rw [answers_concat]
    exact htold.step hstep

/-! ## All lanes -/

/-- Each submission is counted for itself, and replied to as if there were no other call,
    given the events so far. -/
structure Accounted (p : Policy) (es : List Event) (t : Traffic) : Prop where
  /-- The count is the number of submissions in the lanes that have entered and have yet
      to leave. -/
  count : t.gate.inFlight = t.lanes.countP Call.isCounted
  /-- So it is for all submissions that there ever were. -/
  balance : t.gate.inFlight + (passages p es {}).countP Passage.isLeave =
    (passages p es {}).countP Passage.isEnter
  /-- The next step changes the count by one if the gate is passed, and not at all
      otherwise. No submission leaves when the count is zero. -/
  passed : ∀ e t', t.step p e = some t' → t.gate.Passed t'.gate (t.passage? e)
  /-- If none is running, the count is zero. -/
  idle : (∀ s, .submission s ∈ t.lanes → s.isFinished = true) → t.gate.inFlight = 0
  /-- A submission that begins passes the gate at most twice, and exactly twice, in and
      out, if it finishes. -/
  once : ∀ (lane : Nat) (batch : List Entry) (t₁ : Traffic) (later : List Event) (t₂ : Traffic),
    t.step p (.submit lane batch) = some t₁ → run p later t₁ = some t₂ →
    (∀ e ∈ later, ¬e.Begins lane) →
    ∃ s, t₂.lanes[lane]? = some (.submission s) ∧
      (passages p later t₁).filter (·.lane = lane) = s.passed lane
  /-- A submission that was let in, with the batch it was called with, and that finishes
      without being given up gets the reply it gets on its own. -/
  alone : ∀ (lane : Nat) (batch : List Entry) (later : List Event) (t' : Traffic) (r : Reply),
    t.lanes[lane]? = some (.submission (.admitted batch)) → run p later t = some t' →
    (∀ e ∈ later, ¬e.Begins lane) →
    t'.lanes[lane]? = some (.submission (.finished (some r))) →
    (batches lane es).head? = some batch ∧ Submission.Alone p batch (answers lane later) r

/-- A batch that is submitted arrives. -/
theorem submitted_of_step {t₁ : Traffic} (h : t.step p (.submit lane batch) = some t₁) :
    t₁.lanes[lane]? = some (.submission (.arriving batch)) := by
  cases change_of_step h with
  | new hc hl =>
    cases hc
    obtain rfl : lane = t.lanes.length := hl
    exact List.getElem?_concat_length
  | again hc hl =>
    cases hc
    exact List.getElem?_set_self (List.getElem?_eq_some_iff.1 hl).1
  | goOn _ hs => cases hs

/-- However the calls on a writer are interleaved, its submissions are accounted for. -/
theorem accounted_of_run (h : run p es {} = some t) : Accounted p es t where
  count := (orderly_of_run h).inFlight
  balance := balance_of_run h
  passed _ _ := (orderly_of_run h).gate_passed
  idle hidle := by
    rw [(orderly_of_run h).inFlight, List.countP_eq_zero]
    rintro (s | c) hc
    · have hs := hidle s hc
      cases s <;> first | exact Bool.false_ne_true | cases hs
    · exact Bool.false_ne_true
  once lane batch t₁ later t₂ hstep hrun hes := by
    obtain ⟨s, hl, hpassed⟩ := passed_of_run (submitted_of_step hstep) hes hrun
    exact ⟨s, hl, hpassed.symm⟩
  alone lane batch later t' r hl hrun hes hl' := by
    -- a submission that was let in is about the batch submitted last
    obtain ⟨batch', older, hb, hof, -⟩ := (traced_of_run h).latest lane _ hl
    cases hof
    refine ⟨by rw [hb, List.head?_cons], ?_⟩
    obtain ⟨s', hs', htold⟩ := told_of_run hl .admitted hes hrun
    obtain rfl := Call.submission.inj (Option.some.inj (hs'.symm.trans hl'))
    exact htold.alone

/-- Of six calls one closes the writer. One submission is let in before that and gets
    through. Of the others one finds the gate shut, one has an entry that cannot be sent,
    one fails, and one is given up. -/
theorem accounted_of_run_six :
    let p : Policy := { failOnError := true }
    let batch : List Entry := [{ id := "a" }, { id := "b" }]
    let r : Reply := ⟨.ok { delivered := 2 }, some []⟩
    let es : List Event :=
      [.submit 0 batch, .submit 1 [.unconvertible "x" ""], .go 1, .go 1, .submit 2 batch, .go 0,
        .go 2, .go 2, .go 2, .submit 3 [], .go 3, .go 3, .go 3, .go 0, .close 4, .go 4,
        .submit 5 batch, .go 5, .drop 3]
    let later : List Event :=
      [.go 0, .answer 2 (.error ⟨.transport, none, "", none⟩), .go 5, .go 3, .answer 0 (.ok {}),
        .go 1, .go 5, .go 2, .go 1, .go 0, .go 0]
    ∃ t t', run p es {} = some t ∧ t.gate.inFlight = 5 ∧
      t.lanes[0]? = some (.submission (.admitted batch)) ∧
      run p later t = some t' ∧ (∀ e ∈ later, ¬e.Begins 0) ∧
      t'.lanes[0]? = some (.submission (.finished (some r))) ∧ t'.gate.inFlight = 0 ∧
      Accounted p es t ∧ Accounted p (es ++ later) t' :=
  ⟨_, _, rfl, rfl, rfl, rfl, by simp [Event.Begins, Event.call?], rfl, rfl,
    accounted_of_run rfl, accounted_of_run rfl⟩

end Traffic

end Outbox.Dispatch
