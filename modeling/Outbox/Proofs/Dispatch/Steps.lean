import Mathlib.Data.List.Induction
import Outbox.Dispatch.Traffic

/-!
# The steps of traffic

What an event does to the traffic (`Traffic.Change`): a call begins in a lane of
its own or in place of one that has finished, or the call in a lane goes on
(`Call.Step`), be it by a step of its own, by the client, or by being given up.
The steps of its own are those of a submission (`Submission.Step`) or a closing
call (`Closing.Step`), each of which reads or changes one field of the gate.

* `Traffic.change_of_step`: every step is such a change.
* `Traffic.step_of_call`: what a call can do, the traffic does.
* `Traffic.Change.lane_eq`: only the call in the event's lane changes.
* `Traffic.run_induction`: what holds at the start and is kept by every step
  holds after every run, also of the events so far.
* `Traffic.countP_set`: how the number of calls of some kind changes with the
  call in one lane.
-/

namespace Outbox.Dispatch

/-- The call that an event begins. -/
def Event.call? : Event → Option Call
  | .submit _ es => some (.submission (.arriving es))
  | .close _ => some (.closing .arriving)
  | _ => none

/-- The lane an event is about. -/
def Event.lane : Event → Nat
  | .submit lane _ | .close lane | .go lane | .answer lane _ | .clientReleased lane
  | .drop lane => lane

/-! ## Steps of a call -/

/-- The steps of a submission of its own. -/
inductive Submission.Step (p : Policy) (g : Gate) : Submission → Gate → Submission → Prop
  /-- It is counted before it looks at the gate. -/
  | count {es : List Entry} :
      Step p g (.arriving es) { g with inFlight := g.inFlight + 1 } (.counted es)
  /-- The gate is shut. -/
  | refuse {es : List Entry} : g.closed = true →
      Step p g (.counted es) g (.leaving (some (.failure .closed)))
  /-- The gate is open. -/
  | letIn {es : List Entry} : g.closed = false → Step p g (.counted es) g (.admitted es)
  /-- An entry cannot be sent, so the client is not asked. -/
  | decline {es : List Entry} {r : Reply} : p.refusal? es = some r →
      Step p g (.admitted es) g (.leaving (some r))
  /-- The client is asked to send the batch. -/
  | send {es : List Entry} : p.refusal? es = none → Step p g (.admitted es) g (.outstanding es)
  /-- Others are still counted. -/
  | leave {r : Option Reply} : g.inFlight ≠ 1 →
      Step p g (.leaving r) { g with inFlight := g.inFlight - 1 } (.finished r)
  /-- Nobody else is counted, which is to be announced. -/
  | leaveLast {r : Option Reply} : g.inFlight = 1 →
      Step p g (.leaving r) { g with inFlight := g.inFlight - 1 } (.announcing r)
  /-- Those that wait for the drain are woken up. -/
  | announce {r : Option Reply} :
      Step p g (.announcing r) { g with drains := g.drains + 1 } (.finished r)

/-- The steps of a closing call of its own. -/
inductive Closing.Step (g : Gate) : Closing → Gate → Closing → Prop
  /-- The first closing call shuts the gate. -/
  | shut : g.closed = false → Step g .arriving { g with closed := true } .draining
  /-- The others find it shut. -/
  | follow : g.closed = true → Step g .arriving { g with closed := true } .following
  /-- A ticket for the drain is taken before the count is looked at. -/
  | takeTicket : Step g .draining g (.counting g.drains)
  /-- No submission is under way. -/
  | findNone {ticket : Nat} : g.inFlight = 0 → Step g (.counting ticket) g .drained
  /-- Some submission is under way, and the ticket is held on to. -/
  | findSome {ticket : Nat} : g.inFlight ≠ 0 →
      Step g (.counting ticket) g (.awaitingDrain ticket)
  /-- The drain was announced after the ticket was taken. -/
  | goOn {ticket : Nat} : g.drains ≠ ticket → Step g (.awaitingDrain ticket) g .draining
  /-- The client is asked to release what it holds. -/
  | release : Step g .drained g .releasing
  /-- The client is done, and the flag is put up. -/
  | note : Step g .noting { g with released := true } .announcing
  /-- Those that wait for the release are woken up. -/
  | announce : Step g .announcing { g with releases := g.releases + 1 } .finished
  /-- A ticket for the release is taken before the flag is looked at. -/
  | takeReleaseTicket : Step g .following g (.checking g.releases)
  /-- The client has been released. -/
  | findReleased {ticket : Nat} : g.released = true → Step g (.checking ticket) g .finished
  /-- The client is yet to be released, and the ticket is held on to. -/
  | findUnreleased {ticket : Nat} : g.released = false →
      Step g (.checking ticket) g (.awaitingRelease ticket)
  /-- The release was announced after the ticket was taken. -/
  | checkAgain {ticket : Nat} : g.releases ≠ ticket →
      Step g (.awaitingRelease ticket) g .following

/-- A submission goes on by one of its steps. -/
theorem Submission.step_of_advance {p : Policy} {g g' : Gate} {s s' : Submission}
    (h : s.advance p g = some (g', s')) : Step p g s g' s' := by
  -- where the gate decides, both of its answers are looked at
  cases s with
  | arriving es => cases h; exact .count
  | counted es =>
    cases hg : g.closed <;> simp [advance, hg] at h <;> obtain ⟨rfl, rfl⟩ := h
    · exact .letIn hg
    · exact .refuse hg
  | admitted es =>
    cases hr : p.refusal? es <;> simp [advance, hr] at h <;> obtain ⟨rfl, rfl⟩ := h
    · exact .send hr
    · exact .decline hr
  | outstanding es => cases h
  | leaving r =>
    obtain ⟨rfl, rfl⟩ := Prod.mk.inj (Option.some.inj h)
    split <;> rename_i hg
    · exact .leaveLast hg
    · exact .leave hg
  | announcing r => cases h; exact .announce
  | finished r => cases h

/-- A closing call goes on by one of its steps. -/
theorem Closing.step_of_advance {g g' : Gate} {c c' : Closing}
    (h : c.advance g = some (g', c')) : Step g c g' c' := by
  -- where the gate decides, both of its answers are looked at
  cases c with
  | arriving =>
    cases hg : g.closed <;> simp [advance, hg] at h <;> obtain ⟨rfl, rfl⟩ := h
    · exact .shut hg
    · exact .follow hg
  | counting ticket =>
    by_cases hg : g.inFlight = 0 <;> simp [advance, hg] at h <;> obtain ⟨rfl, rfl⟩ := h
    · exact .findNone hg
    · exact .findSome hg
  | awaitingDrain ticket =>
    by_cases hg : g.drains = ticket <;> simp [advance, hg] at h
    obtain ⟨rfl, rfl⟩ := h
    exact .goOn hg
  | checking ticket =>
    cases hg : g.released <;> simp [advance, hg] at h <;> obtain ⟨rfl, rfl⟩ := h
    · exact .findUnreleased hg
    · exact .findReleased hg
  | awaitingRelease ticket =>
    by_cases hg : g.releases = ticket <;> simp [advance, hg] at h
    obtain ⟨rfl, rfl⟩ := h
    exact .checkAgain hg
  | draining => cases h; exact .takeTicket
  | drained => cases h; exact .release
  | noting => cases h; exact .note
  | announcing => cases h; exact .announce
  | following => cases h; exact .takeReleaseTicket
  | releasing | finished | abandoned => cases h

/-- Nothing else is a step of a submission of its own. -/
theorem Submission.Step.advance_eq {p : Policy} {g g' : Gate} {s s' : Submission}
    (h : s.Step p g g' s') : s.advance p g = some (g', s') := by
  cases h with
  | count | announce => rfl
  | refuse hg | letIn hg => simp [advance, hg]
  | decline hr | send hr => simp [advance, hr]
  | leave hg | leaveLast hg => simp [advance, hg]

/-- Each step of a closing call is what it goes on by. -/
theorem Closing.Step.advance_eq {g g' : Gate} {c c' : Closing} (h : c.Step g g' c') :
    c.advance g = some (g', c') := by
  cases h <;> simp_all [advance]

/-- The steps of the call in the lane of an event, by which the client may be
    asked something. -/
inductive Call.Step (p : Policy) (g : Gate) :
    Event → Call → Gate → Call → List Ask → Prop
  /-- A submission goes on by itself, and may ask the client to send its batch. -/
  | submission {lane : Nat} {s s' : Submission} {g' : Gate} : s.Step p g g' s' →
      Step p g (.go lane) (.submission s) g' (.submission s') (Traffic.askOf lane s')
  /-- A closing call goes on by itself, and may ask the client to release what it holds. -/
  | closing {lane : Nat} {c c' : Closing} {g' : Gate} : c.Step g g' c' →
      Step p g (.go lane) (.closing c) g' (.closing c')
        (if c' = .releasing then [.release lane] else [])
  /-- The client answers. -/
  | answered {lane : Nat} {es : List Entry} {a : Answer} :
      Step p g (.answer lane a) (.submission (.outstanding es)) g
        (.submission (.leaving (some (p.onAnswer es a)))) []
  /-- The client is done with releasing. -/
  | released {lane : Nat} :
      Step p g (.clientReleased lane) (.closing .releasing) g (.closing .noting) []
  /-- A submission is given up. -/
  | submissionDropped {lane : Nat} {es : List Entry} :
      Step p g (.drop lane) (.submission (.outstanding es)) g (.submission (.leaving none)) []
  /-- A closing call is given up. -/
  | closingDropped {lane : Nat} {c : Closing} : c.dropped = some .abandoned →
      Step p g (.drop lane) (.closing c) g (.closing .abandoned) []

/-- A call that has finished takes no step. -/
theorem Call.Step.isFinished_eq_false {p : Policy} {e : Event} {g g' : Gate} {c c' : Call}
    {asks : List Ask} (h : c.Step p g e g' c' asks) : c.isFinished = false := by
  cases h with
  | submission hs => cases hs <;> rfl
  | closing hs => cases hs <;> rfl
  | answered | released | submissionDropped => rfl
  | @closingDropped _ c hd => cases c <;> first | rfl | cases hd

/-- A step of a call begins none. -/
theorem Call.Step.call?_eq_none {p : Policy} {e : Event} {g g' : Gate} {c c' : Call}
    {asks : List Ask} (h : c.Step p g e g' c' asks) : e.call? = none := by
  cases h <;> rfl

namespace Traffic

variable {p : Policy} {t t' : Traffic} {e : Event}

/-! ## Changes -/

/-- What an event does to the traffic. -/
inductive Change (p : Policy) (t : Traffic) (e : Event) : Traffic → Prop
  /-- A call begins in a lane of its own. -/
  | new {c : Call} : e.call? = some c → e.lane = t.lanes.length →
      Change p t e { t with lanes := t.lanes ++ [c] }
  /-- A call begins in place of one that has finished. -/
  | again {old c : Call} : e.call? = some c → t.lanes[e.lane]? = some old →
      old.isFinished = true → Change p t e { t with lanes := t.lanes.set e.lane c }
  /-- The call in the lane goes on. -/
  | goOn {c c' : Call} {g : Gate} {asks : List Ask} : t.lanes[e.lane]? = some c →
      c.Step p t.gate e g c' asks →
      Change p t e { gate := g, lanes := t.lanes.set e.lane c', asked := asks ++ t.asked }

/-- A call begins in a new lane, or in one whose call has finished. -/
theorem change_of_enter {c : Call} (hc : e.call? = some c) (h : t.enter e.lane c = some t') :
    Change p t e t' := by
  unfold enter at h
  split at h
  · rename_i old ho
    split at h <;> rename_i hf
    · obtain rfl := Option.some.inj h
      exact .again hc ho hf
    · cases h
  · split at h <;> rename_i hl
    · obtain rfl := Option.some.inj h
      exact .new hc hl
    · cases h

/-- A call goes on by itself. -/
theorem change_of_go {lane : Nat} (h : t.go p lane = some t') : Change p t (.go lane) t' := by
  simp only [go, Option.bind_eq_bind, Option.bind_eq_some_iff] at h
  obtain ⟨c, hl, h⟩ := h
  cases c with
  | submission s =>
    simp only [Option.pure_def, Option.bind_eq_some_iff, Option.some.injEq, Prod.exists] at h
    obtain ⟨g, s', ha, rfl⟩ := h
    exact .goOn hl (.submission (Submission.step_of_advance ha))
  | closing c =>
    simp only [Option.pure_def, Option.bind_eq_some_iff, Option.some.injEq, Prod.exists] at h
    obtain ⟨g, c', ha, rfl⟩ := h
    have hcall : Call.Step p t.gate (.go lane) (.closing c) g (.closing c') _ :=
      .closing (Closing.step_of_advance ha)
    have hstep := Change.goOn hl hcall
    -- the release is asked for by one of the steps only
    split at hstep <;> rename_i hr
    · rw [if_pos hr]
      exact hstep
    · rw [if_neg hr]
      exact hstep

/-- A submission gets the answer of the client. -/
theorem change_of_answer {lane : Nat} {a : Answer} (h : t.answer p lane a = some t') :
    Change p t (.answer lane a) t' := by
  simp only [answer, Option.bind_eq_bind, Option.bind_eq_some_iff] at h
  obtain ⟨c, hl, h⟩ := h
  cases c with
  | submission s =>
    cases s <;> simp [Submission.answered] at h
    obtain rfl := h
    exact .goOn hl .answered
  | closing c => simp at h

/-- The client is done with its release. -/
theorem change_of_clientReleased {lane : Nat} (h : t.clientReleased lane = some t') :
    Change p t (.clientReleased lane) t' := by
  simp only [clientReleased, Option.bind_eq_bind, Option.bind_eq_some_iff] at h
  obtain ⟨c, hl, h⟩ := h
  cases c with
  | submission s => simp at h
  | closing c =>
    cases c <;> simp [Closing.clientReleased] at h
    obtain rfl := h
    exact .goOn hl .released

/-- A call is given up. -/
theorem change_of_drop {lane : Nat} (h : t.drop lane = some t') : Change p t (.drop lane) t' := by
  simp only [drop, Option.bind_eq_bind, Option.bind_eq_some_iff] at h
  obtain ⟨c, hl, h⟩ := h
  cases c with
  | submission s =>
    cases s <;> simp [Submission.dropped] at h
    obtain rfl := h
    exact .goOn hl .submissionDropped
  | closing c =>
    cases c <;> simp [Closing.dropped] at h <;> obtain rfl := h <;>
      exact .goOn hl (.closingDropped rfl)

/-- Every step is such a change. -/
theorem change_of_step (h : t.step p e = some t') : Change p t e t' := by
  cases e with
  | submit lane es => exact change_of_enter rfl h
  | close lane => exact change_of_enter rfl h
  | go lane => exact change_of_go h
  | answer lane a => exact change_of_answer h
  | clientReleased lane => exact change_of_clientReleased h
  | drop lane => exact change_of_drop h

/-- What a call can do, the traffic does. -/
theorem step_of_call {lane : Nat} {g' : Gate} {c c' : Call} {asks : List Ask}
    (he : e.lane = lane) (hl : t.lanes[lane]? = some c) (h : c.Step p t.gate e g' c' asks) :
    t.step p e = some {
      gate := g', lanes := t.lanes.set lane c', asked := asks ++ t.asked } := by
  subst he
  cases h with
  | submission hs =>
    rw [Event.lane] at hl ⊢
    simp [step, go, hl, hs.advance_eq]
  | closing hs =>
    rw [Event.lane] at hl ⊢
    simp only [step, go, hl, hs.advance_eq, Option.bind_eq_bind, Option.bind_some, Option.pure_def]
    split <;> rfl
  | answered =>
    rw [Event.lane] at hl ⊢
    simp [step, answer, hl, Submission.answered, put]
  | released =>
    rw [Event.lane] at hl ⊢
    simp [step, clientReleased, hl, Closing.clientReleased, put]
  | submissionDropped =>
    rw [Event.lane] at hl ⊢
    simp [step, drop, hl, Submission.dropped, put]
  | closingDropped hd =>
    rw [Event.lane] at hl ⊢
    simp [step, drop, hl, hd, put]

/-- What a call can do next, the traffic can. -/
theorem exists_step_of_call {g : Gate} {c c' : Call} {asks : List Ask}
    (hl : t.lanes[e.lane]? = some c) (h : c.Step p t.gate e g c' asks) :
    ∃ t', t.step p e = some t' ∧ t'.gate = g ∧ t'.lanes[e.lane]? = some c' :=
  ⟨_, step_of_call rfl hl h, rfl, List.getElem?_set_self (List.getElem?_eq_some_iff.1 hl).1⟩

/-- Only the call in the event's lane changes. -/
theorem Change.lane_eq (h : Change p t e t') {lane : Nat} {c : Call}
    (hc : t.lanes[lane]? = some c) (hl : e.lane ≠ lane) : t'.lanes[lane]? = some c := by
  cases h with
  | new _ _ => rw [List.getElem?_append_left (List.getElem?_eq_some_iff.1 hc).1, hc]
  | again _ _ _ => rw [List.getElem?_set_ne hl, hc]
  | goOn _ _ => rw [List.getElem?_set_ne hl, hc]

/-! ## Runs -/

/-- Events follow one another. -/
theorem run_append (es es' : List Event) :
    run p (es ++ es') t = (run p es t).bind (run p es') := by
  induction es generalizing t with
  | nil => rfl
  | cons e es ih =>
    rw [List.cons_append, run, run, Option.bind_assoc]
    exact congrArg _ (funext fun _ => ih)

/-- One more event is the last step. -/
theorem run_concat {es : List Event} :
    run p (es ++ [e]) t = some t' ↔ ∃ t₁, run p es t = some t₁ ∧ t₁.step p e = some t' := by
  rw [run_append, Option.bind_eq_some_iff]
  simp [run]

/-- What holds at the start and is kept by every step holds after every run. -/
theorem run_induction {P : List Event → Traffic → Prop} (init : P [] t)
    (step : ∀ es t₁ e t₂, P es t₁ → t₁.step p e = some t₂ → P (es ++ [e]) t₂)
    {es : List Event} (h : run p es t = some t') : P es t' := by
  induction es using List.reverseRecOn generalizing t' with
  | nil => exact Option.some.inj h ▸ init
  | append_singleton es e ih =>
    obtain ⟨t₁, h₁, h₂⟩ := run_concat.1 h
    exact step es t₁ e _ (ih h₁) h₂

/-! ## Counting calls -/

/-- With a call in one lane, the number of calls of some kind changes by that
    call alone. -/
theorem countP_set {calls : List Call} {lane : Nat} {old : Call} (f : Call → Bool)
    (h : calls[lane]? = some old) (c : Call) :
    (calls.set lane c).countP f + (f old).toNat = calls.countP f + (f c).toNat := by
  obtain ⟨hl, rfl⟩ := List.getElem?_eq_some_iff.1 h
  have hpos : f calls[lane] = true → 0 < calls.countP f := fun hf =>
    List.countP_pos_iff.2 ⟨_, List.getElem_mem hl, hf⟩
  rw [List.countP_set hl]
  generalize calls.countP f = n at hpos ⊢
  cases hf : f calls[lane] <;> cases f c <;> simp [hf] at hpos ⊢
  all_goals omega

end Traffic

end Outbox.Dispatch
