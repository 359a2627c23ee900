import Outbox.Proofs.Dispatch.Release
import Outbox.Proofs.Dispatch.Reply

/-!
# Where replies and requests come from

A submission forgets its batch once it is decided, so that its reply by itself does not
say what it is about. By the events so far it does: the batch is the one that was
submitted last in the lane (`Traffic.batches`).

* A submission comes to one of three ends (`Submission.End`): it has found the gate
  shut (`Traffic.FoundShut`), it has the reply to its batch for some answer of the
  client, or it was given up while the client was sending.
* The client is asked to send a batch at most once for each time it is submitted, as a
  whole, and only if all its entries may be sent.

Both are kept by every step (`Traffic.Traced`), whatever the other lanes do.
-/

namespace Outbox

/-- All entries of a batch may be sent. -/
def isSendable (batch : List Entry) : Bool := batch.all (·.isValid)

/-- A batch may be sent when each of its entries may. -/
theorem isSendable_iff {batch : List Entry} :
    isSendable batch = true ↔ ∀ e ∈ batch, e.isValid = true :=
  List.all_eq_true

/-- It takes one entry that cannot be sent to keep back all of a batch. -/
theorem isSendable_eq_false {batch : List Entry} {e : Entry}
    (he : batch.find? (!·.isValid) = some e) : isSendable batch = false := by
  rw [← Bool.not_eq_true, isSendable_iff]
  intro hall
  have hinvalid := List.find?_some he
  rw [hall e (List.mem_of_find?_eq_some he)] at hinvalid
  cases hinvalid

/-- Just the batches that may be sent are not refused. -/
theorem Policy.refusal?_eq_none_iff {p : Policy} {batch : List Entry} :
    p.refusal? batch = none ↔ isSendable batch = true := by
  rw [refusal?, Option.map_eq_none_iff, invalidity?_eq_none_iff, isSendable_iff]

namespace Dispatch

variable {p : Policy} {batch : List Entry} {lane : Nat}

/-- The batch that an event submits in a lane. -/
def Event.batch? (lane : Nat) : Event → Option (List Entry)
  | .submit l batch => if l = lane then some batch else none
  | _ => none

/-- The batch that the client is asked to send by a lane. -/
def Ask.batch? (lane : Nat) : Ask → Option (List Entry)
  | .send l batch => if l = lane then some batch else none
  | .release _ => none

/-! ## Submissions -/

namespace Submission

/-- How the submission of a batch ends, given whether it has found the gate shut. -/
inductive End (p : Policy) (shut : Prop) (batch : List Entry) : Option Reply → Prop
  /-- The batch was not let in. -/
  | refused : shut → End p shut batch (some (.failure .closed))
  /-- There is the reply for some answer. -/
  | replied (a : Answer) : End p shut batch (some (p.reply batch a))
  /-- The submission was given up while the client was sending. -/
  | dropped : isSendable batch = true → End p shut batch none

/-- A submission is that of a batch. -/
inductive Of (p : Policy) (shut : Prop) (batch : List Entry) : Submission → Prop
  | arriving : Of p shut batch (.arriving batch)
  | counted : Of p shut batch (.counted batch)
  | admitted : Of p shut batch (.admitted batch)
  | outstanding : isSendable batch = true → Of p shut batch (.outstanding batch)
  | leaving {r : Option Reply} : End p shut batch r → Of p shut batch (.leaving r)
  | announcing {r : Option Reply} : End p shut batch r → Of p shut batch (.announcing r)
  | finished {r : Option Reply} : End p shut batch r → Of p shut batch (.finished r)

/-- The client has not been asked yet. -/
def isUnsent : Submission → Bool
  | arriving _ | counted _ | admitted _ => true
  | outstanding _ | leaving _ | announcing _ | finished _ => false

variable {shut shut' : Prop} {s s' : Submission} {r : Option Reply} {g g' : Gate}

/-- An end remains one with whatever follows from the gate being found shut. -/
theorem End.mono (h : End p shut batch r) (hm : shut → shut') : End p shut' batch r := by
  cases h with
  | refused hshut => exact .refused (hm hshut)
  | replied a => exact .replied a
  | dropped hs => exact .dropped hs

/-- So does a submission on its way there. -/
theorem Of.mono (h : s.Of p shut batch) (hm : shut → shut') : s.Of p shut' batch := by
  cases h with
  | arriving => exact .arriving
  | counted => exact .counted
  | admitted => exact .admitted
  | outstanding hs => exact .outstanding hs
  | leaving he => exact .leaving (he.mono hm)
  | announcing he => exact .announcing (he.mono hm)
  | finished he => exact .finished (he.mono hm)

/-- A submission stays that of its batch. Only where it looks at the gate can it find the
    gate shut. -/
theorem Of.step (h : s.Of p shut batch) (hs : s.Step p g g' s')
    (hfound : s = .counted batch → g.closed = true → shut) : s'.Of p shut batch := by
  cases hs with
  | count => cases h; exact .counted
  | refuse hg => cases h; exact .leaving (.refused (hfound rfl hg))
  | letIn => cases h; exact .admitted
  | @decline _ r hr =>
    cases h
    exact .leaving (Policy.reply_of_refusal hr (.ok {}) ▸ .replied (.ok {}))
  | send hr => cases h; exact .outstanding (Policy.refusal?_eq_none_iff.1 hr)
  | leave => cases h with | leaving he => exact .finished he
  | leaveLast => cases h with | leaving he => exact .announcing he
  | announce => cases h with | announcing he => exact .finished he

/-- The reply to an answer is an end. -/
theorem Of.answered {es : List Entry} (h : Of p shut batch (.outstanding es)) (a : Answer) :
    Of p shut batch (.leaving (some (p.onAnswer es a))) := by
  cases h with
  | outstanding hs =>
    have hreply := Policy.reply_of_refusal_eq_none (p := p) (Policy.refusal?_eq_none_iff.2 hs) a
    exact .leaving (hreply ▸ .replied a)

end Submission

/-- It takes a step of its own for a submission to look at the gate. -/
theorem Call.Step.eq_go {e : Event} {g g' : Gate} {c : Call} {asks : List Ask}
    (h : Call.Step p g e (.submission (.counted batch)) g' c asks) : e = .go e.lane := by
  cases h
  rfl

/-- The call in a lane stays the submission of its batch. By a step the client is asked
    to send nothing, or that batch, which it was not asked before. -/
theorem Call.Step.of {e : Event} {g g' : Gate} {s : Submission} {c : Call} {asks : List Ask}
    {shut : Prop} (h : Call.Step p g e (.submission s) g' c asks) (hs : s.Of p shut batch)
    (hfound : s = .counted batch → g.closed = true → shut) :
    ∃ s', c = .submission s' ∧ s'.Of p shut batch ∧
      ((asks = [] ∧ (s'.isUnsent = true → s.isUnsent = true)) ∨
        (asks = [.send e.lane batch] ∧ isSendable batch = true ∧ s.isUnsent = true ∧
          s'.isUnsent = false)) := by
  -- a step of its own, the answer of the client, or being given up
  cases h with
  | @submission _ _ s' _ hstep =>
    refine ⟨s', rfl, hs.step hstep hfound, ?_⟩
    cases hstep with
    | send hr => cases hs; exact .inr ⟨rfl, Policy.refusal?_eq_none_iff.1 hr, rfl, rfl⟩
    | count | letIn => exact .inl ⟨rfl, fun _ => rfl⟩
    | refuse | decline | leave | leaveLast | announce => exact .inl ⟨rfl, nofun⟩
  | answered => exact ⟨_, rfl, Submission.Of.answered hs _, .inl ⟨rfl, nofun⟩⟩
  | submissionDropped =>
    cases hs with
    | outstanding hsend => exact ⟨_, rfl, .leaving (.dropped hsend), .inl ⟨rfl, nofun⟩⟩

/-- A closing call stays one. -/
theorem Call.Step.of_closing {e : Event} {g g' : Gate} {c : Closing} {d : Call} {asks : List Ask}
    (h : Call.Step p g e (.closing c) g' d asks) : ∃ c', d = .closing c' := by
  cases h <;> exact ⟨_, rfl⟩

namespace Traffic

variable {t t' : Traffic} {e : Event} {es : List Event}

/-- The batches submitted in a lane, the latest first. -/
def batches (lane : Nat) (es : List Event) : List (List Entry) :=
  es.reverse.filterMap (·.batch? lane)

/-- The batches a lane has asked the client to send, the latest first. -/
def requests (t : Traffic) (lane : Nat) : List (List Entry) := t.asked.filterMap (·.batch? lane)

/-- The requests of a lane are what the client was asked to send for it. -/
theorem mem_requests : batch ∈ t.requests lane ↔ .send lane batch ∈ t.asked := by
  rw [requests, List.mem_filterMap]
  constructor
  · rintro ⟨ask, hask, hb⟩
    cases ask with
    | send l b =>
      obtain ⟨rfl, rfl⟩ : l = lane ∧ b = batch := by simpa [Ask.batch?] using hb
      exact hask
    | release l => cases hb
  · exact fun hask => ⟨_, hask, by simp [Ask.batch?]⟩

/-- The batch submitted last comes first. -/
theorem batches_concat (lane : Nat) (es : List Event) (e : Event) :
    batches lane (es ++ [e]) = (e.batch? lane).toList ++ batches lane es := by
  simp only [batches, List.reverse_append, List.reverse_singleton, List.singleton_append,
    List.filterMap_cons]
  cases e.batch? lane <;> rfl

/-- Nothing is submitted in another lane. -/
theorem batch?_of_lane_ne (h : e.lane ≠ lane) : e.batch? lane = none := by
  cases e <;> simp_all [Event.batch?, Event.lane]

/-- In the course of some events, the submission of a batch in a lane has looked at the
    gate when it was shut, and no other call has begun there since. -/
def FoundShut (p : Policy) (es : List Event) (lane : Nat) (batch : List Entry) : Prop :=
  ∃ es₁ es₂ t₁, es = es₁ ++ .go lane :: es₂ ∧ run p es₁ {} = some t₁ ∧
    t₁.lanes[lane]? = some (.submission (.counted batch)) ∧ t₁.gate.closed = true ∧
    ∀ e ∈ es₂, ¬e.Begins lane

/-- The gate stays found shut while no other call begins in the lane. -/
theorem FoundShut.concat (h : FoundShut p es lane batch) (he : ¬e.Begins lane) :
    FoundShut p (es ++ [e]) lane batch := by
  obtain ⟨es₁, es₂, t₁, rfl, h₁, hl, hclosed, hes⟩ := h
  refine ⟨es₁, es₂ ++ [e], t₁, by simp, h₁, hl, hclosed, fun e' he' => ?_⟩
  rcases List.mem_append.1 he' with he' | he'
  · exact hes e' he'
  · exact List.mem_singleton.1 he' ▸ he

/-- What is true of all traffic, given the events so far. -/
structure Traced (p : Policy) (es : List Event) (t : Traffic) : Prop where
  /-- The events are those by which the traffic has come about. -/
  reached : run p es {} = some t
  /-- A submission is that of the latest batch, which the client has yet to be asked to
      send as long as it is not decided whether it will be. -/
  latest : ∀ lane s, t.lanes[lane]? = some (.submission s) → ∃ batch older,
    batches lane es = batch :: older ∧ s.Of p (FoundShut p es lane batch) batch ∧
      (s.isUnsent = true → (t.requests lane).Sublist (older.filter isSendable))
  /-- Each request is for a batch of its own. -/
  requests : ∀ lane, (t.requests lane).Sublist ((batches lane es).filter isSendable)

/-- Where nothing has happened there is nothing to trace. -/
theorem traced_empty : Traced p [] {} where
  reached := rfl
  latest _ _ h := by simp at h
  requests _ := List.nil_sublist _

/-- What the call in a lane is after an event: the same as before, one that begins, or
    one that has taken a step. -/
theorem Change.lane_cases (h : Change p t e t') {c' : Call} (hc : t'.lanes[lane]? = some c') :
    (t.lanes[lane]? = some c' ∧ e.lane ≠ lane) ∨ (e.call? = some c' ∧ e.lane = lane) ∨
      ∃ c asks, t.lanes[lane]? = some c ∧ e.lane = lane ∧ c.Step p t.gate e t'.gate c' asks ∧
        t'.asked = asks ++ t.asked := by
  by_cases hl : e.lane = lane
  · subst hl
    cases h with
    | new hd hl =>
      rw [hl, List.getElem?_append_right (Nat.le_refl _), Nat.sub_self] at hc
      exact .inr (.inl ⟨hd.trans hc, rfl⟩)
    | again hd ho =>
      rw [List.getElem?_set_self (List.getElem?_eq_some_iff.1 ho).1] at hc
      exact .inr (.inl ⟨hd.trans hc, rfl⟩)
    | @goOn c d g asks ho hs =>
      rw [List.getElem?_set_self (List.getElem?_eq_some_iff.1 ho).1] at hc
      obtain rfl := Option.some.inj hc
      exact .inr (.inr ⟨c, asks, ho, rfl, hs, rfl⟩)
  · refine .inl ⟨?_, hl⟩
    cases h with
    | new hd hlen =>
      -- There are no lanes beyond the new one.
      rw [List.getElem?_append] at hc
      split at hc
      · exact hc
      · obtain ⟨hlt, -⟩ := List.getElem?_eq_some_iff.1 hc
        simp only [List.length_singleton] at hlt
        omega
    | again | goOn => rwa [List.getElem?_set_ne hl] at hc

/-- The requests of the other lanes stay as they are. -/
theorem Change.requests_eq (h : Change p t e t') (hl : e.lane ≠ lane) :
    t'.requests lane = t.requests lane := by
  cases h with
  | new | again => rfl
  | goOn _ hs =>
    obtain rfl | ⟨batch, rfl, -⟩ | ⟨rfl, -⟩ := hs.asks_cases <;> simp [requests, Ask.batch?, hl]

/-- A step of a call does not submit anything. -/
theorem batches_of_step {c c' : Call} {g : Gate} {asks : List Ask}
    (h : c.Step p t.gate e g c' asks) : batches lane (es ++ [e]) = batches lane es := by
  rw [batches_concat]
  cases h <;> rfl

/-- The call in a lane takes a step. -/
theorem Traced.goOn (ht : Traced p es t) (t' : Traffic) {s : Submission} {c : Call}
    {asks : List Ask} (hl : t.lanes[e.lane]? = some (.submission s))
    (hs : Call.Step p t.gate e (.submission s) t'.gate c asks)
    (ha : t'.asked = asks ++ t.asked) : ∃ s' batch older, c = .submission s' ∧
      batches e.lane es = batch :: older ∧
      s'.Of p (FoundShut p (es ++ [e]) e.lane batch) batch ∧
      (s'.isUnsent = true → (t'.requests e.lane).Sublist (older.filter isSendable)) ∧
      (t'.requests e.lane).Sublist ((batch :: older).filter isSendable) := by
  obtain ⟨batch, older, hb, hof, hunsent⟩ := ht.latest e.lane s hl
  have hnew : ¬e.Begins e.lane := fun he => by simp [Event.Begins, hs.call?_eq_none] at he
  have hfound : s = .counted batch → t.gate.closed = true →
      FoundShut p (es ++ [e]) e.lane batch := by
    rintro rfl hclosed
    exact ⟨es, [], t, by rw [← hs.eq_go], ht.reached, hl, hclosed, nofun⟩
  obtain ⟨s', rfl, hof', ⟨rfl, hmono⟩ | ⟨rfl, hsend, hold, hsent⟩⟩ :=
    hs.of (hof.mono (·.concat hnew)) hfound
  · -- the step asks the client for nothing
    have hreq : t'.requests e.lane = t.requests e.lane := by rw [Traffic.requests, ha]; rfl
    exact ⟨s', batch, older, rfl, hb, hof', fun hu => hreq ▸ hunsent (hmono hu),
      hreq ▸ hb ▸ ht.requests e.lane⟩
  · have hreq : t'.requests e.lane = batch :: t.requests e.lane := by
      simp [Traffic.requests, ha, Ask.batch?]
    refine ⟨s', batch, older, rfl, hb, hof', fun hu => ?_, ?_⟩
    · simp [hsent] at hu
    · rw [hreq, List.filter_cons_of_pos hsend]
      exact (hunsent hold).cons_cons batch

/-- A call begins: the client is asked nothing, and a batch may be submitted. -/
theorem Change.begin (h : Change p t e t') {c : Call} (hc : e.call? = some c)
    (es : List Event) : t'.asked = t.asked ∧ (∀ batch, c = .submission (.arriving batch) →
      batches e.lane (es ++ [e]) = batch :: batches e.lane es) := by
  refine ⟨?_, fun batch hb => ?_⟩
  · cases h with
    | new | again => rfl
    | goOn _ hs => cases hs <;> cases hc
  · subst hb
    rw [batches_concat]
    cases e <;> cases hc
    simp [Event.batch?, Event.lane]

/-- The submission in a lane stays traced to the batch submitted last. -/
theorem Traced.latest_of_change (ht : Traced p es t) (h : Change p t e t') {s : Submission}
    (hs : t'.lanes[lane]? = some (.submission s)) : ∃ batch older,
      batches lane (es ++ [e]) = batch :: older ∧
      s.Of p (FoundShut p (es ++ [e]) lane batch) batch ∧
      (s.isUnsent = true → (t'.requests lane).Sublist (older.filter isSendable)) := by
  -- another lane has moved, the submission has just begun, or it has gone on
  obtain ⟨hold, hl⟩ | ⟨hcall, rfl⟩ | ⟨c, asks, hl, rfl, hstep, hasked⟩ := h.lane_cases hs
  · obtain ⟨batch, older, hb, hof, hunsent⟩ := ht.latest lane s hold
    rw [batches_concat, batch?_of_lane_ne hl, h.requests_eq hl]
    exact ⟨batch, older, hb, hof.mono (·.concat fun he => hl he.2), hunsent⟩
  · obtain ⟨batch, hs⟩ | hs := Event.call?_cases hcall <;> cases hs
    obtain ⟨hasked, hbatches⟩ := h.begin hcall es
    refine ⟨batch, _, hbatches batch rfl, .arriving, fun _ => ?_⟩
    rw [Traffic.requests, hasked]
    exact ht.requests e.lane
  · rw [batches_of_step hstep]
    cases c with
    | submission s₀ =>
      obtain ⟨s', batch, older, hs', hb, hof, hunsent, -⟩ := ht.goOn t' hl hstep hasked
      cases hs'
      exact ⟨batch, older, hb, hof, hunsent⟩
    | closing c => obtain ⟨c', hc⟩ := hstep.of_closing; cases hc

/-- What the client is asked stays traced to what was submitted. -/
theorem Traced.requests_of_change (ht : Traced p es t) (h : Change p t e t') (lane : Nat) :
    (t'.requests lane).Sublist ((batches lane (es ++ [e])).filter isSendable) := by
  -- What is submitted is added in front.
  have keep (hr : t'.requests lane = t.requests lane) :
      (t'.requests lane).Sublist ((batches lane (es ++ [e])).filter isSendable) := by
    rw [hr, batches_concat, List.filter_append]
    exact (ht.requests lane).trans (List.sublist_append_right _ _)
  by_cases hl : e.lane = lane
  · subst hl
    cases h with
    | new | again => exact keep rfl
    | @goOn c c' g asks hc hs =>
      cases c with
      | submission s =>
        obtain ⟨_, batch, older, -, hb, -, -, hreq⟩ :=
          ht.goOn ⟨g, t.lanes.set e.lane c', asks ++ t.asked⟩ hc hs rfl
        rw [batches_of_step hs, hb]
        exact hreq
      | closing c =>
        refine keep ?_
        obtain rfl | ⟨_, -, hin⟩ | ⟨rfl, -⟩ := hs.asks_cases
        · rfl
        · cases hin
        · rfl
  · exact keep (h.requests_eq hl)

/-- All traffic can be traced. -/
theorem traced_of_run (h : run p es {} = some t) : Traced p es t :=
  run_induction traced_empty (fun _ _ _ _ ht hs => {
    reached := run_concat.2 ⟨_, ht.reached, hs⟩
    latest := fun _ _ hc => ht.latest_of_change (change_of_step hs) hc
    requests := ht.requests_of_change (change_of_step hs) }) h

end Traffic

end Dispatch

end Outbox
