import Outbox.Proofs.Dispatch.Orderly

/-!
# The release of the client

However the calls on a writer are interleaved, its client is released safely
(`Traffic.release_safe`):

* it is asked to release what it holds at most once;
* from then on it is sending no batch, and is asked to send none;
* a submission that looks at the gate after it was shut is refused, without
  the client being asked and without anything being handed back;
* a closing call that has returned did so after the client was done.

The first two are read off the invariant of all traffic (`Traffic.Orderly`). A
closing call returns once it has seen a flag, and whoever puts up that flag has
seen the client done (`Traffic.Noted`). A refusal is final
(`Traffic.refused_of_run`), and nothing keeps the submission from returning it
(`Traffic.returns_of_refused`).
-/

namespace Outbox.Dispatch

/-! ## Steps of a call -/

section Step

variable {p : Policy} {e : Event} {g g' : Gate} {c c' : Call} {asks : List Ask}

/-- The flag stays up. -/
theorem Call.Step.gate_released (h : c.Step p g e g' c' asks) (hr : g.released = true) :
    g'.released = true := by
  cases h with
  | submission hs => exact hs.flags_eq.2.trans hr
  | closing hs => cases hs <;> first | exact hr | rfl
  | answered | released | submissionDropped | closingDropped => exact hr

/-- A closing call is about to announce the release, or has returned, once the
    flag is up. -/
theorem Call.Step.seen (h : c.Step p g e g' c' asks)
    (hc : c' = .closing .announcing ∨ c' = .closing .finished) :
    g'.released = true ∨ c = .closing .announcing := by
  rcases hc with rfl | rfl
  · cases h with
    | closing hs => cases hs; exact .inl rfl
  · cases h with
    | closing hs =>
      cases hs with
      | announce => exact .inr rfl
      | findReleased hr => exact .inl hr

/-- The flag is put up by the closing call that has seen the client done. -/
theorem Call.Step.noting (h : c.Step p g e g' c' asks) (hr : g'.released = true) :
    g.released = true ∨ c = .closing .noting := by
  cases h with
  | submission hs => exact .inl (hs.flags_eq.2 ▸ hr)
  | closing hs => cases hs <;> first | exact .inr rfl | exact .inl hr
  | answered | released | submissionDropped | closingDropped => exact .inl hr

/-- A call notes the release only when the client is done. -/
theorem Call.Step.done (h : c.Step p g e g' (.closing .noting) asks) :
    ∃ lane, e = .clientReleased lane := by
  cases h with
  | closing hs => cases hs
  | released => exact ⟨_, rfl⟩

/-- A submission that was refused is on its way out, or has left. -/
def Call.IsRefused (c : Call) : Prop :=
  let reply := some (Reply.failure .closed)
  c = .submission (.leaving reply) ∨ c = .submission (.announcing reply) ∨
    c = .submission (.finished reply)

/-- It stays refused, and asks nothing. -/
theorem Call.Step.refused (h : c.Step p g e g' c' asks) (hc : c.IsRefused) :
    c'.IsRefused ∧ asks = [] := by
  obtain rfl | rfl | rfl := hc <;> cases h <;> rename_i hs <;> cases hs
  · exact ⟨.inr (.inr rfl), rfl⟩
  · exact ⟨.inr (.inl rfl), rfl⟩
  · exact ⟨.inr (.inr rfl), rfl⟩

end Step

/-- The event begins a call in the lane. -/
def Event.Begins (e : Event) (lane : Nat) : Prop := e.call?.isSome = true ∧ e.lane = lane

namespace Traffic

variable {p : Policy} {t t' : Traffic} {e : Event}

/-- The gate stays shut. -/
theorem Change.closed (h : Change p t e t') (hc : t.gate.closed = true) :
    t'.gate.closed = true := by
  cases h with
  | new | again => exact hc
  | goOn _ hs => exact hs.closed hc

/-- The flag stays up. -/
theorem Change.gate_released (h : Change p t e t') (hr : t.gate.released = true) :
    t'.gate.released = true := by
  cases h with
  | new | again => exact hr
  | goOn _ hs => exact hs.gate_released hr

/-- The call in a lane, unless another one begins there: the same as before, or one that
    has taken a step. -/
theorem Change.call_cases (h : Change p t e t') {lane : Nat} {c : Call}
    (hl : t.lanes[lane]? = some c) (he : ¬e.Begins lane) :
    (e.lane ≠ lane ∧ t'.lanes[lane]? = some c) ∨
      (e.lane = lane ∧ ∃ c' asks, t'.lanes[lane]? = some c' ∧
        c.Step p t.gate e t'.gate c' asks ∧ t'.asked = asks ++ t.asked) := by
  by_cases hlane : e.lane = lane
  · cases h with
    | new hd _ | again hd _ _ => exact absurd ⟨by simp [hd], hlane⟩ he
    | @goOn d d' g asks hl' hs =>
      subst hlane
      obtain rfl := Option.some.inj (hl.symm.trans hl')
      exact .inr ⟨rfl, d', asks,
        List.getElem?_set_self (List.getElem?_eq_some_iff.1 hl).1, hs, rfl⟩
  · exact .inl ⟨hlane, h.lane_eq hl hlane⟩

/-- What is true of the submission in a lane, given the events since, and is kept by its
    steps and by what happens in other lanes, stays true unless another call begins there. -/
theorem submission_induction {P : List Event → Submission → Prop} {lane : Nat} {s : Submission}
    (hl : t.lanes[lane]? = some (.submission s)) (init : P [] s)
    (other : ∀ es t₁ e s₁, run p es t = some t₁ → e.lane ≠ lane → P es s₁ → P (es ++ [e]) s₁)
    (own : ∀ es t₁ e s₁ g c asks, run p es t = some t₁ →
      t₁.lanes[lane]? = some (.submission s₁) → e.lane = lane → P es s₁ →
      Call.Step p t₁.gate e (.submission s₁) g c asks →
      ∃ s₂, c = .submission s₂ ∧ P (es ++ [e]) s₂)
    {es : List Event} (hes : ∀ e ∈ es, ¬e.Begins lane) (h : run p es t = some t') :
    ∃ s', t'.lanes[lane]? = some (.submission s') ∧ P es s' := by
  induction es using List.reverseRecOn generalizing t' with
  | nil =>
    obtain rfl := Option.some.inj h
    exact ⟨s, hl, init⟩
  | append_singleton es e ih =>
    obtain ⟨t₁, h₁, hstep⟩ := run_concat.1 h
    obtain ⟨s₁, hl₁, hs₁⟩ := ih (fun e he => hes e (List.mem_append_left _ he)) h₁
    -- another lane has moved, or the submission itself
    obtain ⟨hlane, hl'⟩ | ⟨hlane, c, asks, hl', hs, -⟩ :=
      (change_of_step hstep).call_cases hl₁ (hes e List.mem_concat_self)
    · exact ⟨s₁, hl', other es t₁ e s₁ h₁ hlane hs₁⟩
    · obtain ⟨s₂, rfl, hs₂⟩ := own es t₁ e s₁ _ c asks h₁ hl₁ hlane hs₁ hs
      exact ⟨s₂, hl', hs₂⟩

/-! ## Returning -/

/-- A call is one of before, or has just begun, or has just taken a step. -/
theorem Change.mem_lanes (h : Change p t e t') {d : Call} (hd : d ∈ t'.lanes) :
    d ∈ t.lanes ∨ e.call? = some d ∨
      ∃ c asks, c ∈ t.lanes ∧ c.Step p t.gate e t'.gate d asks := by
  cases h with
  | new hc _ =>
    rcases List.mem_append.1 hd with hd | hd
    · exact .inl hd
    · exact .inr (.inl (List.mem_singleton.1 hd ▸ hc))
  | again hc _ _ =>
    rcases List.mem_or_eq_of_mem_set hd with hd | rfl
    · exact .inl hd
    · exact .inr (.inl hc)
  | goOn hl hs =>
    rcases List.mem_or_eq_of_mem_set hd with hd | rfl
    · exact .inl hd
    · exact .inr (.inr ⟨_, _, List.mem_of_getElem? hl, hs⟩)

/-- What closing calls that return rely on, given the events so far. -/
structure Noted (es : List Event) (t : Traffic) : Prop where
  /-- Whoever is about to return has seen the flag. -/
  seen : ∀ c, .closing c ∈ t.lanes → c = .announcing ∨ c = .finished → t.gate.released = true
  /-- Whoever puts up the flag has seen the client done. -/
  done : t.gate.released = true ∨ .closing .noting ∈ t.lanes →
    ∃ lane, Event.clientReleased lane ∈ es

/-- Where nothing has happened nothing is noted. -/
theorem noted_empty : Noted [] {} where
  seen _ h := absurd h List.not_mem_nil
  done h := by
    rcases h with h | h
    · cases h
    · exact absurd h List.not_mem_nil

/-- A closing call that is about to return has seen the flag. -/
theorem Noted.seen_of_change {es : List Event} (hn : Noted es t) (h : Change p t e t')
    {c : Closing} (hc : .closing c ∈ t'.lanes) (hd : c = .announcing ∨ c = .finished) :
    t'.gate.released = true := by
  obtain hc | hc | ⟨b, asks, hb, hs⟩ := h.mem_lanes hc
  · exact h.gate_released (hn.seen c hc hd)
  · obtain ⟨_, hc⟩ | hc := Event.call?_cases hc <;> cases hc
    simp at hd
  · rcases hs.seen (by simpa using hd) with hr | rfl
    · exact hr
    · exact h.gate_released (hn.seen _ hb (.inl rfl))

/-- Who puts up the flag has seen the client done. -/
theorem Noted.done_of_change {es : List Event} (hn : Noted es t) (h : Change p t e t')
    (hd : t'.gate.released = true ∨ .closing .noting ∈ t'.lanes) :
    ∃ lane, Event.clientReleased lane ∈ es ++ [e] := by
  have hold : t.gate.released = true ∨ .closing .noting ∈ t.lanes →
      ∃ lane, Event.clientReleased lane ∈ es ++ [e] := fun hd =>
    (hn.done hd).imp fun _ => List.mem_append_left _
  -- the flag is up, or a closing call is about to put it up
  rcases hd with hr | hc
  · cases h with
    | new | again => exact hold (.inl hr)
    | goOn hl hs =>
      rcases hs.noting hr with hr | rfl
      · exact hold (.inl hr)
      · exact hold (.inr (List.mem_of_getElem? hl))
  · obtain hc | hc | ⟨_, _, _, hs⟩ := h.mem_lanes hc
    · exact hold (.inr hc)
    · obtain ⟨_, hc⟩ | hc := Event.call?_cases hc <;> cases hc
    · obtain ⟨lane, rfl⟩ := hs.done
      exact ⟨lane, by simp⟩

/-- This is so after every run. -/
theorem noted_of_run {es : List Event} (h : run p es {} = some t) : Noted es t :=
  run_induction noted_empty (fun _ _ _ _ hn hs => {
    seen := fun _ hc hd => hn.seen_of_change (change_of_step hs) hc hd
    done := hn.done_of_change (change_of_step hs) }) h

/-! ## Refusals -/

/-- How often a lane has asked the client to send. -/
def sendCount (t : Traffic) (lane : Nat) : Nat :=
  t.asked.countP fun
    | .send l _ => l = lane
    | .release _ => false

/-- Without a new call in its lane, a submission that was refused stays so. -/
theorem Change.refused (h : Change p t e t') {lane : Nat} {c : Call}
    (hl : t.lanes[lane]? = some c) (hc : c.IsRefused) (he : ¬e.Begins lane) :
    (∃ c', t'.lanes[lane]? = some c' ∧ c'.IsRefused) ∧ t'.sendCount lane = t.sendCount lane := by
  obtain ⟨hlane, hl'⟩ | ⟨rfl, c', asks, hl', hs, hasked⟩ := h.call_cases hl he
  · refine ⟨⟨c, hl', hc⟩, ?_⟩
    cases h with
    | new | again => rfl
    | goOn _ hs =>
      obtain rfl | ⟨_, rfl, _⟩ | ⟨rfl, _⟩ := hs.asks_cases <;> simp [sendCount, hlane]
  · obtain ⟨hc', rfl⟩ := hs.refused hc
    exact ⟨⟨c', hl', hc'⟩, by rw [sendCount, hasked]; rfl⟩

/-- A submission that is refused stays so, and the client is asked nothing for it. -/
theorem refused_of_run {lane : Nat} {c : Call} (hl : t.lanes[lane]? = some c) (hc : c.IsRefused)
    {es : List Event} (hes : ∀ e ∈ es, ¬e.Begins lane) (h : run p es t = some t') :
    (∃ c', t'.lanes[lane]? = some c' ∧ c'.IsRefused) ∧ t'.sendCount lane = t.sendCount lane := by
  induction es generalizing t c with
  | nil =>
    obtain rfl := Option.some.inj h
    exact ⟨⟨c, hl, hc⟩, rfl⟩
  | cons e es ih =>
    obtain ⟨t₁, h₁, h⟩ := Option.bind_eq_some_iff.1 h
    obtain ⟨⟨c₁, hl₁, hc₁⟩, hsend⟩ :=
      (change_of_step h₁).refused hl hc (hes e List.mem_cons_self)
    rw [← hsend]
    exact ih hl₁ hc₁ (fun e he => hes e (List.mem_cons_of_mem _ he)) h

/-- In the course of some events, a closing call has shut the gate. -/
def Shut (p : Policy) (es : List Event) : Prop :=
  ∃ es₁ lane es₂ t₁, es = es₁ ++ .go lane :: es₂ ∧ run p es₁ {} = some t₁ ∧
    t₁.lanes[lane]? = some (.closing .arriving)

/-- The gate stays shut. -/
theorem closed_of_run {es : List Event} (hc : t.gate.closed = true)
    (h : run p es t = some t') : t'.gate.closed = true :=
  run_induction (P := fun _ t => t.gate.closed = true) hc
    (fun _ _ _ _ hc hs => (change_of_step hs).closed hc) h

/-- A gate that was shut is shut. -/
theorem closed_of_shut {es : List Event} (h : run p es {} = some t) (hs : Shut p es) :
    t.gate.closed = true := by
  obtain ⟨es₁, lane, es₂, t₁, rfl, h₁, hl⟩ := hs
  rw [run_append, h₁, Option.bind_some] at h
  obtain ⟨t₂, h₂, h⟩ := Option.bind_eq_some_iff.1 h
  refine closed_of_run ?_ h
  simp [step, go, hl, Closing.advance] at h₂
  exact h₂ ▸ rfl

/-- A submission that looks at the gate after it was shut is refused. -/
theorem refused_of_closed {lane : Nat} {entries : List Entry}
    (hl : t.lanes[lane]? = some (.submission (.counted entries))) (hc : t.gate.closed = true)
    (h : t.step p (.go lane) = some t') :
    t'.lanes[lane]? = some (.submission (.leaving (some (.failure .closed)))) ∧
      t'.sendCount lane = t.sendCount lane := by
  simp [step, go, hl, Submission.advance, hc] at h
  subst h
  exact ⟨List.getElem?_set_self (List.getElem?_eq_some_iff.1 hl).1, rfl⟩

/-- A submission goes on as its next step says. -/
theorem step_go_submission {lane : Nat} {s s' : Submission} {g : Gate}
    (hl : t.lanes[lane]? = some (.submission s)) (ha : s.advance p t.gate = some (g, s')) :
    ∃ t', t.step p (.go lane) = some t' ∧ t'.lanes[lane]? = some (.submission s') := by
  obtain ⟨t', h, -, hl'⟩ :=
    exists_step_of_call (e := .go lane) hl (.submission (Submission.step_of_advance ha))
  exact ⟨t', h, hl'⟩

/-- A submission that announces returns after one step. -/
theorem returns_of_announcing {lane : Nat} {r : Option Reply}
    (hl : t.lanes[lane]? = some (.submission (.announcing r))) :
    ∃ t', run p [.go lane] t = some t' ∧ t'.lanes[lane]? = some (.submission (.finished r)) := by
  obtain ⟨t', h', hl'⟩ := step_go_submission (p := p) hl rfl
  exact ⟨t', by simp [run, h'], hl'⟩

/-- Whatever has happened, a submission on its way out returns after at most two
    steps of its own. -/
theorem returns_of_leaving {lane : Nat} {r : Option Reply}
    (hl : t.lanes[lane]? = some (.submission (.leaving r))) :
    ∃ n ≤ 2, ∃ t', run p (List.replicate n (.go lane)) t = some t' ∧
      t'.lanes[lane]? = some (.submission (.finished r)) := by
  -- the last one to leave has something to announce first
  by_cases hg : t.gate.inFlight = 1
  · have ha : Submission.advance p t.gate (.leaving r) =
        some ({ t.gate with inFlight := t.gate.inFlight - 1 }, .announcing r) := by
      rw [Submission.advance, if_pos hg]
    obtain ⟨t₁, h₁, hl₁⟩ := step_go_submission hl ha
    obtain ⟨t', h', hl'⟩ := returns_of_announcing (p := p) hl₁
    refine ⟨2, Nat.le_refl 2, t', ?_, hl'⟩
    rw [List.replicate_succ, run, h₁]
    exact h'
  · have ha : Submission.advance p t.gate (.leaving r) =
        some ({ t.gate with inFlight := t.gate.inFlight - 1 }, .finished r) := by
      rw [Submission.advance, if_neg hg]
    obtain ⟨t', h', hl'⟩ := step_go_submission hl ha
    refine ⟨1, Nat.le_succ 1, t', ?_, hl'⟩
    rw [List.replicate_one, run, h']
    rfl

/-- A submission that is refused returns after two steps at most. -/
theorem returns_of_refused {lane : Nat} {c : Call} (hl : t.lanes[lane]? = some c)
    (hc : c.IsRefused) : ∃ n ≤ 2, ∃ t', run p (List.replicate n (.go lane)) t = some t' ∧
      t'.lanes[lane]? = some (.submission (.finished (some (.failure .closed)))) := by
  obtain rfl | rfl | rfl := hc
  · exact returns_of_leaving hl
  · obtain ⟨t', h', hl'⟩ := returns_of_announcing hl
    exact ⟨1, Nat.le_succ 1, t', h', hl'⟩
  · exact ⟨0, Nat.zero_le 2, t, rfl, hl⟩

/-! ## Safety -/

/-- The client is released safely, given the events so far. -/
structure SafelyReleased (p : Policy) (es : List Event) (t : Traffic) : Prop where
  /-- It is asked to release what it holds at most once. -/
  once : t.releaseCount ≤ 1
  /-- From then on it is sending no batch. -/
  none_outstanding : 0 < t.releaseCount → ∀ (lane : Nat) (entries : List Entry),
    t.lanes[lane]? ≠ some (.submission (.outstanding entries))
  /-- From then on it is asked nothing at all. -/
  none_later : ∀ later lane earlier, t.asked = later ++ .release lane :: earlier → later = []
  /-- A submission that looks at the gate after it was shut is refused, whatever
      happens from then on, and the client is not asked. It can return at any
      time. -/
  refused : Shut p es → ∀ (lane : Nat) (entries : List Entry) (t₁ t₂ : Traffic)
    (es' : List Event), t.lanes[lane]? = some (.submission (.counted entries)) →
    t.step p (.go lane) = some t₁ → run p es' t₁ = some t₂ → (∀ e ∈ es', ¬e.Begins lane) →
    (∃ c, t₂.lanes[lane]? = some c ∧ c.IsRefused) ∧ t₂.sendCount lane = t.sendCount lane ∧
    ∃ n ≤ 2, ∃ t₃, run p (List.replicate n (.go lane)) t₂ = some t₃ ∧
      t₃.lanes[lane]? = some (.submission (.finished (some (.failure .closed))))
  /-- A closing call that has returned did so after the client was done. -/
  returned : ∀ lane : Nat, t.lanes[lane]? = some (.closing .finished) →
    ∃ other, Event.clientReleased other ∈ es

/-- However the calls on a writer are interleaved, its client is released safely. -/
theorem release_safe {es : List Event} (h : run p es {} = some t) : SafelyReleased p es t := by
  have ho := orderly_of_run h
  have hn := noted_of_run h
  have once : t.releaseCount ≤ 1 := by
    have := ho.once
    have := Bool.toNat_le t.gate.closed
    omega
  refine ⟨once, fun hpos lane entries hl => ?_, fun later lane earlier hasked => ?_,
    fun hs lane entries t₁ t₂ es' hl h₁ h₂ hes => ?_, fun lane hl => ?_⟩
  · have hnone := ho.quiet (Nat.add_pos_left hpos _)
    exact absurd (countP_pos (f := Call.isLetIn) hl rfl) (by omega)
  · -- The latest thing asked is to release, and it is asked only once.
    rw [releaseCount_eq, hasked, List.countP_append, List.countP_cons_of_pos rfl] at once
    obtain ⟨lane', earlier', hlast⟩ := ho.last (by
      rw [releaseCount_eq, hasked, List.countP_append, List.countP_cons_of_pos rfl]
      omega)
    cases later with
    | nil => rfl
    | cons a later =>
      obtain ⟨rfl, -⟩ := List.cons.inj (hasked.symm.trans hlast)
      rw [List.countP_cons_of_pos rfl] at once
      omega
  · obtain ⟨hl₁, hsend⟩ := refused_of_closed hl (closed_of_shut h hs) h₁
    obtain ⟨⟨c, hl₂, hc⟩, hsend'⟩ := refused_of_run hl₁ (.inl rfl) hes h₂
    exact ⟨⟨c, hl₂, hc⟩, hsend'.trans hsend, returns_of_refused hl₂ hc⟩
  · exact hn.done (.inl (hn.seen _ (List.mem_of_getElem? hl) (.inr rfl)))

/-- A submission is under way when the gate is shut, another one is refused, and
    a second closing call waits for the first. -/
theorem release_safe_four :
    let es : List Event :=
      [.submit 0 [{ id := "a" }], .go 0, .go 0, .go 0, .close 1, .go 1, .submit 2 [], .close 3,
        .go 3, .go 2, .go 1, .go 1, .go 2, .go 2, .answer 0 (.ok {}), .go 0, .go 0, .go 1, .go 1,
        .go 1, .go 1, .go 3, .go 3, .clientReleased 1, .go 1, .go 1, .go 3, .go 3, .go 3]
    ∃ t, run {} es {} = some t ∧ SafelyReleased {} es t :=
  ⟨_, rfl, release_safe rfl⟩

end Traffic

end Outbox.Dispatch
