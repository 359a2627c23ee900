import Outbox.Proofs.Dispatch.Release

/-!
# No announcement is missed

A closing call waits for the last submission to leave, or for the first closing
call to release the client. It never waits for nothing: as long as no call is
given up, there is always a closing call that can take a step, once all
submissions have ended and the client is done with what it was asked
(`Traffic.exists_closing_step`).

Whoever waits holds a ticket, which was taken *before* it was found that there
is something to wait for. What this means at each point of a closing call is
`Closing.Relies`. It is kept by the steps of all other calls
(`Closing.Relies.of_change`) and found anew by the call's own steps
(`Closing.Relies.of_step`):

* a call that waits for the drain holds a ticket of an earlier announcement, or
  the next one is still ahead (`Traffic.DrainAhead`). However often refused
  submissions make the count go up and down, it does not get to zero without an
  announcement that follows;
* a call that waits for the release holds the very first ticket, and the one
  announcement there is to come is owed by the call that has shut the gate.
-/

namespace Outbox.Dispatch

/-! ## Kinds of calls -/

/-- A submission that was the last one to leave and is yet to announce it. -/
def Call.isLastOut : Call → Bool
  | .submission (.announcing _) => true
  | _ => false

/-- The closing call that has shut the gate and is yet to announce the release. -/
def Call.isOwner : Call → Bool
  | .closing .draining | .closing (.counting _) | .closing (.awaitingDrain _)
  | .closing .drained | .closing .releasing | .closing .noting | .closing .announcing => true
  | _ => false

/-- Only submissions on their way are the last ones out. -/
theorem midway_isLastOut : Midway Call.isLastOut :=
  .of_forall (fun _ => rfl) rfl (fun _ => rfl) rfl rfl

/-- Only closing calls on their way owe an announcement. -/
theorem midway_isOwner : Midway Call.isOwner :=
  .of_forall (fun _ => rfl) rfl (fun _ => rfl) rfl rfl

/-- The event gives up a call. -/
def Event.isDrop : Event → Bool
  | .drop _ => true
  | .submit _ _ | .close _ | .go _ | .answer _ _ | .clientReleased _ => false

/-- An event that begins a call gives up none. -/
theorem Event.isDrop_of_call? {e : Event} {c : Call} (h : e.call? = some c) :
    e.isDrop = false := by
  cases e <;> first | rfl | cases h

/-! ## Steps of a call -/

section Step

variable {p : Policy} {e : Event} {g g' : Gate} {c c' : Call} {asks : List Ask}

/-- A step announces the drain, or leaves the announcement ahead. -/
theorem Call.Step.drain_cases (h : c.Step p g e g' c' asks) : g.drains < g'.drains ∨
    (g.drains = g'.drains ∧ c.isLastOut.toNat ≤ c'.isLastOut.toNat ∧
      (0 < g.inFlight → 0 < g'.inFlight + c'.isLastOut.toNat)) := by
  cases h with
  | submission hs =>
    cases hs with
    | announce => exact .inl (Nat.lt_succ_self _)
    | leave hg => exact .inr ⟨rfl, Nat.le_refl _, fun _ => by simp only; omega⟩
    | leaveLast => exact .inr ⟨rfl, Nat.zero_le _, fun _ => Nat.succ_pos _⟩
    | count => exact .inr ⟨rfl, Nat.le_refl _, fun _ => Nat.succ_pos _⟩
    | refuse | letIn | decline | send => exact .inr ⟨rfl, Nat.le_refl _, id⟩
  | closing hs => cases hs <;> exact .inr ⟨rfl, Nat.le_refl _, id⟩
  | answered | released | submissionDropped | closingDropped =>
    exact .inr ⟨rfl, Nat.le_refl _, id⟩

/-- The call that shuts the gate owes an announcement of the release, which it
    makes unless it is given up. -/
theorem Call.Step.owed (h : c.Step p g e g' c' asks) (he : e.isDrop = false) :
    c'.isOwner.toNat + g'.releases + g.closed.toNat =
      c.isOwner.toNat + g.releases + g'.closed.toNat := by
  cases h with
  | submission hs => cases hs <;> rfl
  | closing hs => cases hs <;> simp_all [isOwner] <;> omega
  | answered | released => rfl
  | submissionDropped | closingDropped => cases he

/-- The release is announced by a call that has put up the flag. -/
theorem Call.Step.releases_eq (h : c.Step p g e g' c' asks) :
    g'.releases = g.releases ∨ c = .closing .announcing := by
  cases h with
  | submission hs => cases hs <;> exact .inl rfl
  | closing hs => cases hs <;> first | exact .inl rfl | exact .inr rfl
  | answered | released | submissionDropped | closingDropped => exact .inl rfl

end Step

namespace Traffic

variable {p : Policy} {t t' : Traffic} {e : Event}

/-! ## Steps of the traffic -/

/-- A call in a lane is counted if it is of the kind. -/
theorem toNat_le_countP (f : Call → Bool) {lane : Nat} {c : Call} (hl : t.lanes[lane]? = some c) :
    (f c).toNat ≤ t.lanes.countP f := by
  cases hf : f c with
  | false => exact Nat.zero_le _
  | true => exact countP_pos hl hf

/-- An announcement that the last submission has left is still to come. -/
def DrainAhead (t : Traffic) : Prop := 0 < t.gate.inFlight + t.lanes.countP Call.isLastOut

/-- As long as it is to come, it is either still to come or made. -/
theorem Change.drain_cases (h : Change p t e t') : t.gate.drains < t'.gate.drains ∨
    (t.gate.drains = t'.gate.drains ∧ (t.DrainAhead → t'.DrainAhead)) := by
  cases h with
  | new hc _ =>
    refine .inr ⟨rfl, fun ha => ?_⟩
    rw [DrainAhead, midway_isLastOut.countP_append hc]
    exact ha
  | again hc hl hf =>
    refine .inr ⟨rfl, fun ha => ?_⟩
    rw [DrainAhead, midway_isLastOut.countP_set hc hl hf]
    exact ha
  | @goOn c c' g asks hl hs =>
    -- an announcement is made, or one that was ahead still is
    obtain hlt | ⟨heq, hle, hin⟩ := hs.drain_cases
    · exact .inl hlt
    · refine .inr ⟨heq, fun ha => ?_⟩
      have hcount := countP_set Call.isLastOut hl c'
      have hcall := toNat_le_countP Call.isLastOut hl
      change 0 < g.inFlight + (t.lanes.set e.lane c').countP Call.isLastOut
      unfold DrainAhead at ha
      omega

end Traffic

/-! ## What a closing call relies on -/

/-- What is true of the gate as long as a closing call is where it is. -/
def Closing.Relies (t : Traffic) : Closing → Prop
  | counting ticket => ticket ≤ t.gate.drains
  | awaitingDrain ticket =>
    ticket < t.gate.drains ∨ (ticket = t.gate.drains ∧ t.DrainAhead)
  | announcing => t.gate.released = true
  | following => t.gate.closed = true
  | checking ticket => t.gate.closed = true ∧ (0 < ticket → t.gate.released = true)
  | awaitingRelease ticket => t.gate.closed = true ∧ ticket = 0
  | arriving | draining | drained | releasing | noting | finished | abandoned => True

section Relies

open Traffic

variable {p : Policy} {t t' : Traffic} {e : Event} {c c' : Closing}

/-- It stays true, whatever the other calls do. -/
theorem Closing.Relies.of_change (hc : c.Relies t) (h : Change p t e t') : c.Relies t' := by
  cases c with
  | counting ticket =>
    obtain hlt | ⟨heq, -⟩ := h.drain_cases
    · exact Nat.le_trans hc (Nat.le_of_lt hlt)
    · exact Nat.le_trans hc (Nat.le_of_eq heq)
  | awaitingDrain ticket =>
    -- Once the announcement ahead is made, the ticket is of an earlier one.
    rcases hc with hc | ⟨rfl, ha⟩ <;> obtain hlt | ⟨heq, hahead⟩ := h.drain_cases
    · exact .inl (Nat.lt_trans hc hlt)
    · exact .inl (heq ▸ hc)
    · exact .inl hlt
    · exact .inr ⟨heq, hahead ha⟩
  | announcing => exact h.gate_released hc
  | following => exact h.closed hc
  | checking ticket => exact ⟨h.closed hc.1, fun hpos => h.gate_released (hc.2 hpos)⟩
  | awaitingRelease ticket => exact ⟨h.closed hc.1, hc.2⟩
  | arriving | draining | drained | releasing | noting | finished | abandoned => trivial

/-- It is found true by the step that gets the call there. -/
theorem Closing.Relies.of_step (hc : c.Relies t) (hr : 0 < t.gate.releases → t.gate.released = true)
    (h : c.Step t.gate t'.gate c') : c'.Relies t' := by
  generalize hg : t'.gate = g at h
  cases h with
  | shut | findNone | goOn | release | announce | findReleased => trivial
  | follow => exact congrArg Gate.closed hg
  | note => exact congrArg Gate.released hg
  | takeTicket => exact Nat.le_of_eq (congrArg Gate.drains hg).symm
  | findSome hin =>
    -- What is counted is still to leave.
    have hahead : t'.DrainAhead := Nat.add_pos_left (hg ▸ Nat.pos_of_ne_zero hin) _
    rcases Nat.lt_or_eq_of_le hc with hlt | heq
    · exact .inl (hg ▸ hlt)
    · exact .inr ⟨hg ▸ heq, hahead⟩
  | takeReleaseTicket =>
    have hclosed : t.gate.closed = true := hc
    exact ⟨hg ▸ hclosed, hg ▸ hr⟩
  | findUnreleased hn =>
    refine ⟨hg ▸ hc.1, Nat.eq_zero_of_not_pos fun hpos => ?_⟩
    rw [hc.2 hpos] at hn
    cases hn
  | checkAgain =>
    have hclosed : t.gate.closed = true := hc.1
    exact (congrArg Gate.closed hg).trans hclosed

end Relies

namespace Traffic

variable {p : Policy} {t t' : Traffic} {e : Event}

/-! ## The invariant -/

/-- What is true of all traffic, whether calls are given up or not. -/
structure Informed (t : Traffic) : Prop where
  /-- Each closing call finds what it relies on. -/
  relies : ∀ c, .closing c ∈ t.lanes → c.Relies t
  /-- The release is announced after the flag was put up. -/
  released : 0 < t.gate.releases → t.gate.released = true

/-- Where there are no calls, none relies on anything. -/
theorem informed_empty : Informed {} where
  relies _ h := absurd h List.not_mem_nil
  released h := absurd h (Nat.lt_irrefl 0)

/-- What closing calls rely on is kept by every change. -/
theorem Informed.relies_of_change (hi : Informed t) (h : Change p t e t') {c : Closing}
    (hc : .closing c ∈ t'.lanes) : c.Relies t' := by
  obtain hc | hc | ⟨b, asks, hb, hs⟩ := h.mem_lanes hc
  · exact (hi.relies c hc).of_change h
  · obtain ⟨_, hc⟩ | hc := Event.call?_cases hc <;> cases hc
    trivial
  · generalize hg : t'.gate = g at hs
    cases hs with
    | closing hs => exact (hi.relies _ hb).of_step hi.released (hg ▸ hs)
    | released | closingDropped => trivial

/-- Announcements of the release follow the release. -/
theorem Informed.released_of_change (hi : Informed t) (h : Change p t e t')
    (hpos : 0 < t'.gate.releases) : t'.gate.released = true := by
  refine h.gate_released ?_
  cases h with
  | new | again => exact hi.released hpos
  | goOn hl hs =>
    obtain heq | rfl := hs.releases_eq
    · exact hi.released (heq ▸ hpos)
    · exact hi.relies .announcing (List.mem_of_getElem? hl)

/-- What closing calls rely on is kept by every step. -/
theorem Informed.step (hi : Informed t) (h : t.step p e = some t') : Informed t' where
  relies _ := hi.relies_of_change (change_of_step h)
  released := hi.released_of_change (change_of_step h)

/-- All closing calls can rely on what they have found. -/
theorem Informed.run (hi : Informed t) {es : List Event} (h : Traffic.run p es t = some t') :
    Informed t' :=
  run_induction (P := fun _ => Informed) hi (fun _ _ _ _ hi => hi.step) h

/-- What is true of all traffic in which no call is given up. -/
structure Attentive (t : Traffic) : Prop extends Informed t where
  /-- Once the gate is shut, the release is announced or some call owes it. -/
  owed : t.lanes.countP Call.isOwner + t.gate.releases = t.gate.closed.toNat

/-- Where the gate is open nothing is owed. -/
theorem attentive_empty : Attentive {} where
  toInformed := informed_empty
  owed := rfl

/-- The one announcement is owed until it is made, unless a call is given up. -/
theorem Attentive.owed_of_change (ha : Attentive t) (h : Change p t e t') (he : e.isDrop = false) :
    t'.lanes.countP Call.isOwner + t'.gate.releases = t'.gate.closed.toNat := by
  have howed := ha.owed
  cases h with
  | new hc _ => exact (midway_isOwner.countP_append hc t.lanes).symm ▸ howed
  | again hc hl hf => exact (midway_isOwner.countP_set hc hl hf).symm ▸ howed
  | @goOn c c' g asks hl hs =>
    have hcount := countP_set Call.isOwner hl c'
    have hstep := hs.owed he
    dsimp only
    omega

/-- This is kept by every step by which no call is given up. -/
theorem Attentive.step (ha : Attentive t) (he : e.isDrop = false) (h : t.step p e = some t') :
    Attentive t' where
  toInformed := ha.toInformed.step h
  owed := ha.owed_of_change (change_of_step h) he

/-- As long as no call is given up, all closing calls can rely on what they have
    found. -/
theorem attentive_of_run {es : List Event} (hes : ∀ e ∈ es, e.isDrop = false)
    (h : run p es {} = some t) : Attentive t := by
  refine run_induction (P := fun es t => (∀ e ∈ es, e.isDrop = false) → Attentive t)
    (fun _ => attentive_empty) (fun es t₁ e t₂ ih hs hes => ?_) h hes
  rw [List.forall_mem_append, List.forall_mem_singleton] at hes
  exact (ih hes.1).step hes.2 hs

/-! ## Progress -/

/-- A closing call can take a step, unless it waits for an announcement or for
    the client. -/
theorem advance_cases (g : Gate) {c : Closing} (hc : c.isFinished = false) (hr : c ≠ .releasing) :
    (∃ g' c', c.advance g = some (g', c')) ∨ c = .awaitingDrain g.drains ∨
      c = .awaitingRelease g.releases := by
  cases c with
  | awaitingDrain ticket =>
    by_cases ht : g.drains = ticket
    · exact .inr (.inl (ht ▸ rfl))
    · exact .inl ⟨g, .draining, by rw [Closing.advance, if_neg ht]⟩
  | awaitingRelease ticket =>
    by_cases ht : g.releases = ticket
    · exact .inr (.inr (ht ▸ rfl))
    · exact .inl ⟨g, .following, by rw [Closing.advance, if_neg ht]⟩
  | releasing => exact absurd rfl hr
  | finished | abandoned => cases hc
  | arriving | draining | counting | drained | noting | announcing | following | checking =>
    exact .inl ⟨_, _, rfl⟩

/-- A closing call goes on as its next step says. -/
theorem exists_step_of_advance {lane : Nat} {c c' : Closing} {g : Gate}
    (hl : t.lanes[lane]? = some (.closing c)) (ha : c.advance t.gate = some (g, c')) :
    ∃ t', t.step p (.go lane) = some t' := by
  obtain ⟨t', h, -⟩ :=
    exists_step_of_call (e := .go lane) hl (.closing (Closing.step_of_advance ha))
  exact ⟨t', h⟩

/-- With no submission under way, none is to announce that it was the last. -/
theorem not_drainAhead (ho : Orderly t)
    (hsub : ∀ s, .submission s ∈ t.lanes → s.isFinished = true) : ¬t.DrainAhead := by
  have none (f : Call → Bool) (hf : Midway f) (hcl : ∀ c, f (.closing c) = false) :
      t.lanes.countP f = 0 := by
    refine List.countP_eq_zero.2 fun c hc => ?_
    cases c with
    | submission s => simp [hf.of_isFinished (c := .submission s) (hsub s hc)]
    | closing c => simp [hcl]
  rw [DrainAhead, ho.inFlight, none _ midway_isCounted fun _ => rfl,
    none _ midway_isLastOut fun _ => rfl]
  exact Nat.lt_irrefl 0

/-- However the calls on a writer are interleaved, as long as none is given up:
    once all submissions have ended and the client is not asked to release what
    it holds, some closing call can take a step if there is one that has not
    ended. -/
theorem exists_closing_step {es : List Event} (h : run p es {} = some t)
    (hes : ∀ lane, .drop lane ∉ es)
    (hclosing : ∃ (lane : Nat) (c : Closing),
      t.lanes[lane]? = some (.closing c) ∧ c.isFinished = false)
    (hsub : ∀ (lane : Nat) (s : Submission),
      t.lanes[lane]? = some (.submission s) → s.isFinished = true)
    (hclient : ∀ lane : Nat, t.lanes[lane]? ≠ some (.closing .releasing)) :
    ∃ (lane : Nat) (c : Closing) (t' : Traffic),
      t.lanes[lane]? = some (.closing c) ∧ t.step p (.go lane) = some t' := by
  have ha : Attentive t := by
    refine attentive_of_run (fun e he => ?_) h
    cases e with
    | drop lane => exact absurd he (hes lane)
    | submit | close | go | answer | clientReleased => rfl
  have hdrain : ¬t.DrainAhead := not_drainAhead (orderly_of_run h) fun s hs => by
    obtain ⟨lane, hl⟩ := List.getElem?_of_mem hs
    exact hsub lane s hl
  -- Any closing call can take a step that does not wait for the release.
  have goOn {lane : Nat} {c : Closing} (hl : t.lanes[lane]? = some (.closing c))
      (hc : c.isFinished = false) (hr : c ≠ .awaitingRelease t.gate.releases) :
      ∃ (lane : Nat) (c : Closing) (t' : Traffic),
        t.lanes[lane]? = some (.closing c) ∧ t.step p (.go lane) = some t' := by
    obtain ⟨g, c', hg⟩ | rfl | rfl := advance_cases t.gate hc fun hc => hclient lane (hc ▸ hl)
    · obtain ⟨t', ht'⟩ := exists_step_of_advance (p := p) hl hg
      exact ⟨lane, c, t', hl, ht'⟩
    · rcases ha.relies _ (List.mem_of_getElem? hl) with hlt | ⟨-, hahead⟩
      · exact absurd hlt (Nat.lt_irrefl _)
      · exact absurd hahead hdrain
    · exact absurd rfl hr
  obtain ⟨lane, c, hl, hc⟩ := hclosing
  by_cases hr : c = .awaitingRelease t.gate.releases
  · -- The release is not announced yet, so the call that owes it has not ended.
    subst hr
    obtain ⟨hclosed, hzero⟩ := ha.relies _ (List.mem_of_getElem? hl)
    have howed := ha.owed
    rw [hzero, hclosed, Nat.add_zero, Bool.toNat_true] at howed
    obtain ⟨d, hd, howner⟩ := List.countP_pos_iff.1 (howed ▸ Nat.one_pos)
    obtain ⟨lane', hl'⟩ := List.getElem?_of_mem hd
    cases d with
    | submission => cases howner
    | closing d =>
      refine goOn hl' (Bool.eq_false_iff.2 fun hf => ?_) fun hd => ?_
      · rw [midway_isOwner.of_isFinished (c := .closing d) hf] at howner
        cases howner
      · rw [hd] at howner
        cases howner
  · exact goOn hl hc hr

/-- Two closing calls wait for the drain and for the release. The first one has
    counted a submission that is refused, and has left since. -/
theorem exists_closing_step_two :
    let es : List Event :=
      [.submit 0 [{ id := "a" }], .go 0, .go 0, .go 0, .close 1, .go 1, .go 1, .close 2, .go 2,
        .go 2, .go 2, .submit 3 [{ id := "b" }], .go 3, .answer 0 (.ok {}), .go 0, .go 1, .go 3,
        .go 3, .go 3]
    ∃ t, run {} es {} = some t ∧ (∀ lane, .drop lane ∉ es) ∧
      t.lanes[1]? = some (.closing (.awaitingDrain 0)) ∧
      t.lanes[2]? = some (.closing (.awaitingRelease 0)) ∧
      (∀ (lane : Nat) (s : Submission),
        t.lanes[lane]? = some (.submission s) → s.isFinished = true) ∧
      (∀ lane : Nat, t.lanes[lane]? ≠ some (.closing .releasing)) ∧
      ∃ (lane : Nat) (c : Closing) (t' : Traffic),
        t.lanes[lane]? = some (.closing c) ∧ t.step {} (.go lane) = some t' := by
  intro es
  have hes : ∀ lane, .drop lane ∉ es := by simp [es]
  refine ⟨_, rfl, hes, rfl, rfl, ?hsub, ?hclient,
    exists_closing_step rfl hes ⟨1, _, rfl, rfl⟩ ?hsub ?hclient⟩
  case hsub =>
    rintro (_ | _ | _ | _ | lane) s hs <;> cases hs <;> rfl
  case hclient =>
    rintro (_ | _ | _ | _ | lane) <;> nofun

end Traffic

end Outbox.Dispatch
