import Outbox.Proofs.Dispatch.Steps

/-!
# The order of calls

An invariant of all traffic on a writer, however its calls are interleaved
(`Traffic.Orderly`): its count is that of the submissions under way, at most one
closing call releases the client, and only when no submission is let in.

A submission is counted *before* it looks whether the gate is shut, and the
first closing call shuts the gate *before* it looks at the count: when it finds
that nothing is under way, no submission is let in, and none will be.

* `Traffic.Orderly.step`: every step keeps the invariant, one fact at a time.
* `Traffic.orderly_of_run`: so it holds after every run.
-/

namespace Outbox.Dispatch

/-! ## Kinds of calls -/

/-- A submission that is counted as under way. -/
def Call.isCounted : Call → Bool
  | .submission (.counted _) | .submission (.admitted _) | .submission (.outstanding _)
  | .submission (.leaving _) => true
  | _ => false

/-- A submission that was let in and has not been answered. -/
def Call.isLetIn : Call → Bool
  | .submission (.admitted _) | .submission (.outstanding _) => true
  | _ => false

/-- The closing call that has shut the gate and is yet to release the client. -/
def Call.isFirst : Call → Bool
  | .closing .draining | .closing (.counting _) | .closing (.awaitingDrain _)
  | .closing .drained => true
  | _ => false

/-- The closing call that has found no submission under way. -/
def Call.isDrained : Call → Bool
  | .closing .drained => true
  | _ => false

/-- What is true neither of a call that has just begun nor of one that has
    finished. -/
structure Midway (f : Call → Bool) : Prop where
  of_call? : ∀ {e : Event} {c : Call}, e.call? = some c → f c = false
  of_isFinished : ∀ {c : Call}, c.isFinished = true → f c = false

/-- A call begins with its arrival. -/
theorem Event.call?_cases {e : Event} {c : Call} (h : e.call? = some c) :
    (∃ es, c = .submission (.arriving es)) ∨ c = .closing .arriving := by
  cases e <;> cases h
  · exact .inl ⟨_, rfl⟩
  · exact .inr rfl

/-- A call has finished when it has returned or was given up. -/
theorem Call.isFinished_cases {c : Call} (h : c.isFinished = true) :
    (∃ r, c = .submission (.finished r)) ∨ c = .closing .finished ∨ c = .closing .abandoned := by
  rcases c with s | c
  · cases s <;> simp [isFinished, Submission.isFinished] at h
    exact .inl ⟨_, rfl⟩
  · cases c <;> simp [isFinished, Closing.isFinished] at h
    · exact .inr (.inl rfl)
    · exact .inr (.inr rfl)

/-- A kind of call is midway if no call is of it that arrives or has finished. -/
theorem Midway.of_forall {f : Call → Bool} (h₁ : ∀ es, f (.submission (.arriving es)) = false)
    (h₂ : f (.closing .arriving) = false) (h₃ : ∀ r, f (.submission (.finished r)) = false)
    (h₄ : f (.closing .finished) = false) (h₅ : f (.closing .abandoned) = false) : Midway f where
  of_call? h := by
    obtain ⟨es, rfl⟩ | rfl := Event.call?_cases h
    exacts [h₁ es, h₂]
  of_isFinished h := by
    obtain ⟨r, rfl⟩ | rfl | rfl := Call.isFinished_cases h
    exacts [h₃ r, h₄, h₅]

/-- Only submissions on their way are counted. -/
theorem midway_isCounted : Midway Call.isCounted :=
  .of_forall (fun _ => rfl) rfl (fun _ => rfl) rfl rfl

/-- Only submissions on their way are let in. -/
theorem midway_isLetIn : Midway Call.isLetIn :=
  .of_forall (fun _ => rfl) rfl (fun _ => rfl) rfl rfl

/-- Only closing calls on their way have the release ahead. -/
theorem midway_isFirst : Midway Call.isFirst :=
  .of_forall (fun _ => rfl) rfl (fun _ => rfl) rfl rfl

/-- Only closing calls on their way have found the gate empty. -/
theorem midway_isDrained : Midway Call.isDrained :=
  .of_forall (fun _ => rfl) rfl (fun _ => rfl) rfl rfl

/-- A call that begins counts for nothing yet. -/
theorem Midway.countP_append {f : Call → Bool} (hf : Midway f) {e : Event} {c : Call}
    (hc : e.call? = some c) (calls : List Call) : (calls ++ [c]).countP f = calls.countP f := by
  simp [hf.of_call? hc]

/-- Beginning in place of a finished call changes no such count. -/
theorem Midway.countP_set {f : Call → Bool} (hf : Midway f) {e : Event} {old c : Call}
    {calls : List Call} {lane : Nat} (hc : e.call? = some c) (hl : calls[lane]? = some old)
    (ho : old.isFinished = true) : (calls.set lane c).countP f = calls.countP f := by
  have := Traffic.countP_set f hl c
  rw [hf.of_call? hc, hf.of_isFinished ho] at this
  exact this

/-- Submissions that are let in are counted. -/
theorem Call.isCounted_of_isLetIn {c : Call} (h : c.isLetIn = true) : c.isCounted = true := by
  unfold isLetIn at h
  split at h <;> first | rfl | cases h

/-- Whoever has found the gate empty is to release the client. -/
theorem Call.isFirst_of_isDrained {c : Call} (h : c.isDrained = true) : c.isFirst = true := by
  unfold isDrained at h
  split at h <;> first | rfl | cases h

/-! ## The gate -/

/-- A submission does not touch the flags. -/
theorem Submission.Step.flags_eq {p : Policy} {g g' : Gate} {s s' : Submission}
    (h : s.Step p g g' s') : g'.closed = g.closed ∧ g'.released = g.released := by
  cases h <;> exact ⟨rfl, rfl⟩

/-- A closing call does not touch the count. -/
theorem Closing.Step.inFlight_eq {g g' : Gate} {c c' : Closing} (h : c.Step g g' c') :
    g'.inFlight = g.inFlight := by
  cases h <;> rfl

/-! ## Steps of a call -/

/-- The client is asked to release what it holds. -/
def Ask.isRelease : Ask → Bool
  | .release _ => true
  | .send _ _ => false

section Step

variable {p : Policy} {e : Event} {g g' : Gate} {c c' : Call} {asks : List Ask}

/-- The gate is never opened again. -/
theorem Call.Step.closed (h : c.Step p g e g' c' asks) (hc : g.closed = true) :
    g'.closed = true := by
  cases h with
  | submission hs => exact hs.flags_eq.1.trans hc
  | closing hs => cases hs <;> first | exact hc | rfl
  | answered | released | submissionDropped | closingDropped => exact hc

/-- The count follows the call. -/
theorem Call.Step.inFlight (h : c.Step p g e g' c' asks)
    (hc : c.isCounted = true → 0 < g.inFlight) :
    g'.inFlight + c.isCounted.toNat = g.inFlight + c'.isCounted.toNat := by
  cases h with
  | submission hs => cases hs <;> simp [isCounted] at hc ⊢ <;> omega
  | closing hs => rw [hs.inFlight_eq]; rfl
  | answered | released | submissionDropped | closingDropped => rfl

/-- A call gets to be the first by shutting the gate, and ceases to be so when
    the client is asked to release what it holds. -/
theorem Call.Step.once (h : c.Step p g e g' c' asks) :
    asks.countP Ask.isRelease + c'.isFirst.toNat + g.closed.toNat ≤
      c.isFirst.toNat + g'.closed.toNat := by
  cases h with
  | submission hs =>
    rw [hs.flags_eq.1]
    cases hs <;> simp [isFirst, Traffic.askOf, Ask.isRelease]
  | closing hs => cases hs <;> simp_all [isFirst, Ask.isRelease]
  | answered | released | submissionDropped => simp [isFirst]
  | closingDropped _ => simp [isFirst]

/-- A submission is let in only while the gate is not shut. -/
theorem Call.Step.isLetIn (h : c.Step p g e g' c' asks) (hc : c'.isLetIn = true) :
    c.isLetIn = true ∨ g.closed = false := by
  cases h with
  | submission hs =>
    cases hs with
    | letIn hg => exact .inr hg
    | send _ => exact .inl rfl
    | count | refuse | decline | leave | leaveLast | announce => cases hc
  | closing | answered | released | submissionDropped | closingDropped => cases hc

/-- A closing call gets past the drain only if nothing is under way. -/
theorem Call.Step.isDrained (h : c.Step p g e g' c' asks) (hc : c'.isDrained = true) :
    g.inFlight = 0 ∧ c'.isLetIn = false := by
  cases h with
  | closing hs => cases hs <;> first | exact ⟨‹_›, rfl⟩ | cases hc
  | submission | answered | released | submissionDropped | closingDropped => cases hc

/-- The client is asked to send by a submission that was let in, and to release
    by a closing call that is past the drain. -/
theorem Call.Step.asks_cases (h : c.Step p g e g' c' asks) :
    asks = [] ∨ (∃ es, asks = [.send e.lane es] ∧ c.isLetIn = true) ∨
      (asks = [.release e.lane] ∧ c.isDrained = true) := by
  cases h with
  | submission hs =>
    cases hs with
    | send _ => exact .inr (.inl ⟨_, rfl, rfl⟩)
    | count | refuse | letIn | decline | leave | leaveLast | announce => exact .inl rfl
  | closing hs =>
    cases hs with
    | release => exact .inr (.inr ⟨rfl, rfl⟩)
    | shut | follow | takeTicket | findNone | findSome | goOn | note | announce
    | takeReleaseTicket | findReleased | findUnreleased | checkAgain => exact .inl rfl
  | answered | released | submissionDropped | closingDropped => exact .inl rfl

end Step

namespace Traffic

variable {p : Policy} {t t' : Traffic} {e : Event}

/-- Releases are counted among what was asked. -/
theorem releaseCount_eq (t : Traffic) : t.releaseCount = t.asked.countP Ask.isRelease :=
  congrArg (List.countP · t.asked) (funext fun a => by cases a <;> rfl)

/-! ## The invariant -/

/-- What is true of all traffic. -/
structure Orderly (t : Traffic) : Prop where
  /-- The count is that of the submissions under way. -/
  inFlight : t.gate.inFlight = t.lanes.countP Call.isCounted
  /-- At most one closing call is the first, and only once the gate is shut. -/
  once : t.releaseCount + t.lanes.countP Call.isFirst ≤ t.gate.closed.toNat
  /-- Once nothing was found under way, no submission is let in. -/
  quiet : 0 < t.releaseCount + t.lanes.countP Call.isDrained → t.lanes.countP Call.isLetIn = 0
  /-- To be released is the last thing the client is asked. -/
  last : 0 < t.releaseCount → ∃ lane earlier, t.asked = .release lane :: earlier

/-- Where there are no calls all is in order. -/
theorem orderly_empty : Orderly {} where
  inFlight := rfl
  once := Nat.le_refl 0
  quiet _ := rfl
  last h := absurd h (Nat.lt_irrefl 0)

/-- A call of some kind in a lane is counted. -/
theorem countP_pos {f : Call → Bool} {lane : Nat} {c : Call} (hl : t.lanes[lane]? = some c)
    (hf : f c = true) : 0 < t.lanes.countP f :=
  List.countP_pos_iff.2 ⟨c, List.mem_of_getElem? hl, hf⟩

/-- With the client asked to release or about to be, the gate is shut. -/
theorem Orderly.closed (ho : Orderly t)
    (h : 0 < t.releaseCount + t.lanes.countP Call.isDrained) : t.gate.closed = true := by
  have hle : t.lanes.countP Call.isDrained ≤ t.lanes.countP Call.isFirst :=
    List.countP_mono_left fun _ _ => Call.isFirst_of_isDrained
  have once := ho.once
  cases hc : t.gate.closed
  · rw [hc, Bool.toNat_false] at once
    omega
  · rfl

/-! ### Preservation, one fact at a time -/

/-- The count of the gate stays that of the submissions. -/
theorem Orderly.inFlight_of_change (ho : Orderly t) (h : Change p t e t') :
    t'.gate.inFlight = t'.lanes.countP Call.isCounted := by
  cases h with
  | new hc _ => exact ho.inFlight.trans (midway_isCounted.countP_append hc _).symm
  | again hc hl hf => exact ho.inFlight.trans (midway_isCounted.countP_set hc hl hf).symm
  | @goOn c c' g asks hl hs =>
    have hcount := countP_set Call.isCounted hl c'
    have hstep := hs.inFlight fun hc => ho.inFlight ▸ countP_pos hl hc
    rw [← ho.inFlight] at hcount
    change g.inFlight = (t.lanes.set e.lane c').countP Call.isCounted
    omega

/-- At most one release was asked or is ahead, and only if the gate is shut. -/
theorem Orderly.once_of_change (ho : Orderly t) (h : Change p t e t') :
    t'.releaseCount + t'.lanes.countP Call.isFirst ≤ t'.gate.closed.toNat := by
  have once := ho.once
  rw [releaseCount_eq] at once ⊢
  cases h with
  | new hc _ => exact (midway_isFirst.countP_append hc t.lanes).symm ▸ once
  | again hc hl hf => exact (midway_isFirst.countP_set hc hl hf).symm ▸ once
  | @goOn c c' g asks hl hs =>
    have hcount := countP_set Call.isFirst hl c'
    have hstep := hs.once
    simp only [List.countP_append]
    omega

/-- When the release was asked for or is about to be, no submission is let in. -/
theorem Orderly.quiet_of_change (ho : Orderly t) (h : Change p t e t')
    (hpos : 0 < t'.releaseCount + t'.lanes.countP Call.isDrained) :
    t'.lanes.countP Call.isLetIn = 0 := by
  cases h with
  | new hc _ =>
    rw [midway_isLetIn.countP_append hc]
    exact ho.quiet (midway_isDrained.countP_append hc t.lanes ▸ hpos)
  | again hc hl hf =>
    rw [midway_isLetIn.countP_set hc hl hf]
    exact ho.quiet (midway_isDrained.countP_set hc hl hf ▸ hpos)
  | @goOn c c' g asks hl hs =>
    have hcount := countP_set Call.isLetIn hl c'
    have hdrained := countP_set Call.isDrained hl c'
    suffices t.lanes.countP Call.isLetIn = 0 ∧ c'.isLetIn = false by
      rw [this.1, this.2, Bool.toNat_false] at hcount
      change (t.lanes.set e.lane c').countP Call.isLetIn = 0
      omega
    by_cases hbefore : 0 < t.releaseCount + t.lanes.countP Call.isDrained
    · -- It was found before that nothing is under way, so the gate is shut.
      have hnone := ho.quiet hbefore
      refine ⟨hnone, Bool.eq_false_iff.2 fun hc => ?_⟩
      rcases hs.isLetIn hc with hc | hc
      · exact absurd (countP_pos hl hc) (by omega)
      · rw [ho.closed hbefore] at hc
        cases hc
    · -- It is found by this very step, at which the count is zero.
      have hnotdrained : c.isDrained = false :=
        Bool.eq_false_iff.2 fun hc => hbefore (Nat.add_pos_right _ (countP_pos hl hc))
      have hnoasks : asks.countP Ask.isRelease = 0 := by
        obtain rfl | ⟨_, rfl, _⟩ | ⟨_, hc⟩ := hs.asks_cases
        · rfl
        · rfl
        · rw [hnotdrained] at hc
          cases hc
      have hc : c'.isDrained = true := by
        rw [releaseCount_eq, List.countP_append, hnoasks, ← releaseCount_eq] at hpos
        rw [hnotdrained] at hdrained
        cases hc : c'.isDrained
        · rw [hc] at hdrained
          simp only [Bool.toNat_false] at hdrained hpos
          omega
        · rfl
      obtain ⟨hzero, hc'⟩ := hs.isDrained hc
      rw [ho.inFlight] at hzero
      have hle : t.lanes.countP Call.isLetIn ≤ t.lanes.countP Call.isCounted :=
        List.countP_mono_left fun _ _ => Call.isCounted_of_isLetIn
      exact ⟨by omega, hc'⟩

/-- Nothing is asked after the release. -/
theorem Orderly.last_of_change (ho : Orderly t) (h : Change p t e t')
    (hpos : 0 < t'.releaseCount) : ∃ lane earlier, t'.asked = .release lane :: earlier := by
  cases h with
  | new _ _ => exact ho.last hpos
  | again _ _ _ => exact ho.last hpos
  | @goOn c c' g asks hl hs =>
    obtain rfl | ⟨es, rfl, hc⟩ | ⟨rfl, _⟩ := hs.asks_cases
    · exact ho.last hpos
    · -- Nobody who is let in asks once the client was asked to release.
      have hnone := ho.quiet (Nat.add_pos_left hpos _)
      exact absurd (countP_pos hl hc) (by omega)
    · exact ⟨_, _, rfl⟩

/-- The order is kept by every step. -/
theorem Orderly.step (ho : Orderly t) (h : t.step p e = some t') : Orderly t' where
  inFlight := ho.inFlight_of_change (change_of_step h)
  once := ho.once_of_change (change_of_step h)
  quiet := ho.quiet_of_change (change_of_step h)
  last := ho.last_of_change (change_of_step h)

/-- All traffic is orderly. -/
theorem orderly_of_run {es : List Event} (h : run p es {} = some t) : Orderly t :=
  run_induction (P := fun _ => Orderly) orderly_empty (fun _ _ _ _ ho => ho.step) h

end Traffic

end Outbox.Dispatch
