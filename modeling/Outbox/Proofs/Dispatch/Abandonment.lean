import Outbox.Proofs.Dispatch.Wakeups

/-!
# Closing calls that are given up

A closing call can be given up where it waits: for the drain, for the client, or
for the release. Only the one that has shut the gate will ever release the
client. What this means once all submissions have ended
(`Traffic.stranded_iff_forsaken`):

* if that call is given up before the client is released, then the client never
  will be, whatever happens, and all that the other closing calls can do, those
  yet to begin included, is to wait for it (`Traffic.Stranded`);
* if any other call is given up, nothing is lost. The calls that are left can
  get the client released (`Traffic.CanRelease`).

As the gate is shut, a call becomes liable for the release (`Call.isLiable`), and
it ceases to be so by putting up the flag that the client is released. The two
are counted together (`Traffic.liability`): with the gate shut there is one of
them, and no more after the liable call was given up (`Traffic.liability_of_run`).
-/

namespace Outbox.Dispatch

/-! ## Liability -/

/-- The closing call that has shut the gate and is yet to note that the client
    is released. -/
def Call.isLiable : Call → Bool
  | .closing .draining | .closing (.counting _) | .closing (.awaitingDrain _)
  | .closing .drained | .closing .releasing | .closing .noting => true
  | _ => false

/-- Only closing calls on their way are liable. -/
theorem midway_isLiable : Midway Call.isLiable :=
  .of_forall (fun _ => rfl) rfl (fun _ => rfl) rfl rfl

section Step

variable {p : Policy} {e : Event} {g g' : Gate} {c c' : Call} {asks : List Ask}

/-- A call becomes liable by shutting the gate, and ceases to be so by putting up
    the flag, unless it is given up. -/
theorem Call.Step.liable (h : c.Step p g e g' c' asks)
    (hr : c.isLiable = true → g.released = false) (he : e.isDrop = true → c.isLiable = false) :
    c'.isLiable.toNat + g'.released.toNat + g.closed.toNat =
      c.isLiable.toNat + g.released.toNat + g'.closed.toNat := by
  cases h with
  | submission hs =>
    rw [hs.flags_eq.1, hs.flags_eq.2]
    rfl
  | closing hs => cases hs <;> simp_all [isLiable, Nat.add_comm]
  | answered | released | submissionDropped => rfl
  | closingDropped =>
    rw [he rfl]
    rfl

/-- A call that is given up is not liable any more, and leaves the gate as it is. -/
theorem Call.Step.dropped (h : c.Step p g e g' c' asks) (he : e.isDrop = true) :
    c'.isLiable = false ∧ g' = g := by
  cases h with
  | submissionDropped | closingDropped => exact ⟨rfl, rfl⟩
  | submission | closing | answered | released => cases he

end Step

namespace Traffic

variable {p : Policy} {t t' : Traffic} {e : Event}

/-- The event gives up the call that is to release the client. -/
def isForsakenBy (t : Traffic) (e : Event) : Bool :=
  e.isDrop && t.lanes[e.lane]?.any Call.isLiable

/-- In the course of some events, the call that is to release the client is given
    up. -/
def forsakes (p : Policy) : List Event → Traffic → Bool
  | [], _ => false
  | e :: es, t => t.isForsakenBy e || (t.step p e).any (forsakes p es)

/-- The number of calls that are to release the client, and one more if it is
    released. -/
def liability (t : Traffic) : Nat := t.lanes.countP Call.isLiable + t.gate.released.toNat

/-- The gate is shut, and nobody is there to release the client. -/
structure Deserted (t : Traffic) : Prop where
  closed : t.gate.closed = true
  nobody : t.liability = 0

/-- The liability changes with the gate only, unless it is forsaken. -/
theorem Change.liability_eq (h : Change p t e t') (hle : t.liability ≤ t.gate.closed.toNat)
    (he : t.isForsakenBy e = false) :
    t'.liability + t.gate.closed.toNat = t.liability + t'.gate.closed.toNat := by
  unfold liability at hle ⊢
  cases h with
  | new hc _ => rw [midway_isLiable.countP_append hc]
  | again hc hl hf => rw [midway_isLiable.countP_set hc hl hf]
  | @goOn c c' g asks hl hs =>
    have hcount := countP_set Call.isLiable hl c'
    have hkept : e.isDrop = true → c.isLiable = false := fun hd => by
      simpa [isForsakenBy, hd, hl] using he
    -- The two are counted together, so the flag is not up while a call is liable.
    have hr : c.isLiable = true → t.gate.released = false := fun hc => by
      have hpos := countP_pos hl hc
      have hone := Bool.toNat_le t.gate.closed
      exact Bool.toNat_eq_zero.1 (by omega)
    have hstep := hs.liable hr hkept
    dsimp only
    omega

/-- When the liable call is given up, nobody is left to release the client. -/
theorem Change.deserted_of_isForsakenBy (h : Change p t e t')
    (hle : t.liability ≤ t.gate.closed.toNat) (he : t.isForsakenBy e = true) : Deserted t' := by
  obtain ⟨hdrop, hliable⟩ := Bool.and_eq_true_iff.1 he
  unfold liability at hle
  cases h with
  | new hc _ | again hc _ _ =>
    rw [Event.isDrop_of_call? hc] at hdrop
    cases hdrop
  | @goOn c c' g asks hl hs =>
    have hc : c.isLiable = true := by simpa [hl] using hliable
    obtain ⟨hc', rfl⟩ := hs.dropped hdrop
    have hpos := countP_pos hl hc
    -- there was one liable call at most, and it is the one given up
    have hone := Bool.toNat_le t.gate.closed
    have hcount := countP_set Call.isLiable hl c'
    rw [hc, hc', Bool.toNat_true, Bool.toNat_false] at hcount
    have hclosed : t.gate.closed = true := Bool.toNat_eq_one.1 (by omega)
    have hnobody : (t.lanes.set e.lane c').countP Call.isLiable + t.gate.released.toNat = 0 := by
      omega
    exact ⟨hclosed, hnobody⟩

namespace Deserted

/-- Where all are deserted the client is not released. -/
theorem unreleased (hd : Deserted t) : t.gate.released = false :=
  Bool.toNat_eq_zero.1 (Nat.eq_zero_of_add_eq_zero_left hd.nobody)

/-- Where all are deserted nobody is liable. -/
theorem isLiable_eq_false (hd : Deserted t) {lane : Nat} {c : Call}
    (hl : t.lanes[lane]? = some c) : c.isLiable = false :=
  Bool.eq_false_iff.2 fun hc =>
    Nat.ne_of_gt (countP_pos hl hc) (Nat.eq_zero_of_add_eq_zero_right hd.nobody)

/-- Nobody comes to be there later. -/
theorem step (hd : Deserted t) (h : t.step p e = some t') : Deserted t' := by
  have hchange := change_of_step h
  have hclosed := hchange.closed hd.closed
  -- There is no liable call that could be given up.
  have hkept : t.isForsakenBy e = false := by
    cases hl : t.lanes[e.lane]? with
    | none => simp [isForsakenBy, hl]
    | some c => simp [isForsakenBy, hl, hd.isLiable_eq_false hl]
  have heq := hchange.liability_eq (hd.nobody ▸ Nat.zero_le _) hkept
  rw [hd.closed, hclosed, hd.nobody] at heq
  exact ⟨hclosed, Nat.add_right_cancel heq⟩

/-- Those deserted stay so, whatever happens. -/
theorem run (hd : Deserted t) {es : List Event} (h : Traffic.run p es t = some t') :
    Deserted t' :=
  run_induction (P := fun _ => Deserted) hd (fun _ _ _ _ hd => hd.step) h

end Deserted

/-- With the gate shut, there is always a call that is to release the client, or
    it is released, unless that call was given up. -/
theorem liability_of_run {es : List Event} (hl : t.liability = t.gate.closed.toNat)
    (h : run p es t = some t') : (forsakes p es t = true → Deserted t') ∧
      (forsakes p es t = false → t'.liability = t'.gate.closed.toNat) := by
  induction es generalizing t with
  | nil =>
    obtain rfl := Option.some.inj h
    exact ⟨fun hf => absurd hf Bool.false_ne_true, fun _ => hl⟩
  | cons e es ih =>
    obtain ⟨t₁, h₁, h⟩ := Option.bind_eq_some_iff.1 h
    have hchange := change_of_step h₁
    cases he : t.isForsakenBy e with
    | true =>
      -- From here on the gate is deserted, whatever else is given up.
      have hd := (hchange.deserted_of_isForsakenBy (Nat.le_of_eq hl) he).run h
      exact ⟨fun _ => hd, fun hf => by simp [forsakes, he] at hf⟩
    | false =>
      have heq := hchange.liability_eq (Nat.le_of_eq hl) he
      have hl₁ : t₁.liability = t₁.gate.closed.toNat := by omega
      simpa [forsakes, he, h₁] using ih hl₁ h

/-! ## Waiting in vain -/

/-- No submission is under way. -/
def Quiet (t : Traffic) : Prop := ∀ (lane : Nat) (s : Submission),
  t.lanes[lane]? = some (.submission s) → s.isFinished = true

/-- By some steps of its own, the closing call in a lane gets to wait for the
    release, and goes no further. -/
def WaitsIn (p : Policy) (t : Traffic) (lane steps : Nat) : Prop :=
  ∃ t' ticket, run p (List.replicate steps (.go lane)) t = some t' ∧
    t'.lanes[lane]? = some (.closing (.awaitingRelease ticket)) ∧ t'.step p (.go lane) = none

section Waiting

variable {lane steps : Nat} {c c' : Closing} {g : Gate}

/-- One step more leads to waiting. -/
theorem WaitsIn.of_step (hl : t.lanes[lane]? = some (.closing c)) (hs : c.Step t.gate g c')
    (hw : ∀ t₁ : Traffic, t₁.gate = g → t₁.lanes[lane]? = some (.closing c') →
      WaitsIn p t₁ lane steps) : WaitsIn p t lane (steps + 1) := by
  obtain ⟨t₁, h₁, hg, hl₁⟩ := exists_step_of_call (p := p) (e := .go lane) hl (.closing hs)
  obtain ⟨t', ticket, hrun, hwait⟩ := hw t₁ hg hl₁
  refine ⟨t', ticket, ?_, hwait⟩
  rw [List.replicate_succ, run, h₁]
  exact hrun

/-- A call with the current ticket waits. -/
theorem waitsIn_awaitingRelease
    (hl : t.lanes[lane]? = some (.closing (.awaitingRelease t.gate.releases))) :
    WaitsIn p t lane 0 :=
  ⟨t, _, rfl, hl, by simp [step, go, hl, Closing.advance]⟩

/-- A call that finds no release waits. -/
theorem waitsIn_checking (hr : t.gate.released = false)
    (hl : t.lanes[lane]? = some (.closing (.checking t.gate.releases))) : WaitsIn p t lane 1 :=
  .of_step hl (.findUnreleased hr) fun _ hg hl => waitsIn_awaitingRelease (hg ▸ hl)

/-- A call that is not the first waits after taking a ticket. -/
theorem waitsIn_following (hr : t.gate.released = false)
    (hl : t.lanes[lane]? = some (.closing .following)) : WaitsIn p t lane 2 :=
  .of_step hl .takeReleaseTicket fun _ hg hl => waitsIn_checking (hg ▸ hr) (hg ▸ hl)

/-- A call that finds the gate shut waits after taking a ticket. -/
theorem waitsIn_arriving (hr : t.gate.released = false) (hc : t.gate.closed = true)
    (hl : t.lanes[lane]? = some (.closing .arriving)) : WaitsIn p t lane 3 :=
  .of_step hl (.follow hc) fun _ hg hl => waitsIn_following (hg ▸ hr) hl

/-- With nobody there to release the client, a closing call can only wait. -/
theorem Deserted.waits (hd : Deserted t) (hi : Informed t)
    (hl : t.lanes[lane]? = some (.closing c)) (hc : c.isFinished = false) :
    ∃ steps ≤ 3, WaitsIn p t lane steps := by
  have hr := hd.unreleased
  have hliable := hd.isLiable_eq_false hl
  have hrelies := hi.relies c (List.mem_of_getElem? hl)
  -- The release was never announced, so that no ticket is of an earlier announcement.
  have hnone {ticket : Nat} (hticket : 0 < ticket → t.gate.released = true) : ticket = 0 :=
    Nat.eq_zero_of_not_pos fun hpos => by simp [hticket hpos] at hr
  have hzero := hnone hi.released
  cases c with
  | arriving => exact ⟨3, Nat.le_refl 3, waitsIn_arriving hr hd.closed hl⟩
  | following => exact ⟨2, Nat.le_succ 2, waitsIn_following hr hl⟩
  | checking ticket =>
    obtain rfl : ticket = t.gate.releases := (hnone hrelies.2).trans hzero.symm
    exact ⟨1, by decide, waitsIn_checking hr hl⟩
  | awaitingRelease ticket =>
    obtain rfl : ticket = t.gate.releases := hrelies.2.trans hzero.symm
    exact ⟨0, Nat.zero_le 3, waitsIn_awaitingRelease hl⟩
  | announcing =>
    rw [show t.gate.released = true from hrelies] at hr
    cases hr
  | draining | counting | awaitingDrain | drained | releasing | noting => cases hliable
  | finished | abandoned => cases hc

end Waiting

/-- The release of the client is lost. -/
structure Stranded (p : Policy) (t : Traffic) : Prop where
  closed : t.gate.closed = true
  quiet : t.Quiet
  /-- Whatever happens from then on, the client is not released. -/
  unreleased : ∀ (es : List Event) (t' : Traffic), run p es t = some t' →
    t'.gate.released = false
  /-- All that a closing call can do, be it there already or yet to begin, is to
      wait for that. -/
  waits : ∀ (es : List Event) (t' : Traffic), run p es t = some t' →
    ∀ (lane : Nat) (c : Closing), t'.lanes[lane]? = some (.closing c) → c.isFinished = false →
    ∃ steps ≤ 3, WaitsIn p t' lane steps

/-- Those deserted wait for good once no submission is left. -/
theorem stranded_of_deserted (hd : Deserted t) (hi : Informed t) (hq : t.Quiet) :
    Stranded p t where
  closed := hd.closed
  quiet := hq
  unreleased _ _ h := (hd.run h).unreleased
  waits _ _ h _ _ hl hc := (hd.run h).waits (hi.run h) hl hc

/-! ## Getting the client released -/

/-- The client can be released by the calls that are there, without any of them
    being given up. -/
def CanRelease (p : Policy) (t : Traffic) : Prop :=
  ∃ es t', (∀ e ∈ es, e.call? = none ∧ e.isDrop = false) ∧ run p es t = some t' ∧
    t'.gate.released = true

/-- The client is released already. -/
theorem canRelease_of_released (hr : t.gate.released = true) : CanRelease p t :=
  ⟨[], t, List.forall_mem_nil _, rfl, hr⟩

/-- Those that wait for good cannot get the client released. -/
theorem Stranded.not_canRelease (hs : Stranded p t) : ¬CanRelease p t := by
  rintro ⟨es, t', -, hrun, hr⟩
  rw [hs.unreleased es t' hrun] at hr
  cases hr

section Release

variable {lane : Nat} {c c' : Closing} {g : Gate}

/-- It is enough to be able to after some step of a call. -/
theorem CanRelease.of_call {d d' : Call} {asks : List Ask} (hl : t.lanes[e.lane]? = some d)
    (hs : d.Step p t.gate e g d' asks) (he : e.isDrop = false)
    (hr : ∀ t₁ : Traffic, t₁.gate = g → t₁.lanes[e.lane]? = some d' → CanRelease p t₁) :
    CanRelease p t := by
  obtain ⟨t₁, h₁, hg, hl₁⟩ := exists_step_of_call hl hs
  obtain ⟨es, t', hes, hrun, hreleased⟩ := hr t₁ hg hl₁
  refine ⟨e :: es, t', List.forall_mem_cons.2 ⟨⟨hs.call?_eq_none, he⟩, hes⟩, ?_, hreleased⟩
  rw [run, h₁]
  exact hrun

/-- It is enough to be able to after a step of a closing call. -/
theorem CanRelease.of_step (hl : t.lanes[lane]? = some (.closing c)) (hs : c.Step t.gate g c')
    (hr : ∀ t₁ : Traffic, t₁.gate = g → t₁.lanes[lane]? = some (.closing c') →
      CanRelease p t₁) : CanRelease p t :=
  .of_call (e := .go lane) hl (.closing hs) rfl hr

/-- The flag is put up next. -/
theorem canRelease_of_noting (hl : t.lanes[lane]? = some (.closing .noting)) : CanRelease p t :=
  .of_step hl .note fun _ hg _ => canRelease_of_released (hg ▸ rfl)

/-- The client is done next. -/
theorem canRelease_of_releasing (hl : t.lanes[lane]? = some (.closing .releasing)) :
    CanRelease p t :=
  .of_call (e := .clientReleased lane) hl .released rfl fun _ _ hl => canRelease_of_noting hl

/-- The client is asked next. -/
theorem canRelease_of_drained (hl : t.lanes[lane]? = some (.closing .drained)) :
    CanRelease p t :=
  .of_step hl .release fun _ _ hl => canRelease_of_releasing hl

/-- Nothing is found under way. -/
theorem canRelease_of_counting {ticket : Nat} (hin : t.gate.inFlight = 0)
    (hl : t.lanes[lane]? = some (.closing (.counting ticket))) : CanRelease p t :=
  .of_step hl (.findNone hin) fun _ _ hl => canRelease_of_drained hl

/-- A ticket is taken next. -/
theorem canRelease_of_draining (hin : t.gate.inFlight = 0)
    (hl : t.lanes[lane]? = some (.closing .draining)) : CanRelease p t :=
  .of_step hl .takeTicket fun _ hg hl => canRelease_of_counting (hg ▸ hin) hl

/-- Once nothing is under way, the call that is to release the client can do so. -/
theorem canRelease_of_isLiable (ho : Orderly t) (hi : Informed t) (hq : t.Quiet) {d : Call}
    (hl : t.lanes[lane]? = some d) (hd : d.isLiable = true) : CanRelease p t := by
  have hnone : ¬t.DrainAhead := not_drainAhead ho fun s hs => by
    obtain ⟨lane, hl⟩ := List.getElem?_of_mem hs
    exact hq lane s hl
  have hin : t.gate.inFlight = 0 :=
    Nat.eq_zero_of_not_pos fun hpos => hnone (Nat.add_pos_left hpos _)
  rcases d with _ | c
  · cases hd
  · cases c with
    | draining => exact canRelease_of_draining hin hl
    | counting => exact canRelease_of_counting hin hl
    | awaitingDrain ticket =>
      -- No announcement is ahead, so the ticket is of an earlier one.
      rcases hi.relies _ (List.mem_of_getElem? hl) with hlt | ⟨-, hahead⟩
      · exact .of_step hl (.goOn (Nat.ne_of_gt hlt)) fun _ hg hl =>
          canRelease_of_draining (hg ▸ hin) hl
      · exact absurd hahead hnone
    | drained => exact canRelease_of_drained hl
    | releasing => exact canRelease_of_releasing hl
    | noting => exact canRelease_of_noting hl
    | arriving | announcing | following | checking | awaitingRelease | finished | abandoned =>
      cases hd

/-- With the gate shut and nothing under way, the client can be released as long as
    the liable call was not given up. -/
theorem canRelease_of_liability (ho : Orderly t) (hi : Informed t) (hq : t.Quiet)
    (hl : 0 < t.liability) : CanRelease p t := by
  cases hr : t.gate.released with
  | true => exact canRelease_of_released hr
  | false =>
    rw [liability, hr, Bool.toNat_false, Nat.add_zero] at hl
    obtain ⟨d, hmem, hd⟩ := List.countP_pos_iff.1 hl
    obtain ⟨lane, hl⟩ := List.getElem?_of_mem hmem
    exact canRelease_of_isLiable ho hi hq hl hd

end Release

/-! ## The two cases -/

/-- However the calls on a writer are interleaved, and whichever are given up: once
    all submissions have ended, the release of the client is lost exactly if the
    call that was to release it was given up. Else it can still be released. -/
theorem stranded_iff_forsaken {es : List Event} (h : run p es {} = some t) :
    (Stranded p t ↔ t.Quiet ∧ forsakes p es {} = true) ∧
      (t.gate.closed = true → t.Quiet → (CanRelease p t ↔ forsakes p es {} = false)) := by
  have hi := informed_empty.run h
  obtain ⟨hdeserted, hliable⟩ := liability_of_run (t := {}) rfl h
  have lost (hq : t.Quiet) (hf : forsakes p es {} = true) : Stranded p t :=
    stranded_of_deserted (hdeserted hf) hi hq
  have kept (hc : t.gate.closed = true) (hq : t.Quiet) (hf : forsakes p es {} = false) :
      CanRelease p t := by
    refine canRelease_of_liability (orderly_of_run h) hi hq ?_
    rw [hliable hf, hc]
    exact Nat.one_pos
  refine ⟨⟨fun hs => ⟨hs.quiet, ?_⟩, fun ⟨hq, hf⟩ => lost hq hf⟩,
    fun hc hq => ⟨fun hr => ?_, kept hc hq⟩⟩
  · exact Bool.of_not_eq_false fun hf => hs.not_canRelease (kept hs.closed hs.quiet hf)
  · exact Bool.eq_false_iff.2 fun hf => (lost hq hf).not_canRelease hr

/-- The first closing call is given up while the client is busy, and the second one
    waits in vain. With the second one given up, the first one can still release the
    client. -/
theorem stranded_iff_forsaken_two :
    let calls : List Event :=
      [.close 0, .go 0, .close 1, .go 1, .go 1, .go 1, .go 0, .go 0, .go 0]
    (∃ t, run {} (calls ++ [.drop 0]) {} = some t ∧
      t.lanes[1]? = some (.closing (.awaitingRelease 0)) ∧ Stranded {} t) ∧
    ∃ t, run {} (calls ++ [.drop 1]) {} = some t ∧ t.lanes[0]? = some (.closing .releasing) ∧
      t.gate.closed = true ∧ t.Quiet ∧ CanRelease {} t ∧ ¬Stranded {} t := by
  intro calls
  let t₀ : Traffic := {
    gate := { closed := true }
    lanes := [.closing .abandoned, .closing (.awaitingRelease 0)]
    asked := [.release 0] }
  let t₁ : Traffic := { t₀ with lanes := [.closing .releasing, .closing .abandoned] }
  have h₀ : run {} (calls ++ [.drop 0]) {} = some t₀ := rfl
  have h₁ : run {} (calls ++ [.drop 1]) {} = some t₁ := rfl
  have hq₀ : t₀.Quiet := by rintro (_ | _ | lane) s hs <;> cases hs
  have hq₁ : t₁.Quiet := by rintro (_ | _ | lane) s hs <;> cases hs
  obtain ⟨hlost, hkept⟩ := stranded_iff_forsaken h₁
  refine ⟨⟨t₀, h₀, rfl, (stranded_iff_forsaken h₀).1.2 ⟨hq₀, rfl⟩⟩,
    ⟨t₁, h₁, rfl, rfl, hq₁, (hkept rfl hq₁).2 rfl, fun hs => ?_⟩⟩
  cases (hlost.1 hs).2

/-- The first closing call is given up while it waits for a submission. After the
    submission has ended, another closing call waits in vain. -/
theorem stranded_of_drop :
    let es : List Event :=
      [.submit 0 [{ id := "a" }], .go 0, .go 0, .go 0, .close 1, .go 1, .go 1, .go 1, .drop 1,
        .answer 0 (.ok {}), .go 0, .go 0, .close 2, .go 2, .go 2, .go 2]
    ∃ t, run {} es {} = some t ∧ t.lanes[1]? = some (.closing .abandoned) ∧
      t.lanes[2]? = some (.closing (.awaitingRelease 0)) ∧ t.releaseCount = 0 ∧
      Stranded {} t := by
  intro es
  let t : Traffic := {
    gate := { closed := true, drains := 1 }
    lanes := [.submission (.finished (some ⟨.ok { delivered := 1 }, some []⟩)),
      .closing .abandoned, .closing (.awaitingRelease 0)]
    asked := [.send 0 [{ id := "a" }]] }
  have h : run {} es {} = some t := rfl
  have hd : Deserted t := (liability_of_run (t := {}) rfl h).1 rfl
  have hq : t.Quiet := by
    rintro (_ | _ | _ | lane) s hs <;> cases hs
    rfl
  exact ⟨t, h, rfl, rfl, rfl, stranded_of_deserted hd (informed_empty.run h) hq⟩

end Traffic

end Outbox.Dispatch
