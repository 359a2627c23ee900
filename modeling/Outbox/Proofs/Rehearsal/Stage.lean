import Mathlib.Data.Option.Basic
import Outbox.Proofs.Dispatch.Steps
import Outbox.Rehearsal.Calls

/-!
# Rehearsals are traffic

A stage decides what happens next on its writer, but lets nothing happen that could not
happen anyway: all it does in a lane is a step of the traffic (`Stage.step_of_go`).

So are all calls of a rehearsal, whatever is instructed: what becomes of their writer is
what becomes of it by some events (`Calls.exists_run_of_play`).
-/

namespace Outbox.Rehearsal

open Dispatch

variable {σ ρ : Type} [Client σ ρ]

namespace Stage

variable {s s' : Stage σ} {lane : Nat}

/-- What a stage lets happen in a lane. -/
inductive Goes (lane : Nat) : Event → Prop
  | go : Goes lane (.go lane)
  | answer (a : Answer) : Goes lane (.answer lane a)
  | clientReleased : Goes lane (.clientReleased lane)

/-- It happens to the call there. -/
theorem Goes.exists_call {e : Event} (he : Goes lane e) {p : Policy} {u u' : Traffic}
    (h : u.step p e = some u') : ∃ c c' g asks, u.lanes[lane]? = some c ∧
      c.Step p u.gate e g c' asks ∧
      u' = { gate := g, lanes := u.lanes.set lane c', asked := asks ++ u.asked } := by
  have hlane : e.lane = lane := by cases he <;> rfl
  cases Traffic.change_of_step h with
  | new hc | again hc => cases he <;> cases hc
  | goOn hl hs => exact ⟨_, _, _, _, hlane ▸ hl, hs, hlane ▸ rfl⟩

/-- To note what the client is asked does not change the traffic. -/
theorem noticing_traffic (s : Stage σ) (lane : Nat) :
    (s.noticing lane).traffic = s.traffic ∧ (s.noticing lane).policy = s.policy := by
  unfold noticing
  split <;> exact ⟨rfl, rfl⟩

/-- What a stage does in a lane is a step of the traffic. -/
theorem step_of_go (h : s.go lane = some s') : ∃ e, Goes lane e ∧
    s.traffic.step s.policy e = some s'.traffic ∧ s'.policy = s.policy := by
  unfold go at h
  -- the call goes on by itself; otherwise the client answers, or is released
  split at h
  · rename_i u hu
    obtain rfl := Option.some.inj h
    obtain ⟨ht, hp⟩ := noticing_traffic { s with traffic := u } lane
    exact ⟨_, .go, ht ▸ hu, hp⟩
  · rcases (Option.orElse_eq_some ..).1 h with h | ⟨-, h⟩
    · obtain ⟨w, -, h⟩ := Option.bind_eq_some_iff.1 h
      obtain ⟨u, hu, h⟩ := Option.bind_eq_some_iff.1 h
      cases h
      exact ⟨_, .answer w.answer, hu, rfl⟩
    · unfold releasing at h
      split at h
      · cases h
      · obtain ⟨u, hu, rfl⟩ := Option.map_eq_some_iff.1 h
        exact ⟨_, .clientReleased, hu, rfl⟩

/-- A call that can begin does. -/
theorem enter_eq {e : Event} {u : Traffic} (h : s.traffic.step s.policy e = some u) :
    s.enter e = { s with traffic := u } := by
  rw [enter, h]

/-- A call begins, unless the lane is taken. -/
theorem enter_cases (s : Stage σ) (e : Event) :
    (∃ u, s.traffic.step s.policy e = some u ∧ s.enter e = { s with traffic := u }) ∨
      s.enter e = s := by
  unfold enter
  split
  · rename_i u hu
    exact .inl ⟨u, hu, rfl⟩
  · exact .inr rfl

/-- By some events the traffic of one stage becomes that of another. -/
structure Leads (s s' : Stage σ) : Prop where
  policy : s'.policy = s.policy
  run : ∃ es, Traffic.run s.policy es s.traffic = some s'.traffic

/-- No events are needed where nothing happens. -/
theorem Leads.refl (s : Stage σ) : s.Leads s := ⟨rfl, [], rfl⟩

/-- Events follow one another. -/
theorem Leads.trans {s₁ s₂ s₃ : Stage σ} (h : s₁.Leads s₂) (h' : s₂.Leads s₃) : s₁.Leads s₃ := by
  obtain ⟨hp, es, hes⟩ := h
  obtain ⟨hp', es', hes'⟩ := h'
  refine ⟨hp'.trans hp, es ++ es', ?_⟩
  rw [Traffic.run_append, hes, Option.bind_some, ← hp, hes']

/-- One event is enough for a step. -/
theorem Leads.of_step {e : Event} (h : s.traffic.step s.policy e = some s'.traffic)
    (hp : s'.policy = s.policy) : s.Leads s' :=
  ⟨hp, [e], by rw [Traffic.run, h]; rfl⟩

/-- The traffic leads to what a stage makes of it. -/
theorem leads_go (h : s.go lane = some s') : s.Leads s' := by
  obtain ⟨e, -, hs, hp⟩ := step_of_go h
  exact .of_step hs hp

/-- The traffic leads to that with a call more. -/
theorem leads_enter (s : Stage σ) (e : Event) : s.Leads (s.enter e) := by
  obtain ⟨u, hu, h⟩ | h := s.enter_cases e <;> rw [h]
  · exact .of_step hu rfl
  · exact .refl s

/-- The traffic leads to that with a call dropped. -/
theorem leads_drop (s : Stage σ) (lane : Nat) : s.Leads (s.drop lane) := by
  unfold drop
  split
  · rename_i u hu
    exact .of_step hu rfl
  · exact .refl s

end Stage

namespace Calls

/-- The calls go on by themselves, and time passes. -/
theorem leads_settle (fuel : Nat) (s : Stage σ) : s.Leads (settle fuel s) := by
  induction fuel generalizing s with
  | zero => exact .refl s
  | succ fuel ih =>
    unfold settle
    split
    · rename_i s' hs
      obtain ⟨lane, -, hgo⟩ := Option.bind_eq_some_iff.1 hs
      exact (Stage.leads_go hgo).trans (ih s')
    · split
      · rename_i t _
        split
        · have hlater := ih { s with now := t }
          exact ⟨hlater.policy, hlater.run⟩
        · exact .refl s
      · exact .refl s

/-- The traffic leads to that after an instruction. -/
theorem leads_follow (c : Calls σ) (i : Instruction) : c.stage.Leads (c.follow i).stage := by
  -- all but permits are events of the traffic
  cases i with
  | submit | close => exact c.stage.leads_enter _
  | permit n =>
    refine ⟨?_, [], ?_⟩ <;> simp only [follow, Stage.permit] <;> split <;> rfl
  | permitRelease | look => exact ⟨rfl, [], rfl⟩
  | cancel n =>
    simp only [follow]
    split
    · exact c.stage.leads_drop _
    · exact .refl _

/-- Whatever is instructed, the calls of a rehearsal are one of the interleavings of the
    traffic. -/
theorem exists_run_of_play (c : Calls σ) (i : Instruction) :
    ∃ es, Traffic.run c.stage.policy es c.stage.traffic = some (c.play i).2.stage.traffic :=
  ((c.leads_follow i).trans (leads_settle _ _)).run

end Calls

end Outbox.Rehearsal
