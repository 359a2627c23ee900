import Outbox.Proofs.Course.Joint
import Outbox.Proofs.Rehearsal.Stage

/-!
# The others on a stage

A buffer of a rehearsal submits its batches in the first lane of the stage, and so does
every other buffer; the calls that close the writer have that lane as well, or lanes of
their own behind it. What is traffic of *others* to a buffer is all but its own
submissions (`Beside`): the lanes behind the first one, and one lane more, which is kept
for the calls in the first lane that are not its own.

Whatever happens on the stage happens to the others, or to the buffer's own call.
-/

namespace Outbox.Rehearsal

open Dispatch

variable {p : Policy} {u u' v : Traffic} {first : Call} {k : Nat} {e : Event}

/-- The traffic `v` is that of the others, if the call in the first lane is a buffer's own.
    The lane `k` is kept for calls in the first lane that are not. -/
structure Beside (u : Traffic) (first : Call) (k : Nat) (v : Traffic) : Prop where
  gate : v.gate = u.gate
  lanes : u.lanes = first :: v.lanes.eraseIdx k
  le : k ≤ v.lanes.length

/-- The call in the lane `k`, if there is one, has finished. -/
def Vacant (v : Traffic) (k : Nat) : Prop := ∀ c ∈ v.lanes[k]?, c.isFinished = true

/-- The call in the first lane is that in the lane `k`, unless both have finished. -/
def Mirrors (v : Traffic) (k : Nat) (first : Call) : Prop :=
  v.lanes[k]? = some first ∨ (first.isFinished = true ∧ Vacant v k)

/-- The lane that is kept is vacant when the call in the first lane has finished. -/
theorem Mirrors.vacant (h : Mirrors v k first) (hf : first.isFinished = true) : Vacant v k := by
  obtain hk | ⟨-, hv⟩ := h
  · intro c hc
    rw [hk] at hc
    cases hc
    exact hf
  · exact hv

/-- Only the lane that is kept matters. -/
theorem Mirrors.congr {v' : Traffic} {k' : Nat} (h : Mirrors v k first)
    (hk : v'.lanes[k']? = v.lanes[k]?) : Mirrors v' k' first := by
  simpa only [Mirrors, Vacant, hk] using h

/-- Only the lane that is kept matters. -/
theorem Vacant.congr {v' : Traffic} {k' : Nat} (h : Vacant v k)
    (hk : v'.lanes[k']? = v.lanes[k]?) : Vacant v' k' := by
  simpa only [Vacant, hk] using h

/-- What is found in a list from which one place was taken is found in another place of the
    list, and may be replaced there. -/
theorem exists_place_of_eraseIdx {α : Type} {l : List α} {i : Nat} {a : α}
    (h : (l.eraseIdx k)[i]? = some a) : ∃ j, j ≠ k ∧ l[j]? = some a ∧
      ∀ b, (l.set j b).eraseIdx k = (l.eraseIdx k).set i b := by
  rw [List.getElem?_eraseIdx] at h
  by_cases hlt : i < k
  · rw [if_pos hlt] at h
    exact ⟨i, hlt.ne, h, fun b => List.eraseIdx_set_gt hlt⟩
  · rw [if_neg hlt] at h
    refine ⟨i + 1, by omega, h, fun b => ?_⟩
    rw [List.eraseIdx_set_lt (by omega), Nat.add_sub_cancel]

/-- What happens in another lane than the first one happens to the others. -/
theorem Beside.other (hb : Beside u first k v) {lane : Nat} (he : Stage.Goes (lane + 1) e)
    (h : u.step p e = some u') : ∃ lane' v', lane' ≠ k ∧ v.step p (e.inLane lane') = some v' ∧
      Beside u' first k v' ∧ v'.lanes[k]? = v.lanes[k]? := by
  obtain ⟨c, c', g, asks, hl, hs, rfl⟩ := he.exists_call h
  rw [hb.lanes, List.getElem?_cons_succ] at hl
  obtain ⟨lane', hne, hl', hset⟩ := exists_place_of_eraseIdx hl
  rw [← hb.gate] at hs
  obtain ⟨asks', hs', -⟩ := hs.inLane lane'
  refine ⟨lane', _, hne, Traffic.step_of_call (e.lane_inLane _) hl' hs', ⟨rfl, ?_, ?_⟩, ?_⟩
  all_goals dsimp only
  · rw [hb.lanes, List.set_cons_succ, hset]
  · rw [List.length_set]
    exact hb.le
  · rw [List.getElem?_set_ne hne]

/-- What happens in the first lane happens in the lane kept for that. -/
theorem Beside.inFirst (hb : Beside u first k v) (hk : v.lanes[k]? = some first)
    (he : Stage.Goes 0 e) (h : u.step p e = some u') : ∃ first' v',
      v.step p (e.inLane k) = some v' ∧ Beside u' first' k v' ∧ v'.lanes[k]? = some first' ∧
      ∃ asks, first.Step p v.gate e u'.gate first' asks := by
  obtain ⟨c, c', g, asks, hl, hs, rfl⟩ := he.exists_call h
  rw [hb.lanes, List.getElem?_cons_zero] at hl
  cases hl
  rw [← hb.gate] at hs
  obtain ⟨asks', hs', -⟩ := hs.inLane k
  refine ⟨c', _, Traffic.step_of_call (e.lane_inLane _) hk hs', ⟨rfl, ?_, ?_⟩, ?_, asks, hs⟩
  all_goals dsimp only
  · rw [hb.lanes, List.set_cons_zero, List.eraseIdx_set_eq]
  · rw [List.length_set]
    exact hb.le
  · rw [List.getElem?_set_self (List.getElem?_eq_some_iff.1 hk).1]

/-- A step of the buffer's own call leaves the others alone, but for the gate. -/
theorem Beside.own (hb : Beside u first k v) (he : Stage.Goes 0 e) (h : u.step p e = some u') :
    ∃ first' asks, first.Step p v.gate e u'.gate first' asks ∧
      Beside u' first' k { v with gate := u'.gate } := by
  obtain ⟨c, c', g, asks, hl, hs, rfl⟩ := he.exists_call h
  rw [hb.lanes, List.getElem?_cons_zero] at hl
  cases hl
  rw [← hb.gate] at hs
  refine ⟨c', asks, hs, rfl, ?_, hb.le⟩
  dsimp only
  rw [hb.lanes, List.set_cons_zero]

/-- The buffer's own call begins. -/
theorem Beside.begin (hb : Beside u first k v) (hf : first.isFinished = true) {c : Call}
    (hc : e.call? = some c) (he : e.lane = 0) :
    ∃ u', u.step p e = some u' ∧ Beside u' c k v := by
  have hl : u.lanes[0]? = some first := by rw [hb.lanes, List.getElem?_cons_zero]
  have henter : u.enter 0 c = some (u.put 0 c) := by
    rw [Traffic.enter, hl]
    simp [hf]
  refine ⟨u.put 0 c, ?_, hb.gate, ?_, hb.le⟩
  · cases e <;> cases hc <;> cases he <;> exact henter
  · rw [Traffic.put, hb.lanes, List.set_cons_zero]

/-- A call begins in the first lane that is not the buffer's. -/
theorem Beside.beginFirst (hb : Beside u first k v) (hf : first.isFinished = true)
    (hv : Vacant v k) {c : Call} (hc : e.call? = some c) (he : e.lane = 0) :
    ∃ u' v', u.step p e = some u' ∧ v.step p (e.inLane k) = some v' ∧ Beside u' c k v' ∧
      v'.lanes[k]? = some c := by
  obtain ⟨u', hu, hgate, hlanes, -⟩ := hb.begin (p := p) hf hc he
  have hstep : v.step p (e.inLane k) = v.enter k c := by cases e <;> cases hc <;> rfl
  rw [hstep, Traffic.enter]
  -- the lane that is kept may not have been used yet; then it is the next one
  cases hk : v.lanes[k]? with
  | some old =>
    have hlt := (List.getElem?_eq_some_iff.1 hk).1
    refine ⟨u', _, hu, if_pos (hv old hk), ⟨hgate, ?_, ?_⟩, ?_⟩
    all_goals dsimp only [Traffic.put]
    · rw [hlanes, List.eraseIdx_set_eq]
    · rw [List.length_set]
      exact hb.le
    · rw [List.getElem?_set_self hlt]
  | none =>
    have hlen : k = v.lanes.length := le_antisymm hb.le (List.getElem?_eq_none_iff.1 hk)
    refine ⟨u', _, hu, if_pos hlen, ⟨hgate, ?_, ?_⟩, ?_⟩
    all_goals dsimp only
    · rw [hlanes, hlen, List.eraseIdx_of_length_le le_rfl,
        List.eraseIdx_append_of_length_le le_rfl, Nat.sub_self, List.eraseIdx_cons_zero,
        List.append_nil]
    · rw [List.length_append]
      omega
    · rw [hlen, List.getElem?_concat_length]

/-- A call that closes the writer begins in a lane behind all others. -/
theorem Beside.beginLast (hb : Beside u first k v) :
    ∃ u' v' k', u.step p (.close u.lanes.length) = some u' ∧
      v.step p (.close v.lanes.length) = some v' ∧ Beside u' first k' v' ∧
      v'.lanes[k']? = v.lanes[k]? ∧ (k < v.lanes.length → k' = k) := by
  have henter (w : Traffic) : w.step p (.close w.lanes.length) =
      some { w with lanes := w.lanes ++ [.closing .arriving] } := by
    simp [Traffic.step, Traffic.enter]
  -- the new lane is behind all others, unless the one that is kept has not been used yet
  obtain hlt | hlen := hb.le.lt_or_eq
  · refine ⟨_, _, k, henter u, henter v, ⟨hb.gate, ?_, ?_⟩, ?_, fun _ => rfl⟩
    all_goals dsimp only
    · rw [hb.lanes, List.eraseIdx_append_of_lt_length hlt, List.cons_append]
    · rw [List.length_append]
      omega
    · rw [List.getElem?_append_left hlt]
  · -- The lane is kept behind the new one.
    refine ⟨_, _, k + 1, henter u, henter v, ⟨hb.gate, ?_, ?_⟩, ?_, fun hlt => by omega⟩
    all_goals dsimp only
    · rw [hb.lanes, hlen, List.eraseIdx_of_length_le le_rfl,
        List.eraseIdx_of_length_le (by simp), List.cons_append]
    · rw [List.length_append, hlen, List.length_singleton]
    · rw [List.getElem?_eq_none (by simp [hlen]), List.getElem?_eq_none hlen.ge]

end Outbox.Rehearsal
