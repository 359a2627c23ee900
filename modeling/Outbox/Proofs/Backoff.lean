import Outbox.Backoff

/-!
# The number of pauses

As many pauses are taken as there are attempts after the first, and no more than
the limit allows (`Backoff.Took`): the next one is counted
(`Backoff.Took.succ_of_next`), unless the limit is reached
(`Backoff.Took.eq_of_next`). The counter never overflows, as the limit is one of
its values.
-/

namespace Outbox

namespace Backoff

variable {limit : UInt16} {b b' : Backoff} {draw : Float} {pause : Span}

/-- So many pauses were taken, out of a limited number. -/
structure Took (limit : UInt16) (b : Backoff) (n : Nat) : Prop where
  limit_eq : b.limit = some limit
  attempt_eq : b.attempt.toNat = n
  le : n ≤ limit.toNat

/-- At first no pause was taken. -/
theorem took_ofSettings (s : RetrySettings) : (ofSettings s).Took s.maxAttempts 0 :=
  ⟨rfl, rfl, Nat.zero_le _⟩

variable {n : Nat}

/-- After a reset no pause was taken. -/
theorem Took.reset (h : b.Took limit n) : b.reset.Took limit 0 :=
  ⟨h.limit_eq, rfl, Nat.zero_le _⟩

/-- No pause is left when the limit is reached. -/
theorem Took.isOver_iff (h : b.Took limit n) : b.isOver = true ↔ n = limit.toNat := by
  have hle := h.le
  simp only [isOver, h.limit_eq, Option.any_some, decide_eq_true_eq, UInt16.le_iff_toNat_le,
    h.attempt_eq]
  omega

/-- The next pause is counted. -/
theorem Took.succ_of_next (h : b.Took limit n) (hn : b.next draw = (some pause, b')) :
    b'.Took limit (n + 1) := by
  unfold next at hn
  split at hn
  · cases hn
  · rename_i hover
    obtain ⟨-, rfl⟩ := Prod.mk.inj hn
    have hne : n ≠ limit.toNat := fun hn => hover (h.isOver_iff.2 hn)
    have hle := h.le
    -- The number of pauses is below the limit, hence not the largest there is.
    have hlt : limit.toNat < 2 ^ 16 := limit.toNat_lt
    refine ⟨h.limit_eq, ?_, by omega⟩
    simp only [UInt16.toNat_add, h.attempt_eq, UInt16.toNat_one]
    omega

/-- There is no next pause only at the limit. -/
theorem Took.eq_of_next (h : b.Took limit n) (hn : b.next draw = (none, b')) :
    n = limit.toNat := by
  unfold next at hn
  split at hn
  · rename_i hover
    exact h.isOver_iff.1 hover
  · cases hn

end Backoff

end Outbox
