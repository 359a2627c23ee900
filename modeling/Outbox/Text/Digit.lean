/-!
# Digits

The values of the ASCII digits, decimal and hexadecimal ones, and numbers
written in decimal ones. Only numbers up to some limit are of use; for others it
is enough to know that they exceed it, however long they are (`Digits.capped`).
-/

namespace Outbox

/-- The value of a decimal digit. -/
def digit? (c : Char) : Option Nat :=
  if '0' ≤ c ∧ c ≤ '9' then some (c.toNat - '0'.toNat) else none

/-- The value of a hexadecimal digit, in upper or lower case. -/
def hexDigit? (c : Char) : Option Nat :=
  if 'a' ≤ c ∧ c ≤ 'f' then some (c.toNat - 'a'.toNat + 10)
  else if 'A' ≤ c ∧ c ≤ 'F' then some (c.toNat - 'A'.toNat + 10)
  else digit? c

/-- A digit is below ten. -/
theorem lt_of_digit?_eq_some {c : Char} {d : Nat} (h : digit? c = some d) : d < 10 := by
  unfold digit? at h
  split at h
  · rename_i hc
    have hd : c.toNat - '0'.toNat = d := Option.some.inj h
    have hi : c.toNat ≤ '9'.toNat := hc.2
    have : ('0' : Char).toNat = 48 := rfl
    have : ('9' : Char).toNat = 57 := rfl
    omega
  · simp at h

/-- Decimal digits, from the left, each below ten. -/
abbrev Digits := List Nat

/-- The digits at the start of the text, and the rest of it. -/
def Digits.scan (cs : List Char) : Digits × List Char :=
  ((cs.takeWhile fun c => (digit? c).isSome).filterMap digit?,
    cs.dropWhile fun c => (digit? c).isSome)

namespace Digits

/-- The number that the digits denote. -/
def value (ds : Digits) : Nat := ds.foldl (fun n d => 10 * n + d) 0

/-- The number that the digits denote, or the one above the limit if it is
    larger. -/
def capped (limit : Nat) (ds : Digits) : Nat :=
  ds.foldl (fun n d => min (limit + 1) (10 * n + d)) 0

theorem capped_eq_min (limit : Nat) (ds : Digits) :
    ds.capped limit = min (limit + 1) ds.value := by
  suffices h : ∀ n m : Nat, n = min (limit + 1) m →
      ds.foldl (fun n d => min (limit + 1) (10 * n + d)) n =
        min (limit + 1) (ds.foldl (fun n d => 10 * n + d) m) from
    h 0 0 (by simp)
  induction ds with
  | nil => exact fun _ _ h => h
  | cons d ds ih => exact fun n m h => ih _ _ (by simp only; omega)

/-- The number that the digits denote, if it is within the limit. -/
def upTo? (limit : Nat) (ds : Digits) : Option Nat :=
  let n := ds.capped limit
  if n ≤ limit then some n else none

theorem upTo?_eq_some_iff {limit n : Nat} {ds : Digits} :
    ds.upTo? limit = some n ↔ ds.value = n ∧ n ≤ limit := by
  have h := capped_eq_min limit ds
  simp only [upTo?, Option.ite_none_right_eq_some, Option.some.injEq]
  omega

end Digits

end Outbox
