import Outbox.Settings

/-!
# Backoff

The pauses between attempts to deliver the same entries. The `n`-th pause is
`initial · factor ^ (n - 1)` in whole milliseconds, scattered by a random
multiplier around one if there is jitter, and at most `max`. After `limit`
pauses without a `reset` there are no more.

* `Backoff.delay`: the length of a pause;
* `Backoff.next`: the next pause, and what is left;
* `Backoff.drawable`: a multiplier can be drawn, i.e., the range it is drawn
  from is neither empty nor infinite.
-/

namespace Outbox

/-- A span of time, in nanoseconds. -/
abbrev Span := Nat

/-- Some milliseconds. -/
def Span.ofMillis (ms : Nat) : Span := ms * 1000000

/-- The whole milliseconds of a span. -/
def Span.millis (s : Span) : Nat := s / 1000000

/-- What is left of the multiplication of `r` by `a ^ n`, squaring `a` while
    there are digits in `n`, of which there are at most `fuel`. -/
def squarings : (fuel : Nat) → (n : Nat) → (r a : Float) → Float
  | 0, _, r, _ => r
  | fuel + 1, n, r, a =>
    let r := if n % 2 = 1 then r * a else r
    if n / 2 = 0 then r else squarings fuel (n / 2) r (a * a)

/-- A power, by repeated squaring. -/
def power (a : Float) (n : Nat) : Float := squarings (n.log2 + 1) n 1.0 a

/-- The state of the pauses: their parameters, and the number of those taken. -/
structure Backoff where
  initial : Span
  max : Span
  factor : Float
  jitter : Float
  limit : Option UInt16
  attempt : UInt16 := 0

namespace Backoff

/-- The pauses of some settings. -/
def ofSettings (s : RetrySettings) : Backoff where
  initial := .ofMillis s.initialInterval.toNat
  max := .ofMillis s.maxInterval.toNat
  factor := s.factor
  jitter := s.jitter
  limit := some s.maxAttempts

/-- Starts over. -/
def reset (b : Backoff) : Backoff := { b with attempt := 0 }

/-- No pause is left. -/
def isOver (b : Backoff) : Bool := b.limit.any (· ≤ b.attempt)

/-- The ends of the range of the multiplier. -/
def range (b : Backoff) : Float × Float := (1.0 - b.jitter, 1.0 + b.jitter)

/-- The width of the range. -/
def width (b : Backoff) : Float := b.range.2 - b.range.1

/-- No multiplier is needed, or one can be drawn. -/
def drawable (b : Backoff) : Bool :=
  b.jitter == 0.0 || (b.range.1 ≤ b.range.2 && b.width.isFinite)

/-- The multiplier at the fraction `draw` of the range, which is below one. -/
def multiplier (b : Backoff) (draw : Float) : Float := draw * b.width + b.range.1

/-- The `n`-th pause, its multiplier being at the fraction `draw` of the range.
    The milliseconds are cut off to whole ones that fit into 64 bits, zero if
    they are no number. -/
def delay (b : Backoff) (draw : Float) (n : Nat) : Span :=
  let base := Float.ofNat b.initial.millis * power b.factor (n - 1)
  let ms := if b.jitter == 0.0 then base else base * b.multiplier draw
  min (Span.ofMillis ms.toUInt64.toNat) b.max

/-- The next pause, if there is one. -/
def next (b : Backoff) (draw : Float) : Option Span × Backoff :=
  if b.isOver then (none, b)
  else (some (b.delay draw (b.attempt + 1).toNat), { b with attempt := b.attempt + 1 })

/-- The next pause, unless it would take a multiplier that cannot be drawn. -/
def next? (b : Backoff) (draw : Float) : Option (Option Span × Backoff) :=
  if b.isOver || b.drawable then some (b.next draw) else none

/-- All pauses left, of which there are at most `fuel`, behind those taken so
    far in reverse. -/
def remaining (draw : Float) : (fuel : Nat) → List Span → Backoff → List Span × Backoff
  | 0, taken, b => (taken.reverse, b)
  | fuel + 1, taken, b =>
    match b.next draw with
    | (none, b) => (taken.reverse, b)
    | (some pause, b) => remaining draw fuel (pause :: taken) b

/-- All pauses up to the limit. -/
def drain (b : Backoff) (draw : Float) : List Span × Backoff :=
  remaining draw ((b.limit.getD 65535).toNat + 1) [] b

end Backoff

end Outbox
