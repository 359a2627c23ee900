/-!
# Shortest decimals

A positive binary number `m · 2 ^ q` stands for all reals that round to it, an
interval around it (`Binary.Holds`). Of the decimals `d · 10 ^ k` in it,
`Binary.shortest` takes one with the largest `k`, hence with the fewest digits,
and among those the nearest to the number itself.

All comparisons are between natural numbers: both the interval and the decimal
are multiplied by the same powers of two and ten until they are whole.

* `Binary.ofFloat`: what a finite positive double is;
* `Binary.shortest`: its shortest decimal.
-/

namespace Outbox

/-- The decimal `digits · 10 ^ exponent`. -/
structure Decimal where
  digits : Nat
  exponent : Int
deriving DecidableEq, Repr

namespace Decimal

/-- Which of two neighbouring decimals at the same distance is taken: the one
    away from zero, or the one with an even last digit. -/
inductive Tie where
  | away
  | even
deriving DecidableEq, Repr

/-- The number `significand · 2 ^ exponent`. The numbers below it are only half
    as far apart as those above if it is a `lowest` one, the first with its
    exponent. -/
structure Binary where
  significand : Nat
  exponent : Int
  lowest : Bool
deriving DecidableEq, Repr

namespace Binary

/-- The number of a finite positive double. -/
def ofFloat (x : Float) : Binary :=
  let fraction := (x.toBits &&& 0xFFFFFFFFFFFFF).toNat
  let biased := (x.toBits >>> 52 &&& 0x7FF).toNat
  if biased = 0 then ⟨fraction, -1074, false⟩
  else ⟨0x10000000000000 + fraction, (biased : Int) - 1075, fraction = 0 && 1 < biased⟩

/-- The factors that make quarters of a unit of the number (first) and units of
    the decimals with exponent `k` (second) whole and comparable. -/
def scales (b : Binary) (k : Int) : Nat × Nat :=
  (Nat.pow 2 (b.exponent - 2).toNat * Nat.pow 10 (-k).toNat,
    Nat.pow 2 (2 - b.exponent).toNat * Nat.pow 10 k.toNat)

/-- The number in quarters of its unit. -/
def quarters (b : Binary) : Nat := 4 * b.significand

/-- The lower end of the interval, in quarters of the unit. -/
def low (b : Binary) : Nat := b.quarters - if b.lowest then 1 else 2

/-- The upper end of the interval, in quarters of the unit. -/
def high (b : Binary) : Nat := b.quarters + 2

/-- The interval holds the decimal `d`, given the factors for its exponent. Its ends
    belong to it if the significand is even, as the reals there round to the even
    neighbour. -/
def holds (b : Binary) (unit grid d : Nat) : Bool :=
  if b.significand % 2 = 0 then b.low * unit ≤ d * grid && d * grid ≤ b.high * unit
  else b.low * unit < d * grid && d * grid < b.high * unit

/-- The multiple of `10 ^ k` in the interval that is the nearest to the number,
    if there is one. Only the two neighbours of the number need be tried. -/
def onGrid (tie : Tie) (b : Binary) (k : Int) : Option Nat :=
  let (unit, grid) := b.scales k
  let below := b.quarters * unit / grid
  let rest := b.quarters * unit % grid
  match b.holds unit grid below, b.holds unit grid (below + 1) with
  | false, false => none
  | true, false => some below
  | false, true => some (below + 1)
  | true, true =>
    if 2 * rest < grid then some below
    else if grid < 2 * rest then some (below + 1)
    else match tie with
      | .away => some (below + 1)
      | .even => some (if below % 2 = 0 then below else below + 1)

/-- The nearest decimal in the interval on the first of the grids `10 ^ k`,
    `10 ^ (k - 1)`, …, `10 ^ (k - n)` that has one. -/
def coarsest (tie : Tie) (b : Binary) : Nat → Int → Decimal
  | 0, k => ⟨(b.onGrid tie k).getD 0, k⟩
  | n + 1, k =>
    match b.onGrid tie k with
    | some d => ⟨d, k⟩
    | none => coarsest tie b n (k - 1)

/-- An exponent beyond the interval, which ends before `2 ^ n` with the `n` below.
    (The logarithm of two is a little less than `0.30103`.) -/
def top (b : Binary) : Int :=
  let n := (b.significand.log2 : Int) + 2 + b.exponent
  n * 30103 / 100000 + 1

/-- The shortest decimal of a double's number. It has no more than 17 digits. -/
def shortest (tie : Tie) (b : Binary) : Decimal := b.coarsest tie 24 b.top

end Binary

end Decimal

end Outbox
