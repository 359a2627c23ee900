import Outbox.Text.Digit

/-!
# JSON numerals

A numeral is kept as it is written, digit by digit, as what it means depends on
who reads it: a whole number (`Numeral.natural?`, `Numeral.integer?`), or a
double (`Numeral.toFloat?`).

A double is read in one pass. As many digits as fit into 64 bits form the
significand, which is then scaled once by a power of ten. The result is within
a few units of the nearest double, and exact for numerals of up to 15 digits
with small exponents.
-/

namespace Outbox.Json

/-- A numeral: a sign, the digits before the point, those after it, and the
    exponent with its sign (true for a negative one). -/
structure Numeral where
  negative : Bool
  whole : Digits
  fraction : Option Digits
  exponent : Option (Bool × Digits)
deriving DecidableEq, Repr

namespace Numeral

/-- At least one digit. -/
def scanSomeDigits (cs : List Char) : Option (Digits × List Char) :=
  match Digits.scan cs with
  | ([], _) => none
  | found => some found

/-- The digits before the point: a zero alone, or digits that start with none. -/
def scanWhole : List Char → Option (Digits × List Char)
  | '0' :: rest => some ([0], rest)
  | cs => scanSomeDigits cs

/-- A point and digits behind it, if there is a point. -/
def scanFraction : List Char → Option (Option Digits × List Char)
  | '.' :: rest => (scanSomeDigits rest).map fun (ds, rest) => (some ds, rest)
  | cs => some (none, cs)

/-- The exponent behind its mark. -/
def scanPower : List Char → Option ((Bool × Digits) × List Char)
  | '+' :: rest => (scanSomeDigits rest).map fun (ds, rest) => ((false, ds), rest)
  | '-' :: rest => (scanSomeDigits rest).map fun (ds, rest) => ((true, ds), rest)
  | cs => (scanSomeDigits cs).map fun (ds, rest) => ((false, ds), rest)

/-- The exponent with its mark, if there is one. -/
def scanExponent : List Char → Option (Option (Bool × Digits) × List Char)
  | 'e' :: rest => (scanPower rest).map fun (p, rest) => (some p, rest)
  | 'E' :: rest => (scanPower rest).map fun (p, rest) => (some p, rest)
  | cs => some (none, cs)

/-- The numeral at the start of the text behind its sign, and the rest. -/
def scanUnsigned (negative : Bool) (cs : List Char) : Option (Numeral × List Char) := do
  let (whole, cs) ← scanWhole cs
  let (fraction, cs) ← scanFraction cs
  let (exponent, cs) ← scanExponent cs
  return (⟨negative, whole, fraction, exponent⟩, cs)

/-- The numeral at the start of the text, and the rest. -/
def scan : List Char → Option (Numeral × List Char)
  | '-' :: rest => scanUnsigned true rest
  | cs => scanUnsigned false cs

/-- The whole number of a numeral without sign, fraction and exponent, if it is
    within the limit. -/
def natural? (limit : Nat) (n : Numeral) : Option Nat :=
  if n.negative || n.fraction.isSome || n.exponent.isSome then none else n.whole.upTo? limit

/-- The whole number of a numeral without fraction and exponent. A negative
    zero is none. -/
def integer? (n : Numeral) : Option Int :=
  if n.fraction.isSome || n.exponent.isSome then none
  else match n.negative, n.whole.value with
    | false, value => some value
    | true, 0 => none
    | true, value => some (-value)

/-- The largest significand. -/
def significandLimit : Nat := UInt64.size - 1

/-- Appends digits to a significand until the first one that no longer fits,
    and gives the number of those appended and of those left out. -/
def significand : Nat → Nat → Digits → Nat × Nat × Nat
  | value, taken, [] => (value, taken, 0)
  | value, taken, d :: ds =>
    if 10 * value + d ≤ significandLimit then significand (10 * value + d) (taken + 1) ds
    else (value, taken, (d :: ds).length)

/-- The double `x · 10 ^ exponent`, none if it is too large. A negative exponent
    beyond the range of a double is divided out in up to `fuel` parts, which
    ends at zero. -/
def scale : (fuel : Nat) → Float → Int → Option Float
  | fuel, x, exponent =>
    if 0 ≤ exponent ∧ exponent ≤ 308 then
      let y := x * Float.ofScientific 1 false exponent.natAbs
      if y.isInf then none else some y
    else if -308 ≤ exponent ∧ exponent < 0 then
      some (x / Float.ofScientific 1 false exponent.natAbs)
    else if x == 0 then some x
    else if 0 ≤ exponent then none
    else match fuel with
      | 0 => some 0
      | fuel + 1 => scale fuel (x / Float.ofScientific 1 false 308) (exponent + 308)

/-- The largest exponent that is told from larger ones. No numeral has so many
    digits that they make up for it. -/
def powerLimit : Nat := 0x7FFFFFFF

/-- The double of a numeral, none if it is too large. -/
def toFloat? (n : Numeral) : Option Float :=
  let (value, _, omitted) := significand 0 0 n.whole
  -- a digit behind the point may fit although one before it did not
  let (value, places, _) := significand value 0 (n.fraction.getD [])
  let power : Int := match n.exponent with
    | none => 0
    | some (false, ds) => ds.capped powerLimit
    | some (true, ds) => -ds.capped powerLimit
  let size := scale 4 value.toUInt64.toFloat (omitted - places + power)
  if n.negative then size.map (- ·) else size

end Numeral

end Outbox.Json
