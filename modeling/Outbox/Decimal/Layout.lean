import Outbox.Decimal.Shortest

/-!
# Layouts of decimals

How a double is written in decimal digits is a matter of a few choices, the
fields of a `Layout`: which decimals are written in full and which with an
exponent, and what becomes of a whole number. The digits themselves are always
the fewest that read back (`Binary.shortest`).
-/

namespace Outbox.Decimal

/-- The choices in writing a double. -/
structure Layout where
  /-- The lowest and the highest exponent of the first digit for which all
      places are written; without them, all places always are. -/
  full : Option (Int × Int)
  /-- What follows a whole number that is written in full. -/
  whole : String
  /-- Which of two equally short and near decimals is taken. -/
  tie : Tie

/-- All places, and nothing behind a whole number. -/
def plain : Layout := ⟨none, "", .away⟩

/-- All places from `10 ^ (-5)` to below `10 ^ 16`, and always a point. -/
def json : Layout := ⟨some (-5, 15), ".0", .even⟩

/-- All places of a decimal. -/
def Layout.fullText (layout : Layout) (d : Decimal) : String :=
  let digits := toString d.digits
  if 0 ≤ d.exponent then
    digits ++ String.ofList (List.replicate d.exponent.toNat '0') ++ layout.whole
  else
    let places := (-d.exponent).toNat
    if places < digits.length then
      let whole := digits.length - places
      String.ofList (digits.toList.take whole) ++ "." ++ String.ofList (digits.toList.drop whole)
    else
      "0." ++ String.ofList (List.replicate (places - digits.length) '0') ++ digits

/-- One digit, a point, the other digits and the exponent of the first one with
    its sign. -/
def scientificText (d : Decimal) : String :=
  let digits := (toString d.digits).toList
  -- the exponent of the first digit, where that of `d` is of the last one
  let first := d.exponent + (digits.length - 1 : Nat)
  let sign := if 0 ≤ first then "+" else "-"
  let rest := if digits.length ≤ 1 then "" else "." ++ String.ofList (digits.drop 1)
  String.ofList (digits.take 1) ++ rest ++ "e" ++ sign ++ toString first.natAbs

/-- The text of a decimal. -/
def Layout.text (layout : Layout) (d : Decimal) : String :=
  let first := d.exponent + ((toString d.digits).length - 1 : Nat)
  match layout.full with
  | none => layout.fullText d
  | some (lo, hi) => if lo ≤ first && first ≤ hi then layout.fullText d else scientificText d

/-- The text of a double that is no number or infinite is the same in all layouts. -/
def Layout.write (layout : Layout) (x : Float) : String :=
  if x.isNaN then "NaN"
  else
    let sign := if x.toBits >>> 63 = 1 then "-" else ""
    let size := x.abs
    if x.isInf then sign ++ "inf"
    else if size == 0 then sign ++ "0" ++ layout.whole
    else sign ++ layout.text (Binary.shortest layout.tie (Binary.ofFloat size))

end Outbox.Decimal
