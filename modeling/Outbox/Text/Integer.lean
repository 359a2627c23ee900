import Outbox.Text.Digit

/-!
# Integers in text

An optional sign and one or more decimal digits, with a value between two
bounds (`Integer.read`). The digits are read from the left, and the first one
that is none or takes the value out of bounds decides what is reported
(`Integer.Defect`).
-/

namespace Outbox.Integer

/-- Why a text is no integer within the bounds. -/
inductive Defect where
  | empty
  | invalidDigit
  | tooLarge
  | tooSmall
deriving DecidableEq, Repr

/-- The text of a defect. -/
def Defect.message : Defect → String
  | .empty => "cannot parse integer from empty string"
  | .invalidDigit => "invalid digit found in string"
  | .tooLarge => "number too large to fit in target type"
  | .tooSmall => "number too small to fit in target type"

/-- Goes on from the value `acc` of the digits read so far, away from zero in
    the direction of `negative`. -/
def digits (lo hi : Int) (negative : Bool) (acc : Int) : List Char → Except Defect Int
  | [] => .ok acc
  | c :: rest =>
    match digit? c with
    | none => .error .invalidDigit
    | some d =>
      let next := if negative then 10 * acc - d else 10 * acc + d
      if next < lo then .error .tooSmall
      else if hi < next then .error .tooLarge
      else digits lo hi negative next rest

/-- The digits behind a sign, of which there is at least one. -/
def unsigned (lo hi : Int) (negative : Bool) : List Char → Except Defect Int
  | [] => .error .invalidDigit
  | cs => digits lo hi negative 0 cs

/-- The integer between `lo` and `hi` that the text states. -/
def read (lo hi : Int) (text : String) : Except Defect Int :=
  match text.toList with
  | [] => .error .empty
  | '+' :: rest => unsigned lo hi false rest
  | '-' :: rest => unsigned lo hi true rest
  | cs => digits lo hi false 0 cs

end Outbox.Integer
