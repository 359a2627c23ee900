import Outbox.Text.Digit

/-!
# Located messages

A message may end in the place that it is about, ` at line 3 column 14`. It is
then a text with a position (`Located.ofMessage`), and when it is written again
(`Located.message`) the numbers are in their usual form. Lines count from one,
and a position in line zero is none.
-/

namespace Outbox

/-- A text, and the place it is about if its line is not zero. -/
structure Located where
  text : String
  line : Nat := 0
  column : Nat := 0
deriving DecidableEq, Repr

namespace Located

/-- The text with its position. -/
def message (m : Located) : String :=
  if m.line = 0 then m.text else s!"{m.text} at line {m.line} column {m.column}"

/-! ## From the end of a message

All of the following take characters in reverse and give the ones that are left
of them. -/

/-- Takes a mark off the end. -/
def takeMark? (mark : String) (cs : List Char) : Option (List Char) :=
  let m := mark.toList.reverse
  if m.isPrefixOf cs then some (cs.drop m.length) else none

/-- Takes a number of at most 64 bits off the end. -/
def takeNumber? (cs : List Char) : Option (Nat × List Char) :=
  match Digits.scan cs with
  | ([], _) => none
  | (ds, rest) => (Digits.upTo? (UInt64.size - 1) ds.reverse).map (·, rest)

/-- Takes a position off the end, the line before the column. -/
def takePosition? (cs : List Char) : Option ((Nat × Nat) × List Char) := do
  let (column, cs) ← takeNumber? cs
  let cs ← takeMark? " column " cs
  let (line, cs) ← takeNumber? cs
  let cs ← takeMark? " at line " cs
  return ((line, column), cs)

/-- The text and the position of a message. -/
def ofMessage (message : String) : Located :=
  match takePosition? message.toList.reverse with
  | none => { text := message }
  | some ((line, column), cs) => { text := String.ofList cs.reverse, line, column }

end Located

end Outbox
