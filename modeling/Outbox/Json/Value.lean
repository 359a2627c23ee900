import Outbox.Decimal.Layout
import Outbox.Text.Located

/-!
# JSON texts of values

A `Value` is what a program may want to write as JSON, also if that turns out to
be impossible: the keys of a map can be any values, but only some of them can be
written as names (`Value.name`), and a value may fail by itself. The text has no
blanks, keeps the members of a map in their order, and escapes no more than it
must (`Value.text`).
-/

namespace Outbox.Json

/-- A value to write. -/
inductive Value where
  | null
  | bool (b : Bool)
  | integer (n : Int)
  | float (x : Float)
  | text (s : String)
  /-- A list of the values of bytes. -/
  | bytes (b : ByteArray)
  | list (items : List Value)
  | map (members : List (Value × Value))
  /-- Fails with a message of its own. -/
  | failing (message : String)

/-- Why a value cannot be written. -/
inductive Unwritable where
  | keyNotName
  | keyNotFinite
  | stated (text : String)
deriving DecidableEq, Repr

/-- The text of a failure. One that a value states is a located message. -/
def Unwritable.message : Unwritable → String
  | .keyNotName => "key must be a string"
  | .keyNotFinite => "float key must be finite (got NaN or +/-inf)"
  | .stated text => (Located.ofMessage text).message

/-- How a character is written in a string. Control characters without a letter
    of their own are given by their code point in four digits. -/
def escape (c : Char) : List Char :=
  if c = '"' then ['\\', '"']
  else if c = '\\' then ['\\', '\\']
  else if c = '\x08' then ['\\', 'b']
  else if c = '\t' then ['\\', 't']
  else if c = '\n' then ['\\', 'n']
  else if c = '\x0c' then ['\\', 'f']
  else if c = '\r' then ['\\', 'r']
  else if c.toNat < 0x20 then
    ['\\', 'u', '0', '0', Nat.digitChar (c.toNat / 16), Nat.digitChar (c.toNat % 16)]
  else [c]

/-- A text in quotes. -/
def quote (s : String) : String := "\"" ++ String.ofList (s.toList.flatMap escape) ++ "\""

namespace Value

/-- A double. One that is not finite has no numeral. -/
def floatText (x : Float) : String := if x.isFinite then Decimal.json.write x else "null"

/-- The name of a member: a text, or the text of an atom in quotes. -/
def name : Value → Except Unwritable String
  | .text s => .ok (quote s)
  | .bool b => .ok (quote (if b then "true" else "false"))
  | .integer n => .ok (quote (toString n))
  | .float x => if x.isFinite then .ok (quote (floatText x)) else .error .keyNotFinite
  | .failing message => .error (.stated message)
  | .null | .bytes _ | .list _ | .map _ => .error .keyNotName

/-- Texts between commas. -/
def commas (texts : List String) : String := ",".intercalate texts

mutual

/-- The text of a value. -/
def text? : Value → Except Unwritable String
  | .null => .ok "null"
  | .bool b => .ok (if b then "true" else "false")
  | .integer n => .ok (toString n)
  | .float x => .ok (floatText x)
  | .text s => .ok (quote s)
  | .bytes b => .ok ("[" ++ commas (b.toList.map fun n => toString n.toNat) ++ "]")
  | .list vs => do return "[" ++ commas (← itemTexts? vs) ++ "]"
  | .map ms => do return "\x7b" ++ commas (← memberTexts? ms) ++ "\x7d"
  | .failing message => .error (.stated message)

/-- The texts of the items of a list. -/
def itemTexts? : List Value → Except Unwritable (List String)
  | [] => .ok []
  | v :: vs => do return (← text? v) :: (← itemTexts? vs)

/-- The texts of the members of a map. The first failure counts, that of a name
    before that of its value. -/
def memberTexts? : List (Value × Value) → Except Unwritable (List String)
  | [] => .ok []
  | (k, v) :: ms => do
    let name ← k.name
    let text ← text? v
    return (name ++ ":" ++ text) :: (← memberTexts? ms)

end

end Value

end Outbox.Json
