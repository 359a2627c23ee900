import Outbox.Text.Combining
import Outbox.Text.Unprintable

/-!
# Quoted text

Text in double quotes that shows on one line whatever it holds: quotes and
backslashes are marked by a backslash, and characters that do not print or
would combine with the one before them are given by their code point.
-/

namespace Outbox

/-- The code point in hexadecimal, in lower case. -/
def hexadecimal (n : Nat) : List Char := Nat.toDigits 16 n

/-- How a character is written between the quotes. -/
def quotedChar (c : Char) : List Char :=
  if c = '\x00' then ['\\', '0']
  else if c = '\t' then ['\\', 't']
  else if c = '\n' then ['\\', 'n']
  else if c = '\r' then ['\\', 'r']
  else if c = '"' then ['\\', '"']
  else if c = '\\' then ['\\', '\\']
  else if ' ' ≤ c ∧ c ≤ '~' then [c]
  else if combining.contains c || unprintable.contains c then
    ['\\', 'u', '\x7b'] ++ hexadecimal c.toNat ++ ['\x7d']
  else [c]

/-- The text in quotes. -/
def quoted (text : String) : String :=
  String.ofList ('"' :: text.toList.flatMap quotedChar ++ ['"'])

end Outbox
