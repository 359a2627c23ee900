import Outbox.Json.Numeral

/-!
# JSON tokens

A document is first cut into tokens (`Token.scan?`). Strings are kept as they
are spelled (`Spelling`), an escape by code unit staying one unit: a spelling is
well-formed without being a text, as it may hold half of a surrogate pair
(`Spelling.text?`).
-/

namespace Outbox.Json

/-- A piece of a string: a character, or a 16-bit code unit given by its number. -/
inductive Piece where
  | char (c : Char)
  | unit (n : Nat)
deriving DecidableEq, Repr

/-- A string as it is spelled. -/
abbrev Spelling := List Piece

/-- The text of a spelling. Code units pair up, or stand for a character each. -/
def Spelling.text? : Spelling → Option (List Char)
  | [] => some []
  | .char c :: rest => (Spelling.text? rest).map (c :: ·)
  | .unit n :: rest =>
    if n < 0xD800 ∨ 0xDFFF < n then (Spelling.text? rest).map (Char.ofNat n :: ·)
    else match rest with
      | .unit m :: rest =>
        if n < 0xDC00 ∧ 0xDC00 ≤ m ∧ m ≤ 0xDFFF then
          let c := Char.ofNat (0x10000 + (n - 0xD800) * 0x400 + (m - 0xDC00))
          (Spelling.text? rest).map (c :: ·)
        else none
      | _ => none

/-- The text of a spelling as a string. -/
def Spelling.string? (s : Spelling) : Option String := (Spelling.text? s).map String.ofList

/-- The code unit of four hexadecimal digits. -/
def codeUnit? (a b c d : Char) : Option Nat := do
  let high := (← hexDigit? a) * 0x10 + (← hexDigit? b)
  let low := (← hexDigit? c) * 0x10 + (← hexDigit? d)
  return high * 0x100 + low

/-- The character an escape letter stands for. -/
def escaped? : Char → Option Char
  | '"' => some '"'
  | '\\' => some '\\'
  | '/' => some '/'
  | 'b' => some '\x08'
  | 'f' => some '\x0c'
  | 'n' => some '\n'
  | 'r' => some '\r'
  | 't' => some '\t'
  | _ => none

/-- The pieces of a string up to its closing quote, behind those read so far in
    reverse, and the rest of the text. Control characters must be escaped. -/
def Spelling.scan (seen : List Piece) : List Char → Option (Spelling × List Char)
  | [] => none
  | '"' :: rest => some (seen.reverse, rest)
  | '\\' :: 'u' :: a :: b :: c :: d :: rest =>
    match codeUnit? a b c d with
    | none => none
    | some n => Spelling.scan (.unit n :: seen) rest
  | '\\' :: e :: rest =>
    match escaped? e with
    | none => none
    | some c => Spelling.scan (.char c :: seen) rest
  | c :: rest => if c.toNat < 0x20 then none else Spelling.scan (.char c :: seen) rest

/-- The tokens of a document. -/
inductive Token where
  | leftBrace
  | rightBrace
  | leftBracket
  | rightBracket
  | comma
  | colon
  | null
  | bool (b : Bool)
  | numeral (n : Numeral)
  | string (s : Spelling)
deriving DecidableEq, Repr

/-- The characters that may stand between tokens. -/
def isBlank (c : Char) : Bool := c = ' ' || c = '\t' || c = '\n' || c = '\r'

/-- The token at the start of a text that starts with no blank, and the rest. -/
def Token.scanOne : List Char → Option (Token × List Char)
  | '\x7b' :: rest => some (.leftBrace, rest)
  | '\x7d' :: rest => some (.rightBrace, rest)
  | '[' :: rest => some (.leftBracket, rest)
  | ']' :: rest => some (.rightBracket, rest)
  | ',' :: rest => some (.comma, rest)
  | ':' :: rest => some (.colon, rest)
  | 'n' :: 'u' :: 'l' :: 'l' :: rest => some (.null, rest)
  | 't' :: 'r' :: 'u' :: 'e' :: rest => some (.bool true, rest)
  | 'f' :: 'a' :: 'l' :: 's' :: 'e' :: rest => some (.bool false, rest)
  | '"' :: rest => (Spelling.scan [] rest).map fun (s, rest) => (.string s, rest)
  | cs => (Numeral.scan cs).map fun (n, rest) => (.numeral n, rest)

/-- The tokens of the text behind those read so far in reverse, in at most
    `fuel` tokens and blanks. -/
def Token.scanFrom : (fuel : Nat) → List Token → List Char → Option (List Token)
  | _, seen, [] => some seen.reverse
  | 0, _, _ :: _ => none
  | fuel + 1, seen, c :: rest =>
    if isBlank c then scanFrom fuel seen rest
    else match scanOne (c :: rest) with
      | none => none
      | some (t, rest) => scanFrom fuel (t :: seen) rest

/-- The tokens of the text. Each takes at least one character. -/
def Token.scan? (cs : List Char) : Option (List Token) := scanFrom cs.length [] cs

end Outbox.Json
