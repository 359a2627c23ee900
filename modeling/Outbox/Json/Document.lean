import Outbox.Json.Token

/-!
# JSON documents

A `Document` is the tree of a JSON text, with strings and numerals as they are
written and the members of objects in their order, repeated ones included. What
a reader does not look at is thus checked for its form alone.

* `Document.ofTokens?`: the tree of a list of tokens;
* `Document.parse?`: the tree of a text.
-/

namespace Outbox.Json

/-- A JSON value. -/
inductive Document where
  | null
  | bool (b : Bool)
  | numeral (n : Numeral)
  | string (s : Spelling)
  | array (items : List Document)
  | object (members : List (Spelling × Document))

namespace Document

/-! ## From tokens to a tree

All parsers below take a bound on their depth and give the value at the start
of the tokens and the tokens behind it. -/

mutual

/-- A value. -/
def value : (fuel : Nat) → List Token → Option (Document × List Token)
  | 0, _ => none
  | _ + 1, .null :: ts => some (.null, ts)
  | _ + 1, .bool b :: ts => some (.bool b, ts)
  | _ + 1, .numeral n :: ts => some (.numeral n, ts)
  | _ + 1, .string s :: ts => some (.string s, ts)
  | _ + 1, .leftBracket :: .rightBracket :: ts => some (.array [], ts)
  | fuel + 1, .leftBracket :: ts => items fuel [] ts
  | _ + 1, .leftBrace :: .rightBrace :: ts => some (.object [], ts)
  | fuel + 1, .leftBrace :: ts => members fuel [] ts
  | _ + 1, _ => none

/-- The items of an array up to its closing bracket, behind those read so far in
    reverse. -/
def items : (fuel : Nat) → List Document → List Token → Option (Document × List Token)
  | 0, _, _ => none
  | fuel + 1, seen, ts =>
    match value fuel ts with
    | some (d, .comma :: ts) => items fuel (d :: seen) ts
    | some (d, .rightBracket :: ts) => some (.array (d :: seen).reverse, ts)
    | _ => none

/-- The members of an object up to its closing brace, behind those read so far
    in reverse. -/
def members : (fuel : Nat) → List (Spelling × Document) → List Token →
    Option (Document × List Token)
  | 0, _, _ => none
  | fuel + 1, seen, .string k :: .colon :: ts =>
    match value fuel ts with
    | some (d, .comma :: ts) => members fuel ((k, d) :: seen) ts
    | some (d, .rightBrace :: ts) => some (.object ((k, d) :: seen).reverse, ts)
    | _ => none
  | _ + 1, _, _ => none

end

/-- The tree of all the tokens. The depth is bounded as every second parser in
    turn takes a token. -/
def ofTokens? (ts : List Token) : Option Document :=
  match value (2 * ts.length + 1) ts with
  | some (d, []) => some d
  | _ => none

/-- The tree of a text. -/
def parse? (text : String) : Option Document :=
  (Token.scan? text.toList).bind ofTokens?

end Document

end Outbox.Json
