import Outbox.Json.Document

/-!
# Records in JSON

A record is read from a document that gives some of its fields, over the values
it has by default: from an object by the names of the fields, or from an array
in the order of their declaration (`read`). Members an object has besides are
ignored whatever their values; a field given twice, or one with a value it does
not accept, fails the whole record.
-/

namespace Outbox.Json

/-- A field of a record: its name, and how a value for it changes the record. -/
structure Field (σ : Type) where
  name : String
  put : Document → σ → Option σ

variable {σ α : Type}

/-- A field that is replaced by what the document is read as. -/
def Field.of (name : String) (read : Document → Option α) (set : σ → α → σ) :
    Field σ where
  name := name
  put d s := (read d).map (set s)

namespace Field

/-- The array form: values of the first fields in order, and no more. -/
def readItems : List (Field σ) → List Document → σ → Option σ
  | _, [], s => some s
  | [], _ :: _, _ => none
  | f :: fs, d :: ds, s => (f.put d s).bind (readItems fs ds)

/-- The object form, of which the fields `seen` were given already. -/
def readMembers (fields : List (Field σ)) :
    List String → List (Spelling × Document) → σ → Option σ
  | _, [], s => some s
  | seen, (k, d) :: rest, s =>
    match Spelling.string? k with
    | none => none
    | some name =>
      match fields.find? (·.name = name) with
      | none => readMembers fields seen rest s
      | some f =>
        if name ∈ seen then none
        else (f.put d s).bind (readMembers fields (name :: seen) rest)

/-- The record the document gives over the values in `s`. -/
def read (fields : List (Field σ)) (s : σ) : Document → Option σ
  | .array items => readItems fields items s
  | .object members => readMembers fields [] members s
  | _ => none

end Field

/-! ## Values of fields -/

namespace Document

/-- A truth value. -/
def bool? : Document → Option Bool
  | .bool b => some b
  | _ => none

/-- A whole number up to `limit`. -/
def upTo? (limit : Nat) : Document → Option Nat
  | .numeral n => n.natural? limit
  | _ => none

/-- A double. -/
def float? : Document → Option Float
  | .numeral n => n.toFloat?
  | _ => none

/-- A text. -/
def text? : Document → Option String
  | .string s => Spelling.string? s
  | _ => none

/-- A text or nothing. -/
def optionalText? : Document → Option (Option String)
  | .null => some none
  | d => d.text?.map some

end Document

end Outbox.Json
