/-!
# UTF-8

A payload is text if its bytes are well-formed UTF-8 (`decode`). For bytes
that are not, `defect` finds the first place where they stop being so, reading
one byte at a time with the state of a small machine: between characters
(`State.boundary`), or inside one, some bytes of which have been seen and some
are still to come (`State.inside`).

A character of several bytes starts with a byte that fixes how many follow,
and the range of the first of those; the later ones range over all of
`0x80 … 0xBF`. This excludes longer forms than needed, surrogates and what lies
beyond the last code point.
-/

namespace Outbox.Utf8

/-- Where bytes stop being well-formed UTF-8: at the character starting at
    `start`, of which the first `length` bytes may be skipped. Without a length
    the bytes end inside a character that was fine so far. -/
structure Defect where
  start : Nat
  length : Option Nat
deriving DecidableEq, Repr

/-- The text of a defect. -/
def Defect.message (d : Defect) : String :=
  match d.length with
  | some n => s!"invalid utf-8 sequence of {n} bytes from index {d.start}"
  | none => s!"incomplete utf-8 byte sequence from index {d.start}"

/-- Between two characters, or inside the one starting at `start`: `seen` bytes
    of it were read, `more` follow after the next one, which lies between `lo`
    and `hi`. -/
inductive State where
  | boundary
  | inside (start seen more : Nat) (lo hi : UInt8)

/-- The state after the first byte `b` of a character, at position `i`; none if
    no character starts with `b`. -/
def State.enter (i : Nat) (b : UInt8) : Option State :=
  if b < 0x80 then some .boundary
  else if b < 0xC2 then none
  else if b < 0xE0 then some (.inside i 1 0 0x80 0xBF)
  else if b = 0xE0 then some (.inside i 1 1 0xA0 0xBF)
  else if b = 0xED then some (.inside i 1 1 0x80 0x9F)
  else if b < 0xF0 then some (.inside i 1 1 0x80 0xBF)
  else if b = 0xF0 then some (.inside i 1 2 0x90 0xBF)
  else if b < 0xF4 then some (.inside i 1 2 0x80 0xBF)
  else if b = 0xF4 then some (.inside i 1 2 0x80 0x8F)
  else none

/-- The first defect of the bytes from position `i` on, none if there is none. -/
def scan : State → Nat → List UInt8 → Option Defect
  | .boundary, _, [] => none
  | .inside start _ _ _ _, _, [] => some ⟨start, none⟩
  | .boundary, i, b :: bytes =>
    match State.enter i b with
    | none => some ⟨i, some 1⟩
    | some state => scan state (i + 1) bytes
  | .inside start seen more lo hi, i, b :: bytes =>
    if lo ≤ b ∧ b ≤ hi then
      match more with
      | 0 => scan .boundary (i + 1) bytes
      | more + 1 => scan (.inside start (seen + 1) more 0x80 0xBF) (i + 1) bytes
    else some ⟨start, some seen⟩

/-- The defect of bytes that are not well-formed. (Bytes without any would end
    at a defect behind their last one.) -/
def defect (bytes : ByteArray) : Defect :=
  (scan .boundary 0 bytes.toList).getD ⟨bytes.size, none⟩

/-- The text the bytes encode, or where they stop being well-formed. -/
def decode (bytes : ByteArray) : Except Defect String :=
  match String.fromUTF8? bytes with
  | some text => .ok text
  | none => .error (defect bytes)

/-- Bytes are text exactly if some text has them as its bytes. -/
theorem decode_eq_ok_iff {bytes : ByteArray} {text : String} :
    decode bytes = .ok text ↔ text.toUTF8 = bytes := by
  unfold decode String.fromUTF8?
  split <;> rename_i h
  · split at h <;> rename_i hv
    · obtain rfl := Option.some.inj h
      constructor
      · intro ht
        obtain rfl := Except.ok.inj ht
        rfl
      · intro ht
        subst ht
        rfl
    · simp at h
  · split at h <;> rename_i hv
    · simp at h
    · simp only [reduceCtorEq, false_iff]
      intro ht
      subst ht
      exact hv text.isValidUTF8

end Outbox.Utf8
