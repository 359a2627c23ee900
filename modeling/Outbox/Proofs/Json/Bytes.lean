import Mathlib.Data.List.Basic
import Outbox.Json.Value

/-!
# JSON in bytes

A JSON text goes out as bytes, and a writer of JSON need not know of characters: it
can go through the bytes of a text one by one and escape some of them
(`Json.escapeByte`). The rules for this are those of `Json.Value.Written`, by which
the bytes of a value are put together from those of its parts.

They give the bytes of the text of the value, for each value that has one
(`Json.Value.written_iff`). The reason is that no byte of a character beyond the ASCII
ones is escaped, so that escaping does not take characters apart
(`Json.flatMap_escapeByte`). What is written by the rules is thus always text.
-/

namespace Outbox.Json

/-- The bytes of a text, character by character. -/
def bytesOf (s : String) : List UInt8 := s.toList.flatMap String.utf8EncodeChar

theorem toByteArray_bytesOf (s : String) : (bytesOf s).toByteArray = s.toUTF8 :=
  String.utf8Encode_toList

@[simp] theorem bytesOf_append (s t : String) : bytesOf (s ++ t) = bytesOf s ++ bytesOf t := by
  simp [bytesOf]

/-- A text is encoded character by character. -/
theorem bytesOf_ofList (cs : List Char) :
    bytesOf (String.ofList cs) = cs.flatMap String.utf8EncodeChar := by
  rw [bytesOf, String.toList_ofList]

/-! ## Strings -/

/-- How a byte is written in a string: a quote or a backslash behind a backslash,
    what is below the blank by a letter or a number, and all else as it is. -/
def escapeByte (b : UInt8) : List UInt8 :=
  if b = 0x22 then bytesOf "\\\""
  else if b = 0x5C then bytesOf "\\\\"
  else if b = 0x08 then bytesOf "\\b"
  else if b = 0x09 then bytesOf "\\t"
  else if b = 0x0A then bytesOf "\\n"
  else if b = 0x0C then bytesOf "\\f"
  else if b = 0x0D then bytesOf "\\r"
  else if b < 0x20 then
    bytesOf (String.ofList ['\\', 'u', '0', '0', Nat.digitChar (b.toNat / 16),
      Nat.digitChar (b.toNat % 16)])
  else [b]

/-- Bytes in quotes. -/
def quoteBytes (bytes : List UInt8) : List UInt8 :=
  bytesOf "\"" ++ bytes.flatMap escapeByte ++ bytesOf "\""

/-- Of characters with one byte, that byte is written as the character is. -/
theorem escapeByte_ascii : ∀ n < 128,
    (escape (Char.ofNat n)).flatMap String.utf8EncodeChar = escapeByte (UInt8.ofNat n) := by
  decide +kernel

/-- A character beyond the ASCII ones is not escaped. -/
theorem escape_of_le {c : Char} (h : 128 ≤ c.toNat) : escape c = [c] := by
  have ne_of_lt {d : Char} (hd : d.toNat < 128) : c ≠ d := by
    rintro rfl
    omega
  rw [escape, if_neg (ne_of_lt (by decide)), if_neg (ne_of_lt (by decide)),
    if_neg (ne_of_lt (by decide)), if_neg (ne_of_lt (by decide)), if_neg (ne_of_lt (by decide)),
    if_neg (ne_of_lt (by decide)), if_neg (ne_of_lt (by decide)), if_neg (by omega)]

/-- A byte beyond the ASCII ones is not escaped. -/
theorem escapeByte_of_le {b : UInt8} (h : 128 ≤ b.toNat) : escapeByte b = [b] := by
  have ne_of_lt {d : UInt8} (hd : d.toNat < 128) : b ≠ d := by
    rintro rfl
    omega
  have hlt : ¬b < 0x20 := by
    rw [UInt8.lt_iff_toNat_lt]
    exact Nat.not_lt.2 (Nat.le_trans (by decide) h)
  rw [escapeByte, if_neg (ne_of_lt (by decide)), if_neg (ne_of_lt (by decide)),
    if_neg (ne_of_lt (by decide)), if_neg (ne_of_lt (by decide)), if_neg (ne_of_lt (by decide)),
    if_neg (ne_of_lt (by decide)), if_neg (ne_of_lt (by decide)), if_neg hlt]

/-- Of characters with several bytes, none of these is an ASCII one. -/
theorem le_of_mem_utf8EncodeChar {c : Char} (h : 128 ≤ c.toNat) :
    ∀ b ∈ String.utf8EncodeChar c, 128 ≤ b.toNat := by
  have hc : ¬c.val.toNat ≤ 127 := Nat.not_le.2 h
  unfold String.utf8EncodeChar
  simp only [if_neg hc]
  -- there are two, three or four bytes, each with its highest bit set
  split
  · simp [UInt8.toNat_ofNat']
    omega
  · split
    · simp [UInt8.toNat_ofNat']
      omega
    · simp [UInt8.toNat_ofNat']
      omega

/-- To escape the bytes of a character is to encode its escape. -/
theorem flatMap_escapeByte (c : Char) :
    (String.utf8EncodeChar c).flatMap escapeByte = (escape c).flatMap String.utf8EncodeChar := by
  rcases Nat.lt_or_ge c.toNat 128 with h | h
  · have hbytes : String.utf8EncodeChar c = [UInt8.ofNat c.toNat] := by
      unfold String.utf8EncodeChar
      exact if_pos (Nat.le_of_lt_succ h)
    have hc := escapeByte_ascii c.toNat h
    rw [Char.ofNat_toNat] at hc
    rw [hbytes, hc, List.flatMap_singleton]
  · rw [escape_of_le h, List.flatMap_singleton]
    calc
      _ = (String.utf8EncodeChar c).flatMap ([·]) :=
        List.flatMap_congr fun b hb => escapeByte_of_le (le_of_mem_utf8EncodeChar h b hb)
      _ = _ := by simp

/-- Escaping the bytes of a text is escaping its characters. -/
theorem bytesOf_quote (s : String) : bytesOf (quote s) = quoteBytes (bytesOf s) := by
  have h : (s.toList.flatMap escape).flatMap String.utf8EncodeChar =
      (bytesOf s).flatMap escapeByte := by
    rw [bytesOf, List.flatMap_assoc, List.flatMap_assoc]
    simp only [flatMap_escapeByte]
  rw [quoteBytes, ← h, ← bytesOf_ofList, ← bytesOf_append, ← bytesOf_append, quote]

/-! ## Values -/

/-- Bytes between commas. -/
def commaBytes (parts : List (List UInt8)) : List UInt8 := (bytesOf ",").intercalate parts

/-- Texts between commas have their bytes between commas. -/
theorem bytesOf_commas (texts : List String) :
    bytesOf (Value.commas texts) = commaBytes (texts.map bytesOf) := by
  induction texts with
  | nil => rfl
  | cons t ts ih =>
    cases ts with
    | nil => simp [Value.commas, commaBytes]
    | cons u us =>
      rw [Value.commas, String.intercalate_cons_cons, bytesOf_append, bytesOf_append]
      simp only [Value.commas, commaBytes, List.map_cons, List.intercalate_cons_cons] at ih ⊢
      rw [ih]

namespace Value

/-- The bytes that a value is written in as the name of a member: the text of an atom
    is put in quotes. -/
inductive Named : Value → List UInt8 → Prop
  | text (s : String) : Named (.text s) (quoteBytes (bytesOf s))
  | bool (b : Bool) : Named (.bool b) (quoteBytes (bytesOf (if b then "true" else "false")))
  | integer (n : Int) : Named (.integer n) (quoteBytes (bytesOf (toString n)))
  | float {x : Float} : x.isFinite = true →
      Named (.float x) (quoteBytes (bytesOf (Decimal.json.write x)))

mutual

/-- The bytes that a value is written in. -/
inductive Written : Value → List UInt8 → Prop
  | null : Written .null (bytesOf "null")
  | bool (b : Bool) : Written (.bool b) (bytesOf (if b then "true" else "false"))
  | integer (n : Int) : Written (.integer n) (bytesOf (toString n))
  | finite {x : Float} : x.isFinite = true → Written (.float x) (bytesOf (Decimal.json.write x))
  | notFinite {x : Float} : x.isFinite = false → Written (.float x) (bytesOf "null")
  | text (s : String) : Written (.text s) (quoteBytes (bytesOf s))
  | bytes (b : ByteArray) : Written (.bytes b)
      (bytesOf "[" ++ commaBytes (b.toList.map fun n => bytesOf (toString n.toNat)) ++ bytesOf "]")
  | list {vs : List Value} {parts : List (List UInt8)} : ItemsWritten vs parts →
      Written (.list vs) (bytesOf "[" ++ commaBytes parts ++ bytesOf "]")
  | map {ms : List (Value × Value)} {parts : List (List UInt8)} : MembersWritten ms parts →
      Written (.map ms) (bytesOf "\x7b" ++ commaBytes parts ++ bytesOf "\x7d")

/-- The bytes that the items of a list are written in. -/
inductive ItemsWritten : List Value → List (List UInt8) → Prop
  | nil : ItemsWritten [] []
  | cons {v : Value} {vs : List Value} {bytes : List UInt8} {parts : List (List UInt8)} :
      Written v bytes → ItemsWritten vs parts → ItemsWritten (v :: vs) (bytes :: parts)

/-- The bytes that the members of a map are written in. -/
inductive MembersWritten : List (Value × Value) → List (List UInt8) → Prop
  | nil : MembersWritten [] []
  | cons {k v : Value} {ms : List (Value × Value)} {name bytes : List UInt8}
      {parts : List (List UInt8)} : Named k name → Written v bytes → MembersWritten ms parts →
      MembersWritten ((k, v) :: ms) ((name ++ bytesOf ":" ++ bytes) :: parts)

end

/-- The bytes of a key are those of the name it has as text. -/
theorem named_iff {v : Value} {bytes : List UInt8} :
    v.Named bytes ↔ ∃ name, v.name = .ok name ∧ bytes = bytesOf name := by
  constructor
  · intro h
    cases h with
    | text s | bool b | integer n => exact ⟨_, rfl, (bytesOf_quote _).symm⟩
    | float hx => exact ⟨_, by rw [name, if_pos hx, floatText, if_pos hx], (bytesOf_quote _).symm⟩
  · rintro ⟨name, h, rfl⟩
    unfold Value.name at h
    -- only these four kinds of values can be keys
    split at h
    next s =>
      cases h
      exact bytesOf_quote s ▸ .text s
    next b =>
      cases h
      exact bytesOf_quote _ ▸ .bool b
    next n =>
      cases h
      exact bytesOf_quote _ ▸ .integer n
    next x =>
      split at h
      next hx =>
        cases h
        rw [floatText, if_pos hx]
        exact bytesOf_quote _ ▸ .float hx
      next => cases h
    all_goals cases h

/-! ### Texts of the parts -/

/-- A list has a text when its items have, and then it is these between brackets. -/
theorem text?_list_iff {vs : List Value} {t : String} : (list vs).text? = .ok t ↔
    ∃ texts, itemTexts? vs = .ok texts ∧ t = "[" ++ commas texts ++ "]" := by
  rw [text?]
  cases itemTexts? vs <;> simp [Bind.bind, Except.bind, pure, Except.pure, eq_comm]

/-- A map has a text when its members have, and then it is these between braces. -/
theorem text?_map_iff {ms : List (Value × Value)} {t : String} : (map ms).text? = .ok t ↔
    ∃ texts, memberTexts? ms = .ok texts ∧ t = "\x7b" ++ commas texts ++ "\x7d" := by
  rw [text?]
  cases memberTexts? ms <;> simp [Bind.bind, Except.bind, pure, Except.pure, eq_comm]

/-- Items have texts when the first has one and the others have. -/
theorem itemTexts?_cons_iff {v : Value} {vs : List Value} {texts : List String} :
    itemTexts? (v :: vs) = .ok texts ↔
      ∃ t ts, v.text? = .ok t ∧ itemTexts? vs = .ok ts ∧ texts = t :: ts := by
  rw [itemTexts?]
  cases v.text? <;> cases itemTexts? vs <;>
    simp [Bind.bind, Except.bind, pure, Except.pure, eq_comm]

/-- Members have texts when the key of the first has a name, its value a text, and the
    others have texts. -/
theorem memberTexts?_cons_iff {k v : Value} {ms : List (Value × Value)} {texts : List String} :
    memberTexts? ((k, v) :: ms) = .ok texts ↔
      ∃ name t ts, k.name = .ok name ∧ v.text? = .ok t ∧ memberTexts? ms = .ok ts ∧
        texts = (name ++ ":" ++ t) :: ts := by
  rw [memberTexts?]
  cases k.name <;> cases v.text? <;> cases memberTexts? ms <;>
    simp [Bind.bind, Except.bind, pure, Except.pure, eq_comm]

/-! ### Values and their parts together -/

mutual

/-- What is written by the rules are the bytes of the text. -/
theorem text?_of_written {v : Value} {out : List UInt8} :
    v.Written out → ∃ t, v.text? = .ok t ∧ out = bytesOf t
  | .null => ⟨_, rfl, rfl⟩
  | .bool _ => ⟨_, rfl, rfl⟩
  | .integer _ => ⟨_, rfl, rfl⟩
  | .finite hx => ⟨_, rfl, by rw [floatText, if_pos hx]⟩
  | .notFinite hx => ⟨_, rfl, by rw [floatText, hx]; rfl⟩
  | .text s => ⟨_, rfl, (bytesOf_quote s).symm⟩
  | .bytes b => ⟨_, rfl, by simp [bytesOf_commas, Function.comp_def]⟩
  | .list h => by
    obtain ⟨texts, ht, rfl⟩ := itemTexts?_of_written h
    exact ⟨_, text?_list_iff.2 ⟨texts, ht, rfl⟩, by simp [bytesOf_commas]⟩
  | .map h => by
    obtain ⟨texts, ht, rfl⟩ := memberTexts?_of_written h
    exact ⟨_, text?_map_iff.2 ⟨texts, ht, rfl⟩, by simp [bytesOf_commas]⟩

/-- Items that are written have texts, with those bytes. -/
theorem itemTexts?_of_written {vs : List Value} {parts : List (List UInt8)} :
    ItemsWritten vs parts → ∃ texts, itemTexts? vs = .ok texts ∧ parts = texts.map bytesOf
  | .nil => ⟨[], rfl, rfl⟩
  | .cons hv hvs => by
    obtain ⟨t, ht, rfl⟩ := text?_of_written hv
    obtain ⟨ts, hts, rfl⟩ := itemTexts?_of_written hvs
    exact ⟨t :: ts, itemTexts?_cons_iff.2 ⟨t, ts, ht, hts, rfl⟩, rfl⟩

/-- Members that are written have texts, with those bytes. -/
theorem memberTexts?_of_written {ms : List (Value × Value)} {parts : List (List UInt8)} :
    MembersWritten ms parts → ∃ texts, memberTexts? ms = .ok texts ∧ parts = texts.map bytesOf
  | .nil => ⟨[], rfl, rfl⟩
  | .cons hk hv hms => by
    obtain ⟨name, hname, rfl⟩ := named_iff.1 hk
    obtain ⟨t, ht, rfl⟩ := text?_of_written hv
    obtain ⟨ts, hts, rfl⟩ := memberTexts?_of_written hms
    exact ⟨_, memberTexts?_cons_iff.2 ⟨name, t, ts, hname, ht, hts, rfl⟩, by simp⟩

end

mutual

/-- The bytes of the text are written by the rules. -/
theorem written_of_text? : ∀ (v : Value) {t : String}, v.text? = .ok t → v.Written (bytesOf t)
  | .null, _, rfl => .null
  | .bool b, _, rfl => .bool b
  | .integer n, _, rfl => .integer n
  | .float x, _, rfl => by
    rw [floatText]
    split
    next hx => exact .finite hx
    -- the infinite ones and those that are no numbers have no text
    next hx => exact .notFinite (Bool.eq_false_iff.2 hx)
  | .text s, _, rfl => bytesOf_quote s ▸ .text s
  | .bytes b, _, rfl => by
    have h := Written.bytes b
    simpa [bytesOf_commas, Function.comp_def] using h
  | .list vs, _, h => by
    obtain ⟨texts, ht, rfl⟩ := text?_list_iff.1 h
    rw [bytesOf_append, bytesOf_append, bytesOf_commas]
    exact .list (itemsWritten_of_itemTexts? vs ht)
  | .map ms, _, h => by
    obtain ⟨texts, ht, rfl⟩ := text?_map_iff.1 h
    rw [bytesOf_append, bytesOf_append, bytesOf_commas]
    exact .map (membersWritten_of_memberTexts? ms ht)

/-- Items that have texts are written as their bytes. -/
theorem itemsWritten_of_itemTexts? : ∀ (vs : List Value) {texts : List String},
    itemTexts? vs = .ok texts → ItemsWritten vs (texts.map bytesOf)
  | [], _, rfl => .nil
  | v :: vs, _, h => by
    obtain ⟨t, ts, ht, hts, rfl⟩ := itemTexts?_cons_iff.1 h
    exact .cons (written_of_text? v ht) (itemsWritten_of_itemTexts? vs hts)

/-- Members that have texts are written as their bytes. -/
theorem membersWritten_of_memberTexts? : ∀ (ms : List (Value × Value)) {texts : List String},
    memberTexts? ms = .ok texts → MembersWritten ms (texts.map bytesOf)
  | [], _, rfl => .nil
  | (k, v) :: ms, _, h => by
    obtain ⟨name, t, ts, hname, ht, hts, rfl⟩ := memberTexts?_cons_iff.1 h
    rw [List.map_cons, bytesOf_append, bytesOf_append]
    exact .cons (named_iff.2 ⟨name, hname, rfl⟩) (written_of_text? v ht)
      (membersWritten_of_memberTexts? ms hts)

end

/-- The bytes that a value is written in are those of its text. -/
theorem written_iff {v : Value} {out : List UInt8} :
    v.Written out ↔ ∃ t, v.text? = .ok t ∧ out = bytesOf t := by
  refine ⟨text?_of_written, ?_⟩
  rintro ⟨t, ht, rfl⟩
  exact written_of_text? v ht

end Value

end Outbox.Json
