import Outbox.Json.Fields

/-!
# What plain values stand for

The truth values, numbers and texts that a document stands for, apart from how these are
read. A whole number has no sign, point or exponent. A string stands for a text unless it
holds half of a surrogate pair (`Spelling.Says`).
-/

namespace Outbox.Json

namespace Spelling

/-- The text that a string stands for. A code unit stands for a character, or two of them
    that are the halves of a pair. -/
inductive Says : Spelling → List Char → Prop
  | nil : Says [] []
  | char {c : Char} {s : Spelling} {cs : List Char} : Says s cs → Says (.char c :: s) (c :: cs)
  | unit {n : Nat} {s : Spelling} {cs : List Char} : n < 0xD800 ∨ 0xDFFF < n → Says s cs →
      Says (.unit n :: s) (Char.ofNat n :: cs)
  | pair {high low : Nat} {s : Spelling} {cs : List Char} : 0xD800 ≤ high → high < 0xDC00 →
      0xDC00 ≤ low → low ≤ 0xDFFF → Says s cs →
      Says (.unit high :: .unit low :: s)
        (Char.ofNat (0x10000 + (high - 0xD800) * 0x400 + (low - 0xDC00)) :: cs)

/-- What is decoded is what the spelling says. -/
theorem says_of_text? {s : Spelling} {cs : List Char} (h : text? s = some cs) : s.Says cs := by
  fun_induction text? s generalizing cs with
  | case1 =>
    obtain rfl := Option.some.inj h
    exact .nil
  | case2 c s ih =>
    obtain ⟨cs, hcs, rfl⟩ := Option.map_eq_some_iff.1 h
    exact .char (ih hcs)
  | case3 n s hn ih =>
    obtain ⟨cs, hcs, rfl⟩ := Option.map_eq_some_iff.1 h
    exact .unit hn (ih hcs)
  | case4 n hn m s hm c =>
    rename_i ih
    obtain ⟨cs, hcs, rfl⟩ := Option.map_eq_some_iff.1 h
    exact .pair (by omega) hm.1 hm.2.1 hm.2.2 (ih hcs)
  | case5 => cases h
  | case6 => cases h

/-- What a spelling says is decoded. -/
theorem Says.text? {s : Spelling} {cs : List Char} (h : s.Says cs) : text? s = some cs := by
  induction h with
  | nil => rfl
  | char _ ih => rw [Spelling.text?, ih, Option.map_some]
  | unit hn _ ih =>
    rw [Spelling.text?.eq_def]
    simp only [if_pos hn, ih, Option.map_some]
  | pair hhigh hhigh' hlow hlow' _ ih =>
    rw [Spelling.text?, if_neg (by omega)]
    simp only [ih, Option.map_some]
    rw [if_pos ⟨hhigh', hlow, hlow'⟩]

/-- A spelling is read as a string just when it says the characters of it. -/
theorem string?_eq_some_iff {s : Spelling} {t : String} :
    string? s = some t ↔ s.Says t.toList := by
  rw [string?, Option.map_eq_some_iff]
  constructor
  · rintro ⟨cs, hcs, rfl⟩
    rw [String.toList_ofList]
    exact says_of_text? hcs
  · exact fun h => ⟨t.toList, h.text?, String.ofList_toList⟩

end Spelling

namespace Document

/-- The truth value of a document. -/
inductive DenotesTruth : Document → Bool → Prop
  | mk (b : Bool) : DenotesTruth (.bool b) b

/-- The whole number of a document, up to a limit. -/
inductive DenotesCount (limit : Nat) : Document → Nat → Prop
  | mk {ds : Digits} : ds.value ≤ limit →
      DenotesCount limit (.numeral ⟨false, ds, none, none⟩) ds.value

/-- The double of a document. -/
inductive DenotesDouble : Document → Float → Prop
  | mk {n : Numeral} {x : Float} : n.toFloat? = some x → DenotesDouble (.numeral n) x

/-- The text of a document. -/
inductive DenotesText : Document → String → Prop
  | mk {s : Spelling} {t : String} : s.Says t.toList → DenotesText (.string s) t

/-- The text of a document, or nothing. -/
inductive DenotesOptionalText : Document → Option String → Prop
  | null : DenotesOptionalText .null none
  | text {d : Document} {t : String} : d.DenotesText t → DenotesOptionalText d (some t)

variable {d : Document}

/-- A document is read as a truth value just when it denotes it. -/
theorem bool?_eq_some_iff {b : Bool} : d.bool? = some b ↔ d.DenotesTruth b := by
  constructor
  · intro h
    cases d <;> cases h
    exact .mk _
  · rintro ⟨⟩
    rfl

/-- A document is read as a count up to a limit just when it denotes such a count. -/
theorem upTo?_eq_some_iff {limit n : Nat} :
    d.upTo? limit = some n ↔ d.DenotesCount limit n := by
  constructor
  · intro h
    cases d with
    | numeral num =>
      rw [upTo?, Numeral.natural?, Option.ite_none_left_eq_some, Digits.upTo?_eq_some_iff] at h
      obtain ⟨hform, rfl, hle⟩ := h
      obtain ⟨_ | _, ds, _ | _, _ | _⟩ := num <;> simp at hform
      exact .mk hle
    | _ => cases h
  · rintro ⟨hle⟩
    exact Digits.upTo?_eq_some_iff.2 ⟨rfl, hle⟩

/-- A document is read as a double just when it denotes it. -/
theorem float?_eq_some_iff {x : Float} : d.float? = some x ↔ d.DenotesDouble x := by
  constructor
  · intro h
    cases d with
    | numeral => exact .mk h
    | _ => cases h
  · rintro ⟨h⟩
    exact h

/-- A document is read as a text just when it denotes it. -/
theorem text?_eq_some_iff {t : String} : d.text? = some t ↔ d.DenotesText t := by
  constructor
  · intro h
    cases d with
    | string => exact .mk (Spelling.string?_eq_some_iff.1 h)
    | _ => cases h
  · rintro ⟨h⟩
    exact Spelling.string?_eq_some_iff.2 h

/-- A document is read as a text that may be missing just when it denotes one, or is null. -/
theorem optionalText?_eq_some_iff {t : Option String} :
    d.optionalText? = some t ↔ d.DenotesOptionalText t := by
  constructor
  · intro h
    cases d with
    | null =>
      obtain rfl := Option.some.inj h
      exact .null
    | string =>
      obtain ⟨t, ht, rfl⟩ := Option.map_eq_some_iff.1 h
      exact .text (text?_eq_some_iff.1 ht)
    | _ => cases h
  · rintro (_ | ht)
    · rfl
    · have htext := text?_eq_some_iff.2 ht
      obtain ⟨hs⟩ := ht
      exact Option.map_eq_some_iff.2 ⟨_, htext, rfl⟩

end Document

end Outbox.Json
