import Mathlib.Data.List.Chain
import Outbox.Json.Token
import Outbox.Proofs.Json.Numerals

/-!
# How tokens are written

The characters that strings and tokens are written in (`Spelling.Spelt`, `Token.Spelt`), and
texts as tokens with blanks around them (`Lexed`).

A text may be cut into tokens in several ways, as the digits of a numeral are numerals
themselves. Only one of these is looked for. Tokens that stand apart are found in every text
that they can be written in (`Token.scan?_of_lexed`).
-/

namespace Outbox.Json

variable {cs rest : List Char}

/-! ## Strings -/

namespace Spelling

/-- The characters that the pieces of a string are written in. A quote, a backslash and
    control characters must be escaped. -/
inductive Spelt : Spelling → List Char → Prop
  | nil : Spelt [] []
  | char {c : Char} {s : Spelling} {cs : List Char} : c ≠ '"' → c ≠ '\\' → 0x20 ≤ c.toNat →
      Spelt s cs → Spelt (.char c :: s) (c :: cs)
  | escape {e c : Char} {s : Spelling} {cs : List Char} : escaped? e = some c → Spelt s cs →
      Spelt (.char c :: s) ('\\' :: e :: cs)
  | unit {a b c d : Char} {n : Nat} {s : Spelling} {cs : List Char} :
      codeUnit? a b c d = some n → Spelt s cs →
      Spelt (.unit n :: s) ('\\' :: 'u' :: a :: b :: c :: d :: cs)

/-- A string is found up to its closing quote, behind the pieces that were seen before. -/
theorem scan_append {s : Spelling} (h : s.Spelt cs) (seen : List Piece) :
    scan seen (cs ++ '"' :: rest) = some (seen.reverse ++ s, rest) := by
  -- By the pieces of the string; the pieces seen before pile up in reverse.
  induction h generalizing seen with
  | nil => simp [scan]
  | @char c s cs hquote hslash hctrl _ ih =>
    rw [List.cons_append, scan, if_neg (by omega), ih]
    · simp
    · exact hquote
    · rintro _ _ _ _ _ rfl
      exact absurd rfl hslash
    · rintro _ _ rfl
      exact absurd rfl hslash
  | @escape e c s cs he _ ih =>
    rw [List.cons_append, List.cons_append, scan, he]
    · simp [ih]
    · rintro _ _ _ _ _ rfl
      cases he
  | unit hn _ ih => simp [scan, hn, ih]

/-- What is found in front of a closing quote are the pieces of a string. -/
theorem spelt_of_scan {seen : List Piece} {s : Spelling} (h : scan seen cs = some (s, rest)) :
    ∃ t ws, Spelt t ws ∧ s = seen.reverse ++ t ∧ cs = ws ++ '"' :: rest := by
  -- By the steps of the scan, one case for each of its branches.
  fun_induction scan seen cs with
  | case1 => cases h
  | case2 seen cs =>
    obtain ⟨rfl, rfl⟩ := Prod.mk.inj (Option.some.inj h)
    exact ⟨[], [], .nil, by simp, rfl⟩
  -- No closing quote comes.
  | case3 => cases h
  | case4 seen a b c d cs n hn ih =>
    obtain ⟨t, ws, ht, rfl, rfl⟩ := ih h
    exact ⟨_, _, .unit hn ht, by simp, rfl⟩
  | case5 => cases h
  | case6 seen e cs _ c hc ih =>
    obtain ⟨t, ws, ht, rfl, rfl⟩ := ih h
    exact ⟨_, _, .escape hc ht, by simp, rfl⟩
  | case7 => cases h
  | case8 seen c cs hquote hunit hslash hctrl ih =>
    obtain ⟨t, ws, ht, rfl, rfl⟩ := ih h
    refine ⟨_, _, .char hquote ?_ (by omega) ht, by simp, rfl⟩
    rintro rfl
    cases ws with
    | nil => exact hslash _ _ rfl rfl
    | cons e ws => exact hslash _ _ rfl rfl

end Spelling

/-! ## Tokens -/

namespace Token

/-- The characters that a token is written in. -/
inductive Spelt : Token → List Char → Prop
  | leftBrace : Spelt .leftBrace ['\x7b']
  | rightBrace : Spelt .rightBrace ['\x7d']
  | leftBracket : Spelt .leftBracket ['[']
  | rightBracket : Spelt .rightBracket [']']
  | comma : Spelt .comma [',']
  | colon : Spelt .colon [':']
  | null : Spelt .null ['n', 'u', 'l', 'l']
  | isTrue : Spelt (.bool true) ['t', 'r', 'u', 'e']
  | isFalse : Spelt (.bool false) ['f', 'a', 'l', 's', 'e']
  | string {s : Spelling} {cs : List Char} : s.Spelt cs → Spelt (.string s) ('"' :: (cs ++ ['"']))
  | numeral {n : Numeral} {cs : List Char} : n.Spelt cs → Spelt (.numeral n) cs

variable {t : Token} {ts : List Token}

/-- The token ends where the text does, or by itself. -/
def EndsAt (t : Token) (rest : List Char) : Prop := ∀ n, t = .numeral n → Numeral.Stops rest

/-- By its first character, a sign or a digit, a numeral is not taken for another token. -/
theorem scanOne_numeral {n : Numeral} (h : n.Spelt cs) :
    scanOne (cs ++ rest) = (Numeral.scan (cs ++ rest)).map fun (n, rest) => (.numeral n, rest) := by
  have hne (c : Char) (hc : digit? c = none) (hc' : c ≠ '-') (t : List Char) :
      cs ++ rest ≠ c :: t := by
    cases h with
    | positive hu => exact (hu.startsWithDigit.append rest).ne_cons hc t
    | negative => exact fun h => hc' (List.cons.inj h).1.symm
  rw [scanOne] <;> exact fun t h => hne _ (by decide) (by decide) _ h

/-- A token is found at the start of a text, unless it is a numeral that could go on. -/
theorem scanOne_append (h : t.Spelt cs) (hrest : t.EndsAt rest) :
    scanOne (cs ++ rest) = some (t, rest) := by
  cases h with
  | string hs => simp [scanOne, Spelling.scan_append hs]
  | numeral hn =>
    rw [scanOne_numeral hn, Numeral.scan_append hn (hrest _ rfl), Option.map_some]
  | _ => rfl

/-- What is found at the start of a text is a token. -/
theorem spelt_of_scanOne (h : scanOne cs = some (t, rest)) :
    ∃ ws, t.Spelt ws ∧ cs = ws ++ rest := by
  rw [scanOne.eq_def] at h
  split at h
  iterate 9
    · obtain ⟨rfl, rfl⟩ := Prod.mk.inj (Option.some.inj h)
      exact ⟨_, by constructor, rfl⟩
  · simp only [Option.map_eq_some_iff, Prod.exists, Prod.mk.injEq] at h
    obtain ⟨s, _, hs, rfl, rfl⟩ := h
    obtain ⟨_, ws, hws, rfl, rfl⟩ := Spelling.spelt_of_scan hs
    exact ⟨_, .string hws, by simp⟩
  · simp only [Option.map_eq_some_iff, Prod.exists, Prod.mk.injEq] at h
    obtain ⟨n, _, hn, rfl, rfl⟩ := h
    obtain ⟨ws, hws, rfl⟩ := Numeral.spelt_of_scan hn
    exact ⟨ws, .numeral hws, rfl⟩

/-- A token starts with a character that is no blank. -/
theorem Spelt.exists_cons (h : t.Spelt cs) : ∃ c ws, cs = c :: ws ∧ isBlank c = false := by
  cases h with
  | numeral hn =>
    cases hn with
    | negative => exact ⟨_, _, rfl, by decide⟩
    | positive hu =>
      obtain ⟨c, ws, rfl, hc⟩ := hu.startsWithDigit
      refine ⟨c, ws, rfl, Bool.eq_false_iff.2 fun hb => ?_⟩
      simp only [isBlank, Bool.or_eq_true, decide_eq_true_eq] at hb
      obtain ((rfl | rfl) | rfl) | rfl := hb <;> exact absurd hc (by decide)
  | _ => exact ⟨_, _, rfl, by decide⟩

end Token

/-! ## Texts -/

/-- The text is the tokens one after the other, with blanks around them. -/
inductive Lexed : List Token → List Char → Prop
  | nil : Lexed [] []
  | blank {c : Char} {ts : List Token} {cs : List Char} : isBlank c = true → Lexed ts cs →
      Lexed ts (c :: cs)
  | token {t : Token} {ts : List Token} {ws cs : List Char} : t.Spelt ws → Lexed ts cs →
      Lexed (t :: ts) (ws ++ cs)

/-- The token is a comma or a closing bracket. -/
def Token.Closes (t : Token) : Prop := t = .comma ∨ t = .rightBracket ∨ t = .rightBrace

/-- Where the first token is a numeral, the second one ends it. -/
def Token.Apart (t u : Token) : Prop := ∀ n, t = .numeral n → u.Closes

variable {t : Token} {ts us : List Token}

/-- Blanks in front of the tokens change nothing. -/
theorem Lexed.blanks {bs : List Char} (hbs : ∀ b ∈ bs, isBlank b = true) (h : Lexed ts cs) :
    Lexed ts (bs ++ cs) := by
  induction bs with
  | nil => exact h
  | cons b bs ih =>
    rw [List.forall_mem_cons] at hbs
    exact .blank hbs.1 (ih hbs.2)

/-- Texts with tokens can be put one behind the other. -/
theorem Lexed.append (h : Lexed ts cs) (h' : Lexed us rest) : Lexed (ts ++ us) (cs ++ rest) := by
  induction h with
  | nil => exact h'
  | blank hb _ ih => exact .blank hb ih
  | token ht _ ih =>
    rw [List.append_assoc]
    exact .token ht ih

/-- With no token, or with a closing bracket or a comma as its first one, no numeral could
    go on in the text. -/
theorem Lexed.stops (h : Lexed ts cs) (hts : ∀ t ∈ ts.head?, t.Closes) : Numeral.Stops cs := by
  cases h with
  | nil => nofun
  | blank hb =>
    rintro _ ⟨⟩
    simp only [isBlank, Bool.or_eq_true, decide_eq_true_eq] at hb
    obtain ((rfl | rfl) | rfl) | rfl := hb <;> decide
  | token ht =>
    obtain rfl | rfl | rfl := hts _ rfl <;> cases ht <;> rintro _ ⟨⟩ <;> decide

/-- A token ends where the text of those behind it begins, if it stands apart from the first
    of them. -/
theorem Lexed.endsAt (h : Lexed ts cs) (ha : (t :: ts).IsChain Token.Apart) : t.EndsAt cs := by
  intro n hn
  refine h.stops fun u hu => ?_
  cases ts with
  | nil => cases hu
  | cons _ ts =>
    cases hu
    exact (List.isChain_cons_cons.1 ha).1 n hn

/-- Tokens that stand apart are found. -/
theorem Token.scanFrom_of_lexed (h : Lexed ts cs) (ha : ts.IsChain Token.Apart) {fuel : Nat}
    (hfuel : cs.length ≤ fuel) (seen : List Token) :
    scanFrom fuel seen cs = some (seen.reverse ++ ts) := by
  induction h generalizing fuel seen with
  | nil => simp [scanFrom]
  | blank hb _ ih =>
    obtain ⟨fuel, rfl⟩ := Nat.exists_eq_add_one.2 (Nat.zero_lt_of_lt hfuel)
    rw [scanFrom, if_pos hb]
    exact ih ha (Nat.le_of_succ_le_succ hfuel) seen
  | @token t ts ws cs ht htail ih =>
    have hone := scanOne_append ht (htail.endsAt ha)
    -- the first character is taken with the token, so there is enough fuel for the others
    obtain ⟨c, ws, rfl, hc⟩ := ht.exists_cons
    obtain ⟨fuel, rfl⟩ := Nat.exists_eq_add_one.2 (Nat.zero_lt_of_lt hfuel)
    rw [List.cons_append] at hone hfuel ⊢
    simp only [List.length_cons, List.length_append] at hfuel
    have hseen : scanFrom fuel (t :: seen) cs = some ((t :: seen).reverse ++ ts) :=
      ih ha.tail (by omega) _
    rw [scanFrom, if_neg (by simp [hc]), hone]
    simpa using hseen

/-- What is taken off a text are tokens that it can be written in. -/
theorem Token.lexed_of_scanFrom {fuel : Nat} {seen : List Token}
    (h : scanFrom fuel seen cs = some ts) : ∃ us, Lexed us cs ∧ ts = seen.reverse ++ us := by
  fun_induction scanFrom fuel seen cs with
  | case1 => exact ⟨[], .nil, by simpa using (Option.some.inj h).symm⟩
  | case2 => cases h
  | case3 _ _ _ _ hb ih =>
    obtain ⟨us, hus, rfl⟩ := ih h
    exact ⟨us, .blank hb hus, rfl⟩
  | case4 => cases h
  | case5 _ _ _ _ _ _ _ hone ih =>
    obtain ⟨us, hus, rfl⟩ := ih h
    obtain ⟨ws, hws, hcs⟩ := spelt_of_scanOne hone
    rw [hcs]
    exact ⟨_, .token hws hus, by simp⟩

/-- Of all ways to cut a text into tokens, the one in which they stand apart is found. -/
theorem Token.scan?_of_lexed (h : Lexed ts cs) (ha : ts.IsChain Token.Apart) :
    scan? cs = some ts := scanFrom_of_lexed h ha (Nat.le_refl _) []

/-- The text is one of the tokens that are found in it. -/
theorem Token.lexed_of_scan? (h : scan? cs = some ts) : Lexed ts cs := by
  obtain ⟨us, hus, rfl⟩ := lexed_of_scanFrom h
  exact hus

end Outbox.Json
