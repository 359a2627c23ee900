import Outbox.Json.Numeral
import Outbox.Proofs.Text.Integer

/-!
# How numerals are written

The grammar of numerals, apart from how they are found: the digits before the point, those
behind it and the exponent (`Numeral.Spelt`). What is found at the start of a text is a
numeral (`Numeral.spelt_of_scan`).

The start of a numeral often is a numeral, too. One is thus found only where nothing comes
that it could go on with (`Numeral.Stops`, `Numeral.scan_append`).
-/

namespace Outbox

namespace Digits

variable {cs rest : List Char} {ds : Digits}

/-- The text does not start with a digit. -/
abbrev NoDigit (cs : List Char) : Prop := ∀ c ∈ cs.head?, digit? c = none

/-- Digits are taken up to the first character that is none. -/
theorem scan_append (h : Spell cs ds) (hrest : NoDigit rest) : scan (cs ++ rest) = (ds, rest) := by
  -- By the grammar: each digit is taken before those behind it.
  induction h with
  | nil =>
    cases rest with
    | nil => rfl
    | cons c rest =>
      have hc : digit? c = none := hrest c rfl
      simp [scan, hc]
  | cons hd _ ih =>
    simp only [scan, Prod.mk.injEq] at ih ⊢
    simp [hd, ih]

/-- Whatever the text is, what is taken off its front are digits. -/
theorem spell_scan (cs : List Char) : ∃ ws, Spell ws (scan cs).1 ∧ cs = ws ++ (scan cs).2 := by
  induction cs with
  | nil => exact ⟨[], .nil, rfl⟩
  | cons c cs ih =>
    cases hd : digit? c with
    | none => exact ⟨[], by simp [scan, hd], by simp [scan, hd]⟩
    | some d =>
      obtain ⟨ws, hws, hcs⟩ := ih
      simp only [scan] at hws hcs
      refine ⟨c :: ws, ?_, ?_⟩
      · simpa [scan, hd] using hws
      · simpa [scan, hd] using hcs

end Digits

namespace Json

variable {cs rest : List Char} {ds : Digits}

namespace Numeral

/-- One or more digits. -/
def SomeDigits (ds : Digits) (cs : List Char) : Prop := cs ≠ [] ∧ Digits.Spell cs ds

/-- The digits before the point. They start with a zero only if it stands alone. -/
inductive WholeSpelt : Digits → List Char → Prop
  | zero : WholeSpelt [0] ['0']
  | digits {c : Char} {cs : List Char} {ds : Digits} : c ≠ '0' → SomeDigits ds (c :: cs) →
      WholeSpelt ds (c :: cs)

/-- A point and the digits behind it, or nothing. -/
inductive FractionSpelt : Option Digits → List Char → Prop
  | none : FractionSpelt none []
  | some {cs : List Char} {ds : Digits} : SomeDigits ds cs → FractionSpelt (some ds) ('.' :: cs)

/-- The digits of an exponent, and possibly a sign before them. -/
inductive PowerSpelt : Bool × Digits → List Char → Prop
  | unsigned {cs : List Char} {ds : Digits} : SomeDigits ds cs → PowerSpelt (false, ds) cs
  | plus {cs : List Char} {ds : Digits} : SomeDigits ds cs → PowerSpelt (false, ds) ('+' :: cs)
  | minus {cs : List Char} {ds : Digits} : SomeDigits ds cs → PowerSpelt (true, ds) ('-' :: cs)

/-- An exponent behind its mark, or nothing. -/
inductive ExponentSpelt : Option (Bool × Digits) → List Char → Prop
  | none : ExponentSpelt none []
  | some {mark : Char} {cs : List Char} {p : Bool × Digits} : mark = 'e' ∨ mark = 'E' →
      PowerSpelt p cs → ExponentSpelt (some p) (mark :: cs)

/-- The characters that a numeral without its sign is written in. -/
inductive UnsignedSpelt : Digits → Option Digits → Option (Bool × Digits) → List Char → Prop
  | mk {w : Digits} {f : Option Digits} {e : Option (Bool × Digits)} {ws fs es : List Char} :
      WholeSpelt w ws → FractionSpelt f fs → ExponentSpelt e es →
      UnsignedSpelt w f e (ws ++ (fs ++ es))

/-- The characters that a numeral is written in. -/
inductive Spelt : Numeral → List Char → Prop
  | positive {w : Digits} {f : Option Digits} {e : Option (Bool × Digits)} {cs : List Char} :
      UnsignedSpelt w f e cs → Spelt ⟨false, w, f, e⟩ cs
  | negative {w : Digits} {f : Option Digits} {e : Option (Bool × Digits)} {cs : List Char} :
      UnsignedSpelt w f e cs → Spelt ⟨true, w, f, e⟩ ('-' :: cs)

/-- Nothing a numeral could go on with. -/
def Stops (cs : List Char) : Prop :=
  ∀ c ∈ cs.head?, digit? c = none ∧ c ≠ '.' ∧ c ≠ 'e' ∧ c ≠ 'E'

/-- Where a numeral cannot go on, no digit comes. -/
theorem Stops.noDigit (h : Stops cs) : Digits.NoDigit cs := fun c hc => (h c hc).1

theorem noDigit_cons {c : Char} (h : digit? c = none) : Digits.NoDigit (c :: cs) := by
  simpa [Digits.NoDigit] using h

/-- The text starts with a digit. -/
def StartsWithDigit (cs : List Char) : Prop := ∃ c t, cs = c :: t ∧ digit? c ≠ none

/-- What comes behind does not matter. -/
theorem StartsWithDigit.append (h : StartsWithDigit cs) (rest : List Char) :
    StartsWithDigit (cs ++ rest) := by
  obtain ⟨c, t, rfl, hc⟩ := h
  exact ⟨c, t ++ rest, rfl, hc⟩

/-- It does not start with anything else. -/
theorem StartsWithDigit.ne_cons {d : Char} (h : StartsWithDigit cs) (hd : digit? d = none)
    (t : List Char) : cs ≠ d :: t := by
  obtain ⟨c, _, rfl, hc⟩ := h
  rintro ⟨rfl, -⟩
  exact hc hd

/-- There is a first one among some digits. -/
theorem SomeDigits.startsWithDigit (h : SomeDigits ds cs) : StartsWithDigit cs := by
  obtain ⟨hne, hs⟩ := h
  cases hs with
  | nil => exact absurd rfl hne
  | cons hd => exact ⟨_, _, rfl, by simp [hd]⟩

/-- What is before the point starts with a digit, be it the zero. -/
theorem WholeSpelt.startsWithDigit (h : WholeSpelt ds cs) : StartsWithDigit cs := by
  cases h with
  | zero => exact ⟨_, _, rfl, by decide⟩
  | digits _ hs => exact hs.startsWithDigit

/-- Behind its sign, a numeral starts with a digit: this tells it from a numeral with a sign. -/
theorem UnsignedSpelt.startsWithDigit {w : Digits} {f : Option Digits}
    {e : Option (Bool × Digits)} (h : UnsignedSpelt w f e cs) : StartsWithDigit cs := by
  obtain ⟨hw, -, -⟩ := h
  exact hw.startsWithDigit.append _

/-! ### Numerals are found -/

/-- Some digits are taken as a whole if no digit comes behind them. -/
theorem scanSomeDigits_append (h : SomeDigits ds cs) (hrest : Digits.NoDigit rest) :
    scanSomeDigits (cs ++ rest) = some (ds, rest) := by
  obtain ⟨hne, hs⟩ := h
  rw [scanSomeDigits, Digits.scan_append hs hrest]
  cases hs with
  | nil => exact absurd rfl hne
  | cons => rfl

/-- A zero is taken by itself, and other digits as far as they go. -/
theorem scanWhole_append (h : WholeSpelt ds cs) (hrest : Digits.NoDigit rest) :
    scanWhole (cs ++ rest) = some (ds, rest) := by
  cases h with
  | zero => rfl
  | digits hc hs =>
    rw [← scanSomeDigits_append hs hrest, List.cons_append, scanWhole]
    -- The first digit is not a zero, which would end the digits.
    rintro _ ⟨rfl, -⟩
    exact hc rfl

/-- That no point comes is needed if there is no fraction, which would be taken to start there. -/
theorem scanFraction_append {f : Option Digits} (h : FractionSpelt f cs)
    (hrest : Digits.NoDigit rest) (hpoint : ∀ c ∈ rest.head?, c ≠ '.') :
    scanFraction (cs ++ rest) = some (f, rest) := by
  cases h with
  | none =>
    rw [List.nil_append, scanFraction]
    rintro _ rfl
    exact hpoint _ rfl rfl
  | some hs => rw [List.cons_append, scanFraction, scanSomeDigits_append hs hrest, Option.map_some]

/-- The sign of an exponent is not taken for a digit, nor a digit for a sign. -/
theorem scanPower_append {p : Bool × Digits} (h : PowerSpelt p cs) (hrest : Digits.NoDigit rest) :
    scanPower (cs ++ rest) = some (p, rest) := by
  cases h with
  | unsigned hs =>
    have hd := hs.startsWithDigit.append rest
    rw [scanPower, scanSomeDigits_append hs hrest, Option.map_some]
    · -- A digit is no sign.
      exact hd.ne_cons (by decide)
    · exact hd.ne_cons (by decide)
  | plus hs => rw [List.cons_append, scanPower, scanSomeDigits_append hs hrest, Option.map_some]
  | minus hs => rw [List.cons_append, scanPower, scanSomeDigits_append hs hrest, Option.map_some]

/-- That no mark comes is needed if there is no exponent, which would be taken to start there. -/
theorem scanExponent_append {e : Option (Bool × Digits)} (h : ExponentSpelt e cs)
    (hrest : Stops rest) : scanExponent (cs ++ rest) = some (e, rest) := by
  cases h with
  | none =>
    rw [List.nil_append, scanExponent]
    · rintro _ rfl
      exact (hrest _ rfl).2.2.1 rfl
    · rintro _ rfl
      exact (hrest _ rfl).2.2.2 rfl
  | some hmark hp =>
    obtain rfl | rfl := hmark <;>
      rw [List.cons_append, scanExponent, scanPower_append hp hrest.noDigit, Option.map_some]

/-- Neither a digit nor a point comes next. -/
theorem ExponentSpelt.append_head {e : Option (Bool × Digits)} (h : ExponentSpelt e cs)
    (hrest : Stops rest) : Digits.NoDigit (cs ++ rest) ∧ ∀ c ∈ (cs ++ rest).head?, c ≠ '.' := by
  cases h with
  | none => exact ⟨hrest.noDigit, fun c hc => (hrest c hc).2.1⟩
  | some hmark => obtain rfl | rfl := hmark <;> exact ⟨noDigit_cons (by decide), by simp⟩

/-- The parts of a numeral are taken one after another. -/
theorem scanUnsigned_eq_some_iff {negative : Bool} {n : Numeral} :
    scanUnsigned negative cs = some (n, rest) ↔ ∃ cs₁ cs₂, scanWhole cs = some (n.whole, cs₁) ∧
      scanFraction cs₁ = some (n.fraction, cs₂) ∧ scanExponent cs₂ = some (n.exponent, rest) ∧
      n.negative = negative := by
  obtain ⟨sign, w, f, e⟩ := n
  simp only [scanUnsigned, Option.bind_eq_bind, Option.bind_eq_some_iff, Prod.exists, pure,
    Option.some.injEq, Prod.mk.injEq, mk.injEq]
  constructor
  · rintro ⟨_, cs₁, hw, _, cs₂, hf, _, _, he, ⟨rfl, rfl, rfl, rfl⟩, rfl⟩
    exact ⟨cs₁, cs₂, hw, hf, he, rfl⟩
  · rintro ⟨cs₁, cs₂, hw, hf, he, rfl⟩
    exact ⟨w, cs₁, hw, f, cs₂, hf, e, rest, he, ⟨rfl, rfl, rfl, rfl⟩, rfl⟩

/-- Each part ends where the next one begins: an exponent with its mark, a fraction with its
    point. -/
theorem scanUnsigned_append {w : Digits} {f : Option Digits} {e : Option (Bool × Digits)}
    (negative : Bool) (h : UnsignedSpelt w f e cs) (hrest : Stops rest) :
    scanUnsigned negative (cs ++ rest) = some (⟨negative, w, f, e⟩, rest) := by
  obtain ⟨hw, hf, he⟩ := h
  obtain ⟨hdigit, hpoint⟩ := he.append_head hrest
  rw [List.append_assoc, List.append_assoc, scanUnsigned_eq_some_iff]
  -- The digits before the point end with a point, a mark, or the numeral.
  refine ⟨_, _, scanWhole_append hw ?_, scanFraction_append hf hdigit hpoint,
    scanExponent_append he hrest, rfl⟩
  cases hf with
  | none => exact hdigit
  | some => exact noDigit_cons (by decide)

/-- A numeral is found at the start of a text if nothing comes that it could go on with. -/
theorem scan_append {n : Numeral} (h : n.Spelt cs) (hrest : Stops rest) :
    scan (cs ++ rest) = some (n, rest) := by
  cases h with
  | negative hu => exact scanUnsigned_append true hu hrest
  | positive hu =>
    rw [← scanUnsigned_append false hu hrest, scan]
    exact (hu.startsWithDigit.append rest).ne_cons (by decide)

/-! ### What is found is a numeral -/

/-- At least one digit is taken. -/
theorem someDigits_of_scan (h : scanSomeDigits cs = some (ds, rest)) :
    ∃ ws, SomeDigits ds ws ∧ cs = ws ++ rest := by
  obtain ⟨ws, hws, hcs⟩ := Digits.spell_scan cs
  rw [scanSomeDigits] at h
  split at h
  · cases h
  next hne =>
    rw [Option.some.inj h] at hws hcs hne
    refine ⟨ws, ⟨?_, hws⟩, hcs⟩
    rintro rfl
    cases hws
    exact hne rest rfl

/-- A zero that is not taken by itself is not taken as the first of some digits either. -/
theorem wholeSpelt_of_scan (h : scanWhole cs = some (ds, rest)) :
    ∃ ws, WholeSpelt ds ws ∧ cs = ws ++ rest := by
  rw [scanWhole.eq_def] at h
  split at h
  · obtain ⟨rfl, rfl⟩ := Prod.mk.inj (Option.some.inj h)
    exact ⟨['0'], .zero, rfl⟩
  next hzero =>
    obtain ⟨ws, hws, rfl⟩ := someDigits_of_scan h
    cases ws with
    | nil => exact absurd rfl hws.1
    | cons c ws =>
      refine ⟨c :: ws, .digits ?_ hws, rfl⟩
      rintro rfl
      exact hzero _ rfl

/-- What is taken for a fraction is one, possibly none at all. -/
theorem fractionSpelt_of_scan {f : Option Digits} (h : scanFraction cs = some (f, rest)) :
    ∃ ws, FractionSpelt f ws ∧ cs = ws ++ rest := by
  rw [scanFraction.eq_def] at h
  split at h
  · simp only [Option.map_eq_some_iff, Prod.exists, Prod.mk.injEq] at h
    obtain ⟨ds, _, hds, rfl, rfl⟩ := h
    obtain ⟨ws, hws, rfl⟩ := someDigits_of_scan hds
    exact ⟨'.' :: ws, .some hws, rfl⟩
  · obtain ⟨rfl, rfl⟩ := Prod.mk.inj (Option.some.inj h)
    exact ⟨[], .none, rfl⟩

/-- What is taken for the digits of an exponent are such, with or without a sign. -/
theorem powerSpelt_of_scan {p : Bool × Digits} (h : scanPower cs = some (p, rest)) :
    ∃ ws, PowerSpelt p ws ∧ cs = ws ++ rest := by
  rw [scanPower.eq_def] at h
  split at h <;> simp only [Option.map_eq_some_iff, Prod.exists, Prod.mk.injEq] at h <;>
    obtain ⟨ds, _, hds, rfl, rfl⟩ := h <;> obtain ⟨ws, hws, rfl⟩ := someDigits_of_scan hds
  · exact ⟨'+' :: ws, .plus hws, rfl⟩
  · exact ⟨'-' :: ws, .minus hws, rfl⟩
  · exact ⟨ws, .unsigned hws, rfl⟩

/-- What is taken for an exponent is one, possibly none at all. -/
theorem exponentSpelt_of_scan {e : Option (Bool × Digits)} (h : scanExponent cs = some (e, rest)) :
    ∃ ws, ExponentSpelt e ws ∧ cs = ws ++ rest := by
  rw [scanExponent.eq_def] at h
  split at h
  iterate 2
    · simp only [Option.map_eq_some_iff, Prod.exists, Prod.mk.injEq] at h
      obtain ⟨_, ds, _, hp, rfl, rfl⟩ := h
      obtain ⟨ws, hws, rfl⟩ := powerSpelt_of_scan hp
      exact ⟨_ :: ws, .some (by decide) hws, rfl⟩
  · obtain ⟨rfl, rfl⟩ := Prod.mk.inj (Option.some.inj h)
    exact ⟨[], .none, rfl⟩

/-- The parts that are taken make up a numeral without its sign. -/
theorem unsignedSpelt_of_scan {negative : Bool} {n : Numeral}
    (h : scanUnsigned negative cs = some (n, rest)) :
    ∃ ws, UnsignedSpelt n.whole n.fraction n.exponent ws ∧ cs = ws ++ rest ∧
      n.negative = negative := by
  obtain ⟨_, _, hw, hf, he, hsign⟩ := scanUnsigned_eq_some_iff.1 h
  obtain ⟨ws, hws, rfl⟩ := wholeSpelt_of_scan hw
  obtain ⟨fs, hfs, rfl⟩ := fractionSpelt_of_scan hf
  obtain ⟨es, hes, rfl⟩ := exponentSpelt_of_scan he
  exact ⟨ws ++ (fs ++ es), .mk hws hfs hes, by simp, hsign⟩

/-- What is found at the start of a text is a numeral. -/
theorem spelt_of_scan {n : Numeral} (h : scan cs = some (n, rest)) :
    ∃ ws, n.Spelt ws ∧ cs = ws ++ rest := by
  obtain ⟨negative, w, f, e⟩ := n
  rw [scan.eq_def] at h
  split at h <;> obtain ⟨ws, hws, rfl, hsign⟩ := unsignedSpelt_of_scan h <;> cases hsign
  · exact ⟨'-' :: ws, .negative hws, rfl⟩
  · exact ⟨ws, .positive hws, rfl⟩

end Numeral

end Json

end Outbox
