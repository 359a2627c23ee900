import Outbox.Json.Numeral
import Outbox.Proofs.Double.Overflow
import Outbox.Proofs.Json.Numerals

/-!
# Which numerals are doubles

A numeral is a double unless it is too large. How large it is says `Numeral.size`, exactly,
whereas the reader keeps as many digits as fit, and rounds twice: the number they form, and
the product with a power of ten. All of this changes the number by a few hundredths at most
(`Numeral.exists_found`, `Double.Rounds.near`). So all numerals up to `10 ^ 308` are read, and none
from `2 · 10 ^ 308` on (`Numeral.ranged`); the largest double is between them.
-/

namespace Outbox

namespace Digits

variable {ds : Digits}

/-- Digits are put behind a number one after the other. -/
theorem behind_append (n : ℕ) (ds ds' : Digits) :
    behind n (ds ++ ds') = behind (behind n ds) ds' := List.foldl_append

/-- Digits behind a number take it at most to the next one. -/
theorem behind_bounds (h : ∀ d ∈ ds, d < 10) (n : ℕ) :
    n * 10 ^ ds.length ≤ behind n ds ∧ behind n ds < (n + 1) * 10 ^ ds.length := by
  induction ds generalizing n with
  | nil => simp [behind]
  | cons d ds ih =>
    rw [List.forall_mem_cons] at h
    obtain ⟨hd, h⟩ := h
    obtain ⟨hlow, hhigh⟩ := ih h (10 * n + d)
    rw [List.length_cons, Nat.pow_succ]
    constructor
    · calc n * (10 ^ ds.length * 10) = 10 * n * 10 ^ ds.length := by ring
        _ ≤ (10 * n + d) * 10 ^ ds.length := Nat.mul_le_mul_right _ (Nat.le_add_right _ _)
        _ ≤ _ := hlow
    · calc behind (10 * n + d) ds < (10 * n + d + 1) * 10 ^ ds.length := hhigh
        _ ≤ (10 * (n + 1)) * 10 ^ ds.length := Nat.mul_le_mul_right _ (by omega)
        _ = _ := by ring

/-- What characters spell are decimal digits. -/
theorem lt_of_spell {cs : List Char} (h : Spell cs ds) : ∀ d ∈ ds, d < 10 := by
  induction h with
  | nil => exact List.forall_mem_nil _
  | cons hd _ ih => exact List.forall_mem_cons.2 ⟨lt_of_digit?_eq_some hd, ih⟩

end Digits

namespace Json.Numeral

open Digits Double Float.Model

/-! ## Sizes -/

/-- The digits but for those of the exponent. -/
def digits (n : Numeral) : Digits := n.whole ++ n.fraction.getD []

/-- The exponent, zero if there is none. -/
def power (n : Numeral) : ℤ :=
  match n.exponent with
  | none => 0
  | some (false, ds) => ds.value
  | some (true, ds) => -ds.value

/-- How far the number is from zero. -/
def size (n : Numeral) : ℚ := n.digits.value * 10 ^ (n.power - (n.fraction.getD []).length)

/-! ## The digits that are kept -/

/-- The numbers differ by a hundredth of either at most. -/
def Near (a b : ℕ) : Prop := 100 * a ≤ 101 * b ∧ 100 * b ≤ 101 * a

/-- Numbers between the same two multiples of `w` are near each other, from the hundredth
    multiple on. -/
theorem near_of_bounds {a b s w : ℕ} (hs : 100 ≤ s) (ha : s * w ≤ a ∧ a < (s + 1) * w)
    (hb : s * w ≤ b ∧ b < (s + 1) * w) : Near a b := by
  have hw : 100 * w ≤ s * w := Nat.mul_le_mul_right w hs
  rw [Nat.add_mul, Nat.one_mul] at ha hb
  constructor <;> omega

variable {n : Numeral} {v taken : ℕ} {ds : Digits}

/-- Digits are appended up to the first one that does not fit. -/
theorem significand_eq (v taken : ℕ) (ds : Digits) : ∃ kept rest, ds = kept ++ rest ∧
    significand v taken ds = (behind v kept, taken + kept.length, rest.length) ∧
    (v ≤ significandLimit → behind v kept ≤ significandLimit) ∧
    ∀ d ∈ rest.head?, significandLimit < 10 * behind v kept + d := by
  -- over the digits left: either the next one still fits, or it and all after it are left out
  induction ds generalizing v taken with
  | nil => exact ⟨[], [], rfl, rfl, id, nofun⟩
  | cons d ds ih =>
    rw [significand]
    split
    next hfits =>
      obtain ⟨kept, rest, rfl, heq, hle, hrest⟩ := ih (10 * v + d) (taken + 1)
      refine ⟨d :: kept, rest, rfl, ?_, fun _ => hle hfits, hrest⟩
      rw [heq, List.length_cons, Nat.add_right_comm]
      rfl
    next hlarge =>
      refine ⟨[], d :: ds, rfl, rfl, id, fun d' hd' => ?_⟩
      obtain rfl := Option.some.inj hd'
      exact Nat.lt_of_not_le hlarge

/-- A number that has no room for another digit has many. -/
theorem hundred_le {d : ℕ} (hd : d < 10) (h : significandLimit < 10 * v + d) : 100 ≤ v := by
  have hlimit : significandLimit = 18446744073709551615 := rfl
  omega

/-- If all digits before the point are kept, only the last ones are missing. -/
theorem near_of_kept {a b : Digits} (hb : ∀ d ∈ b, d < 10)
    (h : ∀ d ∈ b.head?, significandLimit < 10 * behind v a + d) :
    Near (behind v a * 10 ^ b.length) (behind v (a ++ b)) := by
  rw [behind_append]
  generalize behind v a = s at *
  rcases b with - | ⟨d, b⟩
  · simp [Near, behind]
    omega
  · have hs := hundred_le (hb d List.mem_cons_self) (h d rfl)
    exact near_of_bounds hs ⟨le_rfl, Nat.mul_lt_mul_of_pos_right (Nat.lt_succ_self s)
      (Nat.pow_pos (by decide))⟩ (behind_bounds hb s)

/-- Otherwise those behind the point come too early, but hardly matter. -/
theorem near_of_omitted {a b c : Digits} (hv : 100 ≤ v) (ha : ∀ d ∈ a, d < 10)
    (hb : ∀ d ∈ b, d < 10) (hc : ∀ d ∈ c, d < 10) :
    Near (behind v a * 10 ^ (b.length + c.length)) (behind v (b ++ (a ++ c))) := by
  have hall : ∀ d ∈ b ++ (a ++ c), d < 10 :=
    List.forall_mem_append.2 ⟨hb, List.forall_mem_append.2 ⟨ha, hc⟩⟩
  have hlength : 10 ^ (b ++ (a ++ c)).length = 10 ^ a.length * 10 ^ (b.length + c.length) := by
    rw [← Nat.pow_add, List.length_append, List.length_append, Nat.add_left_comm]
  have hpos : 0 < 10 ^ (b.length + c.length) := Nat.pow_pos (by decide)
  obtain ⟨hlow, hhigh⟩ := behind_bounds ha v
  refine near_of_bounds hv ⟨?_, ?_⟩ (hlength ▸ behind_bounds hall v)
  · rw [← Nat.mul_assoc]
    exact Nat.mul_le_mul_right _ hlow
  · rw [← Nat.mul_assoc]
    exact Nat.mul_lt_mul_of_pos_right hhigh hpos

/-- The digits kept before and behind the point, with a zero for each one left out, form a
    number near the one that all digits form. -/
theorem near_significand {a b a' b' : Digits} (hdigits : ∀ d ∈ a ++ b ++ (a' ++ b'), d < 10)
    (h : ∀ d ∈ b.head?, significandLimit < 10 * behind 0 a + d)
    (h' : ∀ d ∈ b'.head?, significandLimit < 10 * behind (behind 0 a) a' + d) :
    Near (behind (behind 0 a) a' * 10 ^ (b.length + b'.length)) (a ++ b ++ (a' ++ b')).value := by
  have hvalue : (a ++ b ++ (a' ++ b')).value = behind (behind 0 a) (b ++ (a' ++ b')) := by
    rw [← behind_append, ← List.append_assoc a b]
    rfl
  simp only [List.forall_mem_append] at hdigits
  obtain ⟨⟨-, hb⟩, ha', hb'⟩ := hdigits
  rw [hvalue]
  rcases b with - | ⟨d, b⟩
  · rw [List.nil_append, List.length_nil, Nat.zero_add]
    exact near_of_kept hb' h'
  · exact near_of_omitted (hundred_le (hb d List.mem_cons_self) (h d rfl)) ha' hb hb'

/-! ## Scaling -/

variable {x : Float} {e e' : ℤ} {fuel s : ℕ}

/-- A scaling by a negative power always gives a double. -/
theorem isSome_scale_of_neg (h : e < 0) : (scale fuel x e).isSome = true := by
  -- each round divides by the largest power in the table, and leaves less to divide by
  induction fuel generalizing x e with
  | zero =>
    unfold scale
    rw [if_neg (by omega)]
    split
    · rfl
    · split
      · rfl
      · rw [if_neg (by omega)]
        rfl
  | succ fuel ih =>
    unfold scale
    rw [if_neg (by omega)]
    split
    · rfl
    · split
      · rfl
      · rw [if_neg (by omega)]
        exact ih (by omega)

/-- A scaling by one of the powers in the table fails just when its single product overflows. -/
theorem isSome_scale_of_le (h : 0 ≤ e) (h' : e ≤ 308) : (scale fuel x e).isSome =
    !(x * Float.ofScientific 1 false e.natAbs).isInf := by
  unfold scale
  rw [if_pos ⟨h, h'⟩]
  dsimp only
  split <;> simp [*]

/-- A scaling by a power beyond the table fails unless it is zero that is scaled. -/
theorem isSome_scale_of_lt (h : 308 < e) : (scale fuel x e).isSome = (x == 0) := by
  unfold scale
  rw [if_neg (by omega), if_neg (by omega)]
  split
  · simp [*]
  · rw [if_pos (by omega)]
    simp [*]

/-- The exponents are the same, or so far away from zero that they come to the same. -/
def Alike (e e' : ℤ) : Prop := e = e' ∨ 308 < e ∧ 308 < e' ∨ e < 0 ∧ e' < 0

/-- Exponents that are alike scale the same numbers. -/
theorem Alike.isSome_scale (h : Alike e e') :
    (scale fuel x e).isSome = (scale fuel x e').isSome := by
  obtain rfl | ⟨h, h'⟩ | ⟨h, h'⟩ := h
  · rfl
  · rw [isSome_scale_of_lt h, isSome_scale_of_lt h']
  · rw [isSome_scale_of_neg h, isSome_scale_of_neg h']

/-- The double that a small number is read as. -/
theorem near_toFloat (hs : s ≤ significandLimit) :
    (read s.toUInt64.toFloat).isFinite = true ∧
      100 * (s : ℚ) ≤ 101 * value (read s.toUInt64.toFloat) ∧
      100 * value (read s.toUInt64.toFloat) ≤ 101 * s := by
  have hlimit : significandLimit < (2 ^ 53 - 1) * 2 ^ 971 := by decide +kernel
  have hcast : s.toUInt64.toNat = s := by
    rw [Nat.toUInt64, UInt64.toNat_ofNat', Nat.mod_eq_of_lt]
    exact Nat.lt_of_le_of_lt hs (by decide)
  have h := rounds_toFloat s.toUInt64
  rw [hcast] at h
  exact h.near (Nat.lt_of_le_of_lt hs hlimit)

/-- The powers of ten in the table are finite, and a hundredth off at most. -/
theorem near_powerOfTen {k : ℕ} (hk : k ≤ 308) :
    (read (Float.ofScientific 1 false k)).isFinite = true ∧
      100 * (10 : ℚ) ^ k ≤ 101 * value (read (Float.ofScientific 1 false k)) ∧
      100 * value (read (Float.ofScientific 1 false k)) ≤ 101 * 10 ^ k := by
  have hlimit : 10 ^ 308 < (2 ^ 53 - 1) * 2 ^ 971 := by decide +kernel
  have hle : 10 ^ k ≤ 10 ^ 308 := pow_le_pow_right₀ (by decide) hk
  have h := (rounds_powerOfTen hk).near (hle.trans_lt hlimit)
  rwa [Nat.cast_pow, Nat.cast_ofNat] at h

/-- The errors of two factors multiply. -/
theorem mul_le_of_near {a b c d : ℚ} (ha : 0 ≤ a) (hb : 0 ≤ b) (h : 100 * a ≤ 101 * c)
    (h' : 100 * b ≤ 101 * d) : 100 ^ 2 * (a * b) ≤ 101 ^ 2 * (c * d) :=
  calc 100 ^ 2 * (a * b) = 100 * a * (100 * b) := by ring
    _ ≤ 101 * c * (101 * d) := mul_le_mul h h' (by linarith) (by linarith)
    _ = 101 ^ 2 * (c * d) := by ring

/-- Only zero becomes the double zero. -/
theorem toFloat_beq_zero (hs : s ≤ significandLimit) :
    (s.toUInt64.toFloat == 0) = decide (s = 0) := by
  have hzero : read 0 = .zero .positive := rfl
  have hbeq (x : Float) : (x == 0) = ((read x).compare (read 0) == some .eq) := rfl
  rcases Nat.eq_zero_or_pos s with rfl | hpos
  · rfl
  · obtain ⟨hfin, hle, -⟩ := near_toFloat hs
    have hs₀ : (1 : ℚ) ≤ s := by exact_mod_cast hpos
    have hx₀ : 0 < value (read s.toUInt64.toFloat) := by linarith
    have hcompare := compare_eq (written_read _) (written_read 0) hfin rfl hx₀.le le_rfl
    rw [hzero, value_zero, compare_gt_iff_gt.2 hx₀] at hcompare
    rw [hbeq, hzero, hcompare, decide_eq_false hpos.ne']
    rfl

/-- A product that stands for `10 ^ 308` at most, up to a hundredth, does not overflow. -/
theorem isInf_mul_eq_false {k : ℕ} (hs : s ≤ significandLimit) (hk : k ≤ 308)
    (h : 100 * ((s : ℚ) * 10 ^ k) ≤ 101 * 10 ^ 308) :
    (s.toUInt64.toFloat * Float.ofScientific 1 false k).isInf = false := by
  obtain ⟨hx, hxle, hlex⟩ := near_toFloat hs
  obtain ⟨hy, hyle, hley⟩ := near_powerOfTen hk
  have hs₀ : (0 : ℚ) ≤ s := Nat.cast_nonneg s
  have hk₀ : (0 : ℚ) < 10 ^ k := by positivity
  have hlimit : (101 : ℚ) ^ 3 * 10 ^ 308 ≤ 100 ^ 3 * ((2 ^ 53 - 1 : ℕ) * 2 ^ 971) := by
    exact_mod_cast (by decide +kernel : 101 ^ 3 * 10 ^ 308 ≤ 100 ^ 3 * ((2 ^ 53 - 1) * 2 ^ 971))
  generalize s.toUInt64.toFloat = x at *
  generalize Float.ofScientific 1 false k = y at *
  have hx₀ : 0 ≤ value (read x) := by linarith
  have hy₀ : 0 ≤ value (read y) := by linarith
  -- three errors of a hundredth meet here: both factors and the bound itself
  have hmul : value (read x) * value (read y) ≤ (2 ^ 53 - 1 : ℕ) * 2 ^ 971 := by
    have hnear := mul_le_of_near hx₀ hy₀ hlex hley
    generalize ((2 ^ 53 - 1 : ℕ) : ℚ) * 2 ^ 971 = most at *
    generalize (10 : ℚ) ^ 308 = c at *
    linarith
  have hrounds := rounds_mul hx hy hx₀ hy₀
  exact isInf_eq_false (hrounds.atMost (representable_mul (by decide) le_rfl) hmul).1

/-- A product that stands for `2 · 10 ^ 308` at least, up to a hundredth, overflows. -/
theorem isInf_mul_eq_true {k : ℕ} (hs : s ≤ significandLimit) (hk : k ≤ 308)
    (h : 100 * (2 * 10 ^ 308) ≤ 101 * ((s : ℚ) * 10 ^ k)) :
    (s.toUInt64.toFloat * Float.ofScientific 1 false k).isInf = true := by
  obtain ⟨hx, hxle, -⟩ := near_toFloat hs
  obtain ⟨hy, hyle, -⟩ := near_powerOfTen hk
  have hs₀ : (0 : ℚ) ≤ s := Nat.cast_nonneg s
  have hk₀ : (0 : ℚ) < 10 ^ k := by positivity
  have hlimit : (101 : ℚ) ^ 3 * 2 ^ 1024 ≤ 100 ^ 3 * (2 * 10 ^ 308) := by
    exact_mod_cast (by decide +kernel : 101 ^ 3 * 2 ^ 1024 ≤ 100 ^ 3 * (2 * 10 ^ 308))
  generalize s.toUInt64.toFloat = x at *
  generalize Float.ofScientific 1 false k = y at *
  have hmul : 2 ^ 1024 ≤ value (read x) * value (read y) := by
    have hnear := mul_le_of_near hs₀ hk₀.le hxle hyle
    generalize (2 : ℚ) ^ 1024 = least at *
    generalize (10 : ℚ) ^ 308 = c at *
    linarith
  exact isInf_eq_true (read_mul_of_le hx hy (by linarith) (by linarith) hmul)

/-- A number that is not too large times a power of ten is a double. -/
theorem isSome_scale (hs : s ≤ significandLimit)
    (h : 100 * ((s : ℚ) * 10 ^ e) ≤ 101 * 10 ^ 308) :
    (scale fuel s.toUInt64.toFloat e).isSome = true := by
  rcases lt_or_ge e 0 with hneg | hpos
  · exact isSome_scale_of_neg hneg
  obtain ⟨k, rfl⟩ := Int.eq_ofNat_of_zero_le hpos
  rw [zpow_natCast] at h
  rcases lt_or_ge 308 (k : ℤ) with hlarge | hle
  · rw [isSome_scale_of_lt hlarge, toFloat_beq_zero hs, decide_eq_true_iff]
    -- any other significand would be too large with such an exponent
    by_contra hne
    have hone : (1 : ℚ) ≤ s := by exact_mod_cast Nat.pos_of_ne_zero hne
    have hpow : (10 : ℚ) ^ 309 ≤ 10 ^ k := pow_le_pow_right₀ (by norm_num) (by omega)
    have hk : (10 : ℚ) ^ k ≤ s * 10 ^ k := le_mul_of_one_le_left (by positivity) hone
    have hlimit : (101 : ℚ) * 10 ^ 308 < 100 * 10 ^ 309 := by
      exact_mod_cast (by decide +kernel : 101 * 10 ^ 308 < 100 * 10 ^ 309)
    have hlt := calc (101 : ℚ) * 10 ^ 308 < 100 * 10 ^ 309 := hlimit
      _ ≤ 100 * 10 ^ k := by gcongr
      _ ≤ 100 * (s * 10 ^ k) := by gcongr
    exact hlt.not_ge h
  · rw [isSome_scale_of_le hpos hle, Int.natAbs_natCast, isInf_mul_eq_false hs (by omega) h]
    rfl

/-- One that is too large is none. -/
theorem scale_eq_none (hs : s ≤ significandLimit)
    (h : 100 * (2 * 10 ^ 308) ≤ 101 * ((s : ℚ) * 10 ^ e)) :
    scale fuel s.toUInt64.toFloat e = none := by
  rw [← Option.not_isSome_iff_eq_none, Bool.not_eq_true]
  rcases lt_or_ge e 0 with hneg | hpos
  · -- a negative exponent leaves less than the significand, far from the bound
    have hle : (s : ℚ) * 10 ^ e ≤ (significandLimit : ℚ) * 1 := by
      gcongr
      exact zpow_le_one_of_nonpos₀ (by norm_num) hneg.le
    have hlimit : 101 * ((significandLimit : ℚ) * 1) < 100 * (2 * 10 ^ 308) := by
      exact_mod_cast (by decide +kernel : 101 * (significandLimit * 1) < 100 * (2 * 10 ^ 308))
    have hlt := calc
      101 * ((s : ℚ) * 10 ^ e) ≤ 101 * ((significandLimit : ℚ) * 1) := by gcongr
      _ < 100 * (2 * 10 ^ 308) := hlimit
    exact absurd h hlt.not_ge
  obtain ⟨k, rfl⟩ := Int.eq_ofNat_of_zero_le hpos
  rw [zpow_natCast] at h
  rcases lt_or_ge 308 (k : ℤ) with hlarge | hle
  · rw [isSome_scale_of_lt hlarge, toFloat_beq_zero hs, decide_eq_false_iff_not]
    rintro rfl
    rw [Nat.cast_zero, zero_mul, mul_zero] at h
    exact h.not_gt (by positivity)
  · rw [isSome_scale_of_le hpos hle, Int.natAbs_natCast, isInf_mul_eq_true hs (by omega) h]
    rfl

/-! ## Which numerals are read -/

/-- The numeral is read as a whole number times a power of ten. -/
structure Found (n : Numeral) (s : ℕ) (e : ℤ) : Prop where
  le : s ≤ significandLimit
  /-- The numeral is a double if the scaled number is. -/
  isSome_eq : n.toFloat?.isSome = (scale 4 s.toUInt64.toFloat e).isSome
  /-- Its size is a hundredth off at most. -/
  le_size : 100 * ((s : ℚ) * 10 ^ e) ≤ 101 * n.size
  size_le : 100 * n.size ≤ 101 * ((s : ℚ) * 10 ^ e)

/-- The exponent is read as it is, unless it is so large that this does not matter. -/
theorem alike_power {i : ℤ} (h : -1000000000 ≤ i) (h' : i ≤ 1000000000) :
    Alike (i + n.power) (i + match n.exponent with
      | none => 0
      | some (false, ds) => ds.capped powerLimit
      | some (true, ds) => -ds.capped powerLimit) := by
  have hlimit : powerLimit = 2147483647 := rfl
  unfold power
  rcases n.exponent with - | ⟨_ | _, ds⟩
  · exact .inl rfl
  · have hcapped := capped_eq_min powerLimit ds
    simp only [Alike]
    omega
  · have hcapped := capped_eq_min powerLimit ds
    simp only [Alike]
    omega

/-- The reader finds a significand and an exponent that stand for the size of the numeral,
    up to a hundredth. -/
theorem exists_found (hn : ∀ d ∈ n.digits, d < 10) (hlen : n.digits.length ≤ 1000000000) :
    ∃ s e, Found n s e := by
  obtain ⟨a, b, hw, heq, hle, hb⟩ := significand_eq 0 0 n.whole
  obtain ⟨a', b', hf, heq', hle', hb'⟩ := significand_eq (behind 0 a) 0 (n.fraction.getD [])
  have hdigits : n.digits = a ++ b ++ (a' ++ b') := by rw [digits, hw, hf]
  have hnear := near_significand (hdigits ▸ hn) hb hb'
  -- with so few digits, an exponent that was cut off is still far away from zero
  simp only [hdigits, List.length_append] at hlen
  have halike := alike_power (n := n) (i := (b.length : ℤ) - a'.length) (by omega) (by omega)
  have hscaled : (behind (behind 0 a) a' : ℚ) * 10 ^ ((b.length : ℤ) - a'.length + n.power) =
      (behind (behind 0 a) a' * 10 ^ (b.length + b'.length) : ℕ) *
        10 ^ (n.power - (n.fraction.getD []).length) := by
    push_cast
    rw [mul_assoc, ← zpow_natCast, ← zpow_add₀ (by norm_num), hf, List.length_append]
    congr 2
    push_cast
    ring
  have hpos : (0 : ℚ) < 10 ^ (n.power - (n.fraction.getD []).length) := by positivity
  obtain ⟨hlow, hhigh⟩ := hnear
  refine ⟨behind (behind 0 a) a', b.length - a'.length + n.power,
    hle' (hle (Nat.zero_le _)), ?_, ?_, ?_⟩
  · rw [halike.isSome_scale, toFloat?]
    simp only [heq, heq', Nat.zero_add]
    split
    · exact Option.isSome_map
    · rfl
  · rw [hscaled, size, hdigits, ← mul_assoc, ← mul_assoc]
    exact mul_le_mul_of_nonneg_right (by exact_mod_cast hlow) hpos.le
  · rw [hscaled, size, hdigits, ← mul_assoc, ← mul_assoc]
    exact mul_le_mul_of_nonneg_right (by exact_mod_cast hhigh) hpos.le

/-- The digits of an unsigned numeral are decimal ones, and its text has no fewer characters. -/
theorem digits_of_unsigned {w : Digits} {f : Option Digits} {p : Option (Bool × Digits)}
    {cs : List Char} (h : UnsignedSpelt w f p cs) :
    (∀ d ∈ w ++ f.getD [], d < 10) ∧ (w ++ f.getD []).length ≤ cs.length := by
  have hwhole {w : Digits} {ws : List Char} (h : WholeSpelt w ws) :
      (∀ d ∈ w, d < 10) ∧ w.length ≤ ws.length := by
    rcases h with - | ⟨-, -, h⟩
    · exact ⟨by decide, le_rfl⟩
    · exact ⟨lt_of_spell h, h.length_eq.ge⟩
  have hfraction {f : Option Digits} {fs : List Char} (h : FractionSpelt f fs) :
      (∀ d ∈ f.getD [], d < 10) ∧ (f.getD []).length ≤ fs.length := by
    rcases h with - | ⟨-, h⟩
    · exact ⟨by decide, le_rfl⟩
    · exact ⟨lt_of_spell h, h.length_eq.ge.trans (Nat.le_succ _)⟩
  obtain ⟨hw, hf, -⟩ := h
  obtain ⟨hw, hwlen⟩ := hwhole hw
  obtain ⟨hf, hflen⟩ := hfraction hf
  refine ⟨List.forall_mem_append.2 ⟨hw, hf⟩, ?_⟩
  simp only [List.length_append]
  omega

/-- The digits of a numeral are decimal ones, and its text has no fewer characters. -/
theorem digits_of_spelt {cs : List Char} (h : n.Spelt cs) :
    (∀ d ∈ n.digits, d < 10) ∧ n.digits.length ≤ cs.length := by
  rcases h with h | h
  · exact digits_of_unsigned h
  · exact (digits_of_unsigned h).imp_right (·.trans (Nat.le_succ _))

/-- A numeral with a size up to `10 ^ 308` is a double, and one from `2 · 10 ^ 308` on is
    none. -/
theorem ranged {cs : List Char} (h : n.Spelt cs) (hlen : cs.length ≤ 1000000000) :
    (n.size ≤ 10 ^ 308 → ∃ x, n.toFloat? = some x) ∧
      (2 * 10 ^ 308 ≤ n.size → n.toFloat? = none) := by
  obtain ⟨hdigits, hle⟩ := digits_of_spelt h
  obtain ⟨s, e, hs, hsome, hlow, hhigh⟩ := exists_found hdigits (hle.trans hlen)
  constructor
  · intro hsize
    rw [← Option.isSome_iff_exists, hsome]
    exact isSome_scale hs (hlow.trans (by gcongr))
  · intro hsize
    have hnone : (scale 4 s.toUInt64.toFloat e).isSome = false := by
      rw [scale_eq_none hs (le_trans (by gcongr) hhigh)]
      rfl
    rwa [← hsome, Option.isSome_eq_false_iff, Option.isNone_iff_eq_none] at hnone

end Json.Numeral

end Outbox
