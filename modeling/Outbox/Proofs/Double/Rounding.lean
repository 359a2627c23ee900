import Mathlib.Algebra.Order.Field.Power
import Mathlib.Data.Rat.Floor
import Mathlib.Tactic.Linarith
import Mathlib.Tactic.NormNum
import Mathlib.Tactic.Positivity
import Mathlib.Tactic.Ring

/-!
# Rounding to double precision

A number of the form `m · 2 ^ e` is rounded by shifting its mantissa until it
has no more than 53 digits, and an exponent that is not too small
(`roundWithAccuracy_cases`). Whatever is cut off, rounding never passes a number
that needs none itself (`Representable`): what is above it stays above or gets
to it (`Representable.le_shifted`), and so does what is below
(`Representable.shifted_le`).
-/

namespace Outbox.Double

open Float.Model Float.Model.UnpackedFloat

/-! ## Shifts -/

/-- A mantissa without its last `k` digits, rounded. -/
def shifted (m k : ℕ) : ℕ := ((ExtendedMantissa.mk m false false) >>> k).roundedMantissa

/-- What is cut off leaves a trace if and only if it is not zero. -/
theorem shiftRight_cases (m k : ℕ) : ∃ r s, (ExtendedMantissa.mk m false false) >>> k =
    ⟨m / 2 ^ k, r, s⟩ ∧ ((r || s) = true → ¬2 ^ k ∣ m) := by
  induction k with
  | zero => exact ⟨false, false, by simp [HShiftRight.hShiftRight, Nat.repeat], nofun⟩
  | succ k ih =>
    obtain ⟨r, s, hk, hne⟩ := ih
    have hstep : (ExtendedMantissa.mk m false false) >>> (k + 1) =
        ((ExtendedMantissa.mk m false false) >>> k).shiftRightOne := rfl
    -- the digit cut off last is kept in one bit, and whether any before it was not zero in
    -- another
    refine ⟨m / 2 ^ k % 2 != 0, r || s, ?_, fun h hdvd => ?_⟩
    · rw [hstep, hk, ExtendedMantissa.shiftRightOne, Nat.div_div_eq_div_mul, Nat.pow_succ]
    · obtain ⟨n, rfl⟩ := hdvd
      rw [Nat.pow_succ, Nat.mul_assoc, Nat.mul_div_cancel_left _ (Nat.two_pow_pos k),
        Nat.mul_mod_right] at h
      exact hne (by simpa using h) ⟨2 * n, by ring⟩

/-- A shifted mantissa is rounded down or up, and exact if nothing is cut off. -/
theorem shifted_bounds (m k : ℕ) : m / 2 ^ k ≤ shifted m k ∧ shifted m k ≤ m / 2 ^ k + 1 ∧
    (2 ^ k ∣ m → shifted m k = m / 2 ^ k) := by
  obtain ⟨r, s, hk, hne⟩ := shiftRight_cases m k
  rw [shifted, hk]
  cases r <;> cases s <;>
    simp [ExtendedMantissa.roundedMantissa, ExtendedMantissa.accuracy,
      Accuracy.roundToNearestEven] at hne ⊢ <;> omega

variable {m k n : ℕ} {e : ℤ}

/-- What fits below the mantissa with zeros behind it stays below when that is shifted. -/
theorem le_shifted (h : n * 2 ^ k ≤ m) : n ≤ shifted m k :=
  Nat.le_trans ((Nat.le_div_iff_mul_le (Nat.two_pow_pos k)).2 h) (shifted_bounds m k).1

/-- What lies above the mantissa with zeros behind it stays above when that is shifted. -/
theorem shifted_le (h : m ≤ n * 2 ^ k) : shifted m k ≤ n := by
  obtain ⟨-, hle, hexact⟩ := shifted_bounds m k
  rcases Nat.eq_or_lt_of_le h with rfl | h
  · rw [hexact (Nat.dvd_mul_left _ _), Nat.mul_div_cancel _ (Nat.two_pow_pos k)]
  · exact Nat.le_trans hle ((Nat.div_lt_iff_lt_mul (Nat.two_pow_pos k)).2 h)

/-! ## Numbers in the format -/

/-- The exponent a number is given, by its first digit. -/
def target (m : ℕ) (e : ℤ) : ℤ := Format.binary64.targetExponent (totalExponent m e)

/-- The target has 53 digits, unless its exponent would be too small. -/
theorem target_eq (m : ℕ) (e : ℤ) : target m e = max (m.log2 + e - 52) (-1074) := by
  have hbits : Format.binary64.mantissaBits = 53 := rfl
  have hmin : Format.binary64.minExponent = -1074 := rfl
  rw [target, Format.targetExponent, totalExponent, hbits, hmin]
  omega

/-- The number of digits of a number that do not fit. -/
def excess (m : ℕ) (e : ℤ) : ℕ := (target m e - e).toNat

/-- The digits that do not fit are shifted out. -/
theorem shiftToTargetExponent_eq (m : ℕ) (e : ℤ) :
    shiftToTargetExponent Format.binary64 m e .exact =
      ((ExtendedMantissa.mk m false false) >>> excess m e, e + excess m e) := rfl

/-- A number as it is written: with 53 digits, or with fewer ones and the
    smallest exponent there is. -/
structure Canonical (m : ℕ) (e : ℤ) : Prop where
  /-- It has no more than 53 digits, -/
  lt : m < 2 ^ 53
  /-- and an exponent that is not too small. -/
  le : -1074 ≤ e
  /-- It has fewer digits only with the smallest exponent. -/
  normal : 2 ^ 52 ≤ m ∨ e = -1074

/-- Enough digits to be written without adding any. -/
def Ample (m : ℕ) (e : ℤ) : Prop := 2 ^ 52 ≤ m ∨ e ≤ -1074

/-- A number of at most 53 digits has its first one at most at place 52. -/
theorem log2_le_of_lt (h : m < 2 ^ 53) : m.log2 ≤ 52 := by
  rcases Nat.eq_zero_or_pos m with rfl | hm
  · decide
  · exact Nat.lt_succ_iff.1 ((Nat.log2_lt hm.ne').2 h)

/-- Nothing is cut off a number that fits. -/
theorem excess_eq_zero (hm : m < 2 ^ 53) (he : -1074 ≤ e) : excess m e = 0 := by
  have hlog := log2_le_of_lt hm
  rw [excess, target_eq]
  omega

/-- Of the smallest number with 54 digits one does not fit. -/
theorem excess_two_pow (he : -1074 ≤ e) : excess (2 ^ 53) e = 1 := by
  rw [excess, target_eq, Nat.log2_two_pow]
  omega

/-- No number is given a smaller exponent than there is. -/
theorem le_add_excess (m : ℕ) (e : ℤ) : -1074 ≤ e + excess m e := by
  rw [excess, target_eq]
  omega

/-- The digits that are left fit. -/
theorem div_excess_lt (m : ℕ) (e : ℤ) : m / 2 ^ excess m e < 2 ^ 53 := by
  have hlog : m.log2 + 1 ≤ 53 + excess m e := by
    rw [excess, target_eq]
    omega
  refine (Nat.div_lt_iff_lt_mul (Nat.two_pow_pos _)).2 ?_
  rw [← Nat.pow_add]
  exact Nat.lt_of_lt_of_le Nat.lt_log2_self (Nat.pow_le_pow_right (by decide) hlog)

/-- When rounded up, a mantissa may get to the next power of two. -/
theorem shifted_excess_le (m : ℕ) (e : ℤ) : shifted m (excess m e) ≤ 2 ^ 53 :=
  Nat.le_trans (shifted_bounds m _).2.1 (div_excess_lt m e)

/-- Unless the exponent is the smallest one, there are as many digits as fit. -/
theorem mul_two_pow_excess_le (h : Ample m e) (he : e + excess m e ≠ -1074) :
    2 ^ 52 * 2 ^ excess m e ≤ m := by
  rw [← Nat.pow_add]
  have hlog : 52 + excess m e ≤ m.log2 := by
    rw [excess, target_eq] at he ⊢
    rcases h with h | h
    · have hlog : 52 ≤ m.log2 := (Nat.le_log2 (by omega)).2 h
      omega
    · omega
  have hm : m ≠ 0 := by
    rintro rfl
    simp at hlog
  exact (Nat.le_log2 hm).1 hlog

/-- A number rounded, as it is written. -/
theorem roundWithAccuracy_cases (s : Sign) (h : Ample m e) :
    (shifted m (excess m e) = 0 ∧ roundWithAccuracy Format.binary64 s m e .exact = .zero s) ∨
    ∃ m' e' hm', roundWithAccuracy Format.binary64 s m e .exact = .finite s m' e' hm' ∧
      Canonical m' e' ∧ (m' : ℚ) * 2 ^ e' = shifted m (excess m e) * 2 ^ (e + excess m e) := by
  have he := le_add_excess m e
  have hle := shifted_excess_le m e
  have hnormal : 2 ^ 52 ≤ shifted m (excess m e) ∨ e + excess m e = -1074 := by
    by_cases hmin : e + excess m e = -1074
    · exact .inr hmin
    · exact .inl (le_shifted (mul_two_pow_excess_le h hmin))
  rw [roundWithAccuracy, shiftToTargetExponent_eq]
  dsimp only
  rw [← shifted, shiftToTargetExponent_eq]
  generalize shifted m (excess m e) = r at *
  generalize e + excess m e = e₁ at *
  dsimp only
  -- One digit too many may have come up.
  have hround : (r < 2 ^ 53 ∧ ((ExtendedMantissa.mk r false false) >>> excess r e₁).mantissa = r ∧
      e₁ + excess r e₁ = e₁) ∨
      (r = 2 ^ 53 ∧ ((ExtendedMantissa.mk r false false) >>> excess r e₁).mantissa = 2 ^ 52 ∧
        e₁ + excess r e₁ = e₁ + 1) := by
    rcases Nat.lt_or_eq_of_le hle with hlt | rfl
    · rw [excess_eq_zero hlt he]
      exact .inl ⟨hlt, rfl, Int.add_zero e₁⟩
    · rw [excess_two_pow he]
      exact .inr ⟨rfl, rfl, rfl⟩
  generalize ((ExtendedMantissa.mk r false false) >>> excess r e₁).mantissa = m' at hround ⊢
  generalize e₁ + (excess r e₁ : ℤ) = e' at hround ⊢
  obtain ⟨hlt, rfl, rfl⟩ | ⟨rfl, rfl, rfl⟩ := hround
  · by_cases hzero : m' = 0
    · exact .inl ⟨hzero, dif_pos hzero⟩
    · exact .inr ⟨m', e', Nat.pos_of_ne_zero hzero, dif_neg hzero, ⟨hlt, he, hnormal⟩, rfl⟩
  · refine .inr ⟨2 ^ 52, e₁ + 1, by decide, dif_neg (by decide), ⟨by decide, by omega, by simp⟩, ?_⟩
    rw [zpow_add₀ (by norm_num)]
    push_cast
    ring

/-! ## Bounds -/

/-- A number that is written as it is, and not less than zero. -/
def Representable (q : ℚ) : Prop :=
  ∃ (m : ℕ) (e : ℤ), m < 2 ^ 53 ∧ -1074 ≤ e ∧ e ≤ 971 ∧ q = m * 2 ^ e

/-- Small whole numbers need no rounding. -/
theorem representable_natCast (h : n < 2 ^ 53) : Representable n :=
  ⟨n, 0, h, by decide, by decide, by simp⟩

/-- A number with a small exponent is less than one with many digits. -/
theorem mul_two_pow_lt {M : ℕ} {E e : ℤ} (hM : M < 2 ^ 53) (hE : E < e) :
    (M : ℚ) * 2 ^ E < 2 ^ 52 * 2 ^ e := by
  have hpos : (0 : ℚ) < 2 ^ E := zpow_pos (by norm_num) E
  calc (M : ℚ) * 2 ^ E < 2 ^ 53 * 2 ^ E := by gcongr; exact_mod_cast hM
    _ = 2 ^ 52 * 2 ^ (E + 1) := by rw [zpow_add₀ (by norm_num)]; ring
    _ ≤ 2 ^ 52 * 2 ^ e := by gcongr <;> [norm_num; omega]

/-- A number whose exponent is large enough is a multiple. -/
theorem mul_two_pow_eq {M : ℕ} {E e : ℤ} (hE : e ≤ E) :
    (M : ℚ) * 2 ^ E = (M * 2 ^ (E - e).toNat : ℕ) * 2 ^ e := by
  have hexp : (2 : ℚ) ^ E = 2 ^ (E - e).toNat * 2 ^ e := by
    rw [← zpow_natCast, ← zpow_add₀ (by norm_num)]
    congr 1
    omega
  rw [hexp]
  push_cast
  ring

/-- A part of the exponent may be put into the mantissa. -/
theorem mul_two_pow_add (m k : ℕ) (e : ℤ) : (m : ℚ) * 2 ^ (e + k) = (m * 2 ^ k : ℕ) * 2 ^ e := by
  rw [zpow_add₀ (by norm_num), zpow_natCast]
  push_cast
  ring

variable {q : ℚ}

/-- Rounding up to a given exponent keeps a number above those with few digits. -/
theorem mul_two_pow_le_shifted {M : ℕ} {E : ℤ} (hM : M < 2 ^ 53) (hE : -1074 ≤ E) (ha : Ample m e)
    (h : (M : ℚ) * 2 ^ E ≤ m * 2 ^ e) :
    (M : ℚ) * 2 ^ E ≤ shifted m (excess m e) * 2 ^ (e + excess m e) := by
  rcases le_or_gt (e + excess m e) E with hexp | hexp
  · rw [mul_two_pow_eq hexp] at h ⊢
    rw [mul_two_pow_add, mul_le_mul_iff_left₀ (zpow_pos (by norm_num) e), Nat.cast_le] at h
    gcongr
    exact Double.le_shifted h
  · have hmin : e + excess m e ≠ -1074 := by omega
    refine (mul_two_pow_lt hM hexp).le.trans ?_
    gcongr
    exact_mod_cast Double.le_shifted (mul_two_pow_excess_le ha hmin)

/-- What needs no rounding and is below a number stays below it. -/
theorem Representable.le_shifted (hq : Representable q) (ha : Ample m e) (h : q ≤ m * 2 ^ e) :
    q ≤ shifted m (excess m e) * 2 ^ (e + excess m e) := by
  obtain ⟨M, E, hM, hE, -, rfl⟩ := hq
  exact mul_two_pow_le_shifted hM hE ha h

/-- What needs no rounding and is above a number stays above it. -/
theorem Representable.shifted_le (hq : Representable q) (ha : Ample m e) (h : m * 2 ^ e ≤ q) :
    shifted m (excess m e) * 2 ^ (e + excess m e) ≤ q := by
  obtain ⟨M, E, hM, hE, -, rfl⟩ := hq
  rcases le_or_gt (e + excess m e) E with hexp | hexp
  · rw [mul_two_pow_eq hexp] at h ⊢
    rw [mul_two_pow_add, mul_le_mul_iff_left₀ (zpow_pos (by norm_num) e), Nat.cast_le] at h
    gcongr
    exact Double.shifted_le h
  · -- A number with so many digits is above those with a smaller exponent.
    have hmin : e + excess m e ≠ -1074 := by omega
    refine absurd (lt_of_lt_of_le (mul_two_pow_lt hM hexp) ?_) h.not_gt
    rw [show (2 : ℚ) ^ 52 = (2 ^ 52 : ℕ) by norm_num, mul_two_pow_add]
    gcongr
    exact mul_two_pow_excess_le ha hmin

end Outbox.Double
