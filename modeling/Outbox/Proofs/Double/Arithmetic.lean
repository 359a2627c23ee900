import Outbox.Proofs.Double.Numbers

/-!
# Arithmetic in double precision

Each operation is the exact one, rounded: products (`rounds_mul`), sums and
differences (`rounds_read_add`, `rounds_read_sub`) of finite numbers whose exact
result is not negative. A product of numbers that may be infinite is still
above the product of their bounds (`atLeast_mul`). Small whole numbers are
represented (`value_ofNat`), and cutting a number off to a whole one keeps the
bounds that are whole (`le_toUInt64`, `toUInt64_eq`).
-/

namespace Outbox.Double

open Float.Model Float.Model.UnpackedFloat

variable {m n : ℕ} {e e' : ℤ} {q a c : ℚ} {d d' : UnpackedFloat} {x y : Float}

/-! ## Products -/

/-- The product of two mantissas has enough digits to be rounded. -/
theorem Canonical.ample_mul {m' : ℕ} (h : Canonical m e) (h' : Canonical m' e') (hm : 0 < m)
    (hm' : 0 < m') : Ample (m * m') (e + e') := by
  rcases h.normal with hfull | hmin
  · exact .inl (hfull.trans (Nat.le_mul_of_pos_right m hm'))
  · rcases h'.normal with hfull | hmin'
    · exact .inl (hfull.trans (Nat.le_mul_of_pos_left m' hm))
    · exact .inr (by omega)

/-- A product is that of what the bits stand for, packed into bits again. -/
theorem read_mul (x y : Float) :
    read (x * y) = stored (UnpackedFloat.mul Format.binary64 (read x) (read y)) := rfl

/-- What is multiplied by no number is none. -/
theorem read_mul_notANumber (h : read y = .notANumber) : read (x * y) = .notANumber := by
  rw [read_mul, h]
  cases read x <;> exact stored_notANumber

/-- The product of positive numbers, before it is rounded. -/
theorem read_mul_positive {m' : ℕ} {hm : 0 < m} {hm' : 0 < m'}
    (hx : read x = .finite .positive m e hm) (hy : read y = .finite .positive m' e' hm') :
    ∃ M E, Ample M E ∧ (M : ℚ) * 2 ^ E = value (read x) * value (read y) ∧
      read (x * y) = stored (roundWithAccuracy Format.binary64 .positive M E .exact) := by
  have hwx := written_read x
  have hwy := written_read y
  rw [hx] at hwx
  rw [hy] at hwy
  refine ⟨m * m', e + e', hwx.1.ample_mul hwy.1 hm hm', ?_, ?_⟩
  · rw [hx, hy, value_positive, value_positive, zpow_add₀ (by norm_num)]
    push_cast
    ring
  · rw [read_mul, hx, hy]
    rfl

/-- The product of numbers that are not negative. -/
theorem rounds_mul (hx : (read x).isFinite = true) (hy : (read y).isFinite = true)
    (hx₀ : 0 ≤ value (read x)) (hy₀ : 0 ≤ value (read y)) :
    Rounds (value (read x) * value (read y)) (read (x * y)) := by
  obtain ⟨s, hx⟩ | ⟨m, e, hm, hx⟩ := nonneg_cases hx hx₀
  · rw [read_mul, hx, value_zero, zero_mul]
    obtain ⟨s', hy⟩ | ⟨m', e', hm', hy⟩ := nonneg_cases hy hy₀ <;> rw [hy] <;>
      exact rounds_zero _
  obtain ⟨s', hy⟩ | ⟨m', e', hm', hy⟩ := nonneg_cases hy hy₀
  · rw [read_mul, hx, hy, value_zero, mul_zero]
    exact rounds_zero _
  obtain ⟨M, E, ha, hval, hmul⟩ := read_mul_positive hx hy
  rw [← hval, hmul]
  exact rounds_round ha

/-- The product of numbers above some bounds is above the product of those. -/
theorem atLeast_mul (ha : 0 < a) (hc : 0 < c) (hx : AtLeast a (read x)) (hy : AtLeast c (read y))
    (hq : Representable (a * c)) : AtLeast (a * c) (read (x * y)) := by
  -- an infinite factor makes the product infinite, as the other one is above a positive bound and
  -- thus not zero
  obtain hinf | ⟨hfin, hle⟩ := hx
  · obtain hinf' | ⟨hfin', hle'⟩ := hy
    · rw [read_mul, hinf, hinf']
      exact .inl rfl
    · obtain ⟨s, hd⟩ | ⟨m', e', hm', hd⟩ := nonneg_cases hfin' (hc.le.trans hle')
      · rw [hd] at hle'
        exact absurd hle' hc.not_ge
      · rw [read_mul, hinf, hd]
        exact .inl (stored_infinity .positive)
  obtain hinf' | ⟨hfin', hle'⟩ := hy
  · obtain ⟨s, hd⟩ | ⟨m, e, hm, hd⟩ := nonneg_cases hfin (ha.le.trans hle)
    · rw [hd] at hle
      exact absurd hle ha.not_ge
    · rw [read_mul, hinf', hd]
      exact .inl (stored_infinity .positive)
  exact (rounds_mul hfin hfin' (ha.le.trans hle) (hc.le.trans hle')).atLeast hq
    (mul_le_mul hle hle' hc.le (ha.le.trans hle))

/-! ## Sums -/

/-- A number with the digits it is to have. -/
theorem ample_decreaseExponent (hm : 0 < m) :
    Ample (decreaseExponent m e (target m e)).1 (decreaseExponent m e (target m e)).2 := by
  simp only [decreaseExponent, target_eq, Nat.shiftLeft_eq]
  -- either no digits are added, or as many as there is room for
  rcases le_or_gt e (max (m.log2 + e - 52) (-1074)) with h | h
  · rw [show (e - max (m.log2 + e - 52) (-1074)).toNat = 0 by omega, Nat.pow_zero, Nat.mul_one]
    rcases le_or_gt e (-1074) with he | he
    · exact .inr (by omega)
    · exact .inl ((Nat.le_log2 hm.ne').1 (by omega))
  · rcases le_or_gt (m.log2 + e - 52) (-1074) with he | he
    · exact .inr (by omega)
    · left
      rw [show (e - max (m.log2 + e - 52) (-1074)).toNat = 52 - m.log2 by omega]
      calc 2 ^ 52 = 2 ^ m.log2 * 2 ^ (52 - m.log2) := by rw [← Nat.pow_add]; congr 1; omega
        _ ≤ m * 2 ^ (52 - m.log2) := Nat.mul_le_mul_right _ (Nat.log2_self_le hm.ne')

/-- With more digits and a smaller exponent a number stays what it is. -/
theorem value_decreaseExponent (m : ℕ) (e t : ℤ) :
    ((decreaseExponent m e t).1 : ℚ) * 2 ^ (decreaseExponent m e t).2 = m * 2 ^ e := by
  simp only [decreaseExponent, Nat.shiftLeft_eq]
  generalize (e - t).toNat = k
  rw [← mul_two_pow_add, sub_add_cancel]

/-- What a result that is not negative is rounded from. -/
theorem normalize_eq {z : ℤ} (hz : 0 ≤ z) (e : ℤ) :
    ∃ m i, Ample m i ∧ (m : ℚ) * 2 ^ i = z * 2 ^ e ∧
      normalize Format.binary64 z e .positive =
        roundWithAccuracy Format.binary64 .positive m i .exact := by
  obtain ⟨n, rfl⟩ := Int.eq_ofNat_of_zero_le hz
  rcases Nat.eq_zero_or_pos n with rfl | hn
  · exact ⟨0, -1074, .inr le_rfl, by simp, by simp only [UnpackedFloat.normalize]; rfl⟩
  · have hgt : compare (n : ℤ) 0 = .gt := compare_gt_iff_gt.2 (by omega)
    exact ⟨_, _, ample_decreaseExponent hn, value_decreaseExponent n e _, by
      rw [UnpackedFloat.normalize, hgt]
      rfl⟩

/-- The values of two numbers, at the same exponent. -/
theorem value_add {s s' : Sign} {m' : ℕ} {hm : 0 < m} {hm' : 0 < m'} :
    value (.finite s m e hm) + value (.finite s' m' e' hm') =
      (s.apply (decreaseExponent m e (min e e')).1 +
        s'.apply (decreaseExponent m' e' (min e e')).1 : ℤ) * 2 ^ min e e' := by
  have hsmall : ∀ (s : Sign) (m : ℕ) {e i : ℤ}, i ≤ e →
      (s.apply m : ℚ) * 2 ^ e = s.apply (decreaseExponent m e i).1 * 2 ^ i := fun s m {e i} hi => by
    have h := mul_two_pow_eq (M := m) hi
    simp only [decreaseExponent, Nat.shiftLeft_eq]
    cases s
    · simp only [Sign.apply, Int.cast_neg, Int.cast_natCast, neg_mul, h]
    · exact h
  rw [value_finite, value_finite, hsmall s m (min_le_left e e'), hsmall s' m' (min_le_right e e')]
  push_cast
  ring

/-- The other sign gives the negative number. -/
theorem apply_neg (s : Sign) (z : ℤ) : (-s).apply z = -s.apply z := by
  cases s
  · exact (Int.neg_neg z).symm
  · rfl

/-- The value of the negative number is the negative value. -/
theorem value_neg (d : UnpackedFloat) : value d.neg = -value d := by
  rcases d with s | _ | s | ⟨s, m, e, hm⟩
  · exact neg_zero.symm
  · exact neg_zero.symm
  · exact neg_zero.symm
  · change value (.finite (-s) m e hm) = _
    rw [value_finite, value_finite, apply_neg, Int.cast_neg, neg_mul]

/-- A number is finite with either sign. -/
theorem isFinite_neg (d : UnpackedFloat) : d.neg.isFinite = d.isFinite := by
  cases d <;> rfl

/-- A number can be read with either sign. -/
theorem Written.neg (h : Written d) : Written d.neg := by
  cases d <;> exact h

/-- A whole number times a power of two is rounded as it is. -/
theorem rounds_normalize {z : ℤ} (hz : 0 ≤ z) (e : ℤ) :
    Rounds (z * 2 ^ e) (stored (normalize Format.binary64 z e .positive)) := by
  obtain ⟨m, i, ha, hval, heq⟩ := normalize_eq hz e
  rw [heq, ← hval]
  exact rounds_round ha

/-- The sum of finite numbers that is not negative, rounded. -/
theorem rounds_add (h : Written d) (h' : Written d') (hfin : d.isFinite = true)
    (hfin' : d'.isFinite = true) (hle : 0 ≤ value d + value d') :
    Rounds (value d + value d') (stored (UnpackedFloat.add Format.binary64 d d')) := by
  -- zeros are passed over, which needs no rounding, as the other number is read as it was written
  rcases d with _ | _ | s | ⟨s, m, e, hm⟩
  · cases hfin
  · cases hfin
  · have hadd : value (.zero s) + value d' = value d' := zero_add _
    rw [hadd]
    rcases d' with _ | _ | s' | ⟨s', m', e', hm'⟩
    · cases hfin'
    · cases hfin'
    · have hzero : UnpackedFloat.add Format.binary64 (.zero s) (.zero s') = .zero s ∨
          UnpackedFloat.add Format.binary64 (.zero s) (.zero s') = .zero .positive :=
        ite_eq_or_eq _ _ _
      obtain hzero | hzero := hzero <;> rw [hzero] <;> exact rounds_zero _
    · exact h'.stored_eq.symm ▸ rounds_value rfl
  · rcases d' with _ | _ | s' | ⟨s', m', e', hm'⟩
    · cases hfin'
    · cases hfin'
    · have hadd : value (.finite s m e hm) + value (.zero s') = value (.finite s m e hm) :=
        add_zero _
      rw [hadd]
      exact h.stored_eq.symm ▸ rounds_value rfl
    · -- at the smaller of both exponents the sum is a whole number times a power of two
      rw [value_add] at hle ⊢
      refine rounds_normalize ?_ _
      have hpos : (0 : ℚ) < 2 ^ min e e' := zpow_pos (by norm_num) _
      exact_mod_cast nonneg_of_mul_nonneg_left hle hpos

/-- A difference is a sum. -/
theorem sub_eq_add (d d' : UnpackedFloat) : UnpackedFloat.sub Format.binary64 d d' =
    UnpackedFloat.add Format.binary64 d d'.neg := by
  rcases d with s | _ | s | ⟨s, m, e, hm⟩ <;> rcases d' with s' | _ | s' | ⟨s', m', e', hm'⟩ <;>
    try rfl
  -- The signed mantissas are subtracted.
  refine congrArg (normalize Format.binary64 · (min e e') .positive) ?_
  rw [apply_neg, Int.sub_eq_add_neg]

/-- What the bits of a sum stand for is the exact sum, rounded. -/
theorem rounds_read_add (hx : (read x).isFinite = true) (hy : (read y).isFinite = true)
    (h : 0 ≤ value (read x) + value (read y)) :
    Rounds (value (read x) + value (read y)) (read (x + y)) :=
  rounds_add (written_read x) (written_read y) hx hy h

/-- What the bits of a difference stand for is the exact difference, rounded. -/
theorem rounds_read_sub (hx : (read x).isFinite = true) (hy : (read y).isFinite = true)
    (h : value (read y) ≤ value (read x)) :
    Rounds (value (read x) - value (read y)) (read (x - y)) := by
  have hread : read (x - y) = stored (UnpackedFloat.sub Format.binary64 (read x) (read y)) := rfl
  rw [sub_eq_add_neg, ← value_neg, hread, sub_eq_add]
  exact rounds_add (written_read x) (written_read y).neg hx ((isFinite_neg _).trans hy)
    (by rw [value_neg]; linarith)

/-! ## Whole numbers -/

/-- Cutting off what is behind the point. -/
theorem roundToInt_positive (m : ℕ) (e : ℤ) :
    roundToInt .positive m e = ⌊(m : ℚ) * 2 ^ e⌋₊ := by
  -- as nothing of the digits in front of the point is cut off, rounding down is a division
  have hdown : roundToInt .positive m e = (m * 2 ^ e.toNat / 2 ^ (-e).toNat : ℕ) := by
    obtain ⟨r, s, h, -⟩ := shiftRight_cases (m * 2 ^ e.toNat) (-e).toNat
    have hshift : (0 - (e - e.toNat)).toNat = (-e).toNat := by omega
    simp only [roundToInt, decreaseExponent, shiftToExponent, Nat.shiftLeft_eq, Int.sub_zero,
      hshift, ExtendedMantissa.ofMantissaAndAccuracy, h]
    rfl
  rw [hdown, ← Rat.natFloor_natCast_div_natCast]
  congr 2
  push_cast
  rw [mul_div_assoc, ← zpow_natCast, ← zpow_natCast, ← zpow_sub₀ (by norm_num)]
  congr 2
  omega

/-- What is left of a number that is not negative in front of the point. -/
theorem toInt_eq_floor (hfin : d.isFinite = true) (h : 0 ≤ value d) (low high : ℤ) :
    d.toInt low high = ⌊value d⌋₊ := by
  obtain ⟨s, rfl⟩ | ⟨m, e, hm, rfl⟩ := nonneg_cases hfin h
  · rw [value_zero, Nat.floor_zero]
    rfl
  · rw [value_positive, ← roundToInt_positive]
    rfl

/-- A number that does not fit into a word becomes the largest one. -/
theorem toNat_ofNatClamp (n : ℕ) : (UInt64.ofNatClamp n).toNat = min n (2 ^ 64 - 1) := by
  rw [UInt64.ofNatClamp]
  split
  · rename_i h
    rw [UInt64.toNat_ofNatLT]
    exact (Nat.min_eq_left (Nat.le_sub_one_of_lt h)).symm
  · rename_i h
    rw [UInt64.toNat_ofNatLT]
    exact (Nat.min_eq_right (Nat.sub_le_of_le_add (Nat.le_succ_of_le (Nat.not_lt.1 h)))).symm

/-- A number is cut off to a whole one, within the bounds of a word. -/
theorem toNat_toUInt64 (x : Float) :
    x.toUInt64.toNat = min ((read x).toInt 0 (2 ^ 64 - 1)).toNat (2 ^ 64 - 1) :=
  toNat_ofNatClamp _

/-- A whole number that fits stays below what is cut off. -/
theorem le_toUInt64 (hn : n < 2 ^ 64) (h : AtLeast n (read x)) : n ≤ x.toUInt64.toNat := by
  rw [toNat_toUInt64]
  obtain hinf | ⟨hfin, hle⟩ := h
  · rw [hinf]
    exact Nat.le_sub_one_of_lt hn
  · rw [toInt_eq_floor hfin ((Nat.cast_nonneg n).trans hle), Int.toNat_natCast]
    exact Nat.le_min.2 ⟨Nat.le_floor hle, Nat.le_sub_one_of_lt hn⟩

/-- A whole number is met by what is cut off. -/
theorem toUInt64_eq (hn : n < 2 ^ 53) (h : Rounds n (read x)) : x.toUInt64.toNat = n := by
  obtain ⟨hfin, hval⟩ := h.eq (representable_natCast hn)
  rw [toNat_toUInt64, toInt_eq_floor hfin (hval ▸ Nat.cast_nonneg n), hval, Nat.floor_natCast,
    Int.toNat_natCast]
  exact Nat.min_eq_left (by omega)

/-- A small number is converted, and multiplied by one. -/
theorem ofNat_eq (hn : n < 2 ^ 53) :
    Float.ofNat n = n.toUInt64.toFloat * Float.ofBits 0x3FF0000000000000 := by
  change Float.ofScientific n false 0 = _
  rw [Float.ofScientific, dif_pos ⟨hn, by decide⟩]
  rfl

/-- A word is converted to its value, rounded. -/
theorem rounds_toFloat (n : UInt64) : Rounds n.toNat (read n.toFloat) := by
  have h := rounds_normalize (Int.natCast_nonneg n.toNat) 0
  rw [zpow_zero, mul_one] at h
  exact h

/-- Small whole numbers are represented. -/
theorem value_ofNat (hn : n < 2 ^ 53) :
    (read (.ofNat n)).isFinite = true ∧ value (read (.ofNat n)) = n := by
  have hrep := representable_natCast hn
  have hcast : n.toUInt64.toNat = n := by
    rw [Nat.toUInt64, UInt64.toNat_ofNat', Nat.mod_eq_of_lt (by omega)]
  have hfloat := rounds_toFloat n.toUInt64
  rw [hcast] at hfloat
  obtain ⟨hfin, hval⟩ := hfloat.eq hrep
  have hone : value (read (Float.ofBits 0x3FF0000000000000)) = 1 := value_one
  rw [ofNat_eq hn]
  have hmul := rounds_mul (y := Float.ofBits 0x3FF0000000000000) hfin rfl
    (by rw [hval]; exact Nat.cast_nonneg n) (by rw [hone]; exact zero_le_one)
  rw [hval, hone, mul_one] at hmul
  exact hmul.eq hrep

end Outbox.Double
