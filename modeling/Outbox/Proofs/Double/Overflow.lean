import Outbox.Proofs.Double.Arithmetic

/-!
# Numbers that are too large

A product is infinite from `2 ^ 1024` on (`read_mul_of_le`). Below that, rounding changes a
whole number by a hundredth of it at most (`Rounds.near`), which is a generous bound. It is
enough to tell whether a small number times a power of ten is too large, as the powers of
ten are rounded themselves (`rounds_powerOfTen`).
-/

namespace Outbox.Double

open Float.Model Float.Model.UnpackedFloat

variable {m n k : ℕ} {e : ℤ} {d : UnpackedFloat} {x y : Float}

/-! ## Infinite results -/

/-- A number from `2 ^ 1024` on is rounded to infinity. -/
theorem stored_round_of_le (ha : Ample m e) (h : 2 ^ 1024 ≤ (m : ℚ) * 2 ^ e) :
    stored (roundWithAccuracy Format.binary64 .positive m e .exact) = .infinity .positive := by
  have hle : ((2 ^ 52 : ℕ) : ℚ) * 2 ^ (972 : ℤ) ≤
      shifted m (excess m e) * 2 ^ (e + excess m e) := by
    refine mul_two_pow_le_shifted (by decide) (by decide) ha (le_trans (le_of_eq ?_) h)
    rw [Nat.cast_pow, Nat.cast_ofNat, zpow_ofNat, ← pow_add]
  obtain ⟨hzero, -⟩ | ⟨m', e', hm', hr, hcan, hval⟩ := roundWithAccuracy_cases .positive ha
  · have hpos : (0 : ℚ) < ((2 ^ 52 : ℕ) : ℚ) * 2 ^ (972 : ℤ) := by positivity
    rw [hzero, Nat.cast_zero, zero_mul] at hle
    exact absurd hle hpos.not_ge
  · rw [← hval] at hle
    -- with 53 digits, it takes an exponent beyond the format
    have hexp : 971 < e' := by
      by_contra hlt
      have hsmall := mul_two_pow_lt hcan.lt (show e' < 972 by omega)
      rw [Nat.cast_pow, Nat.cast_ofNat] at hle
      exact hsmall.not_ge hle
    rw [hr, stored_finite _ _ hcan, if_pos hexp]

/-- A product that is too large is infinite. -/
theorem read_mul_of_le (hx : (read x).isFinite = true) (hy : (read y).isFinite = true)
    (hx₀ : 0 ≤ value (read x)) (hy₀ : 0 ≤ value (read y))
    (h : 2 ^ 1024 ≤ value (read x) * value (read y)) : read (x * y) = .infinity .positive := by
  have hpos : (0 : ℚ) < 2 ^ 1024 := by positivity
  obtain ⟨s, hx⟩ | ⟨m, e, hm, hx⟩ := nonneg_cases hx hx₀
  · rw [hx, value_zero, zero_mul] at h
    exact absurd h hpos.not_ge
  obtain ⟨s', hy⟩ | ⟨m', e', hm', hy⟩ := nonneg_cases hy hy₀
  · rw [hy, value_zero, mul_zero] at h
    exact absurd h hpos.not_ge
  obtain ⟨M, E, ha, hval, hmul⟩ := read_mul_positive hx hy
  rw [hmul, stored_round_of_le ha (hval ▸ h)]

/-- A number that stands for infinity is infinite. -/
theorem isInf_eq_true (h : read x = .infinity .positive) : x.isInf = true :=
  congrArg UnpackedFloat.isInf h

/-- A finite number is not infinite. -/
theorem isInf_eq_false (h : (read x).isFinite = true) : x.isInf = false := by
  change (read x).isInf = false
  cases hr : read x <;> rw [hr] at h <;> first | rfl | cases h

/-! ## Whole numbers -/

/-- A number has at most 53 digits in front of some place, and many of them unless it is the
    last one. -/
theorem exists_place (h : n < (2 ^ 53 - 1) * 2 ^ k) :
    ∃ c ≤ k, n < (2 ^ 53 - 1) * 2 ^ c ∧ (c = 0 ∨ 101 * 2 ^ c ≤ n) := by
  induction k with
  | zero => exact ⟨0, le_rfl, h, .inl rfl⟩
  | succ k ih =>
    by_cases hk : n < (2 ^ 53 - 1) * 2 ^ k
    · obtain ⟨c, hc, h⟩ := ih hk
      exact ⟨c, Nat.le_succ_of_le hc, h⟩
    · refine ⟨k + 1, le_rfl, h, .inr ?_⟩
      rw [Nat.pow_succ]
      omega

/-- A short mantissa with zeros behind it needs no rounding. -/
theorem representable_mul (hm : m < 2 ^ 53) (hk : k ≤ 971) : Representable (m * 2 ^ k) :=
  ⟨m, k, hm, by omega, by omega, by rw [zpow_natCast]⟩

/-- Rounding changes a whole number by a hundredth of it at most. -/
theorem Rounds.near (h : Rounds n d) (hn : n < (2 ^ 53 - 1) * 2 ^ 971) :
    d.isFinite = true ∧ 100 * (n : ℚ) ≤ 101 * value d ∧ 100 * value d ≤ 101 * n := by
  obtain ⟨c, hc, hlt, rfl | hle⟩ := exists_place hn
  · obtain ⟨hfin, hval⟩ := h.eq (representable_natCast (Nat.lt_of_lt_of_le hlt (by decide)))
    rw [hval]
    have hpos : (0 : ℚ) ≤ n := Nat.cast_nonneg n
    exact ⟨hfin, by linarith, by linarith⟩
  · -- the number is between two neighbours at that place, which are less than a hundredth apart
    clear hn
    have hpos := Nat.two_pow_pos c
    have hm : n / 2 ^ c < 2 ^ 53 - 1 := (Nat.div_lt_iff_lt_mul hpos).2 hlt
    have hbelow : n / 2 ^ c * 2 ^ c ≤ n := Nat.div_mul_le_self n _
    have habove : n < (n / 2 ^ c + 1) * 2 ^ c :=
      (Nat.div_lt_iff_lt_mul hpos).1 (Nat.lt_succ_self _)
    generalize n / 2 ^ c = m at *
    replace hbelow : (m : ℚ) * 2 ^ c ≤ n := by exact_mod_cast hbelow
    replace habove : (n : ℚ) ≤ (m + 1 : ℕ) * 2 ^ c := by exact_mod_cast habove.le
    replace hle : 101 * (2 : ℚ) ^ c ≤ n := by exact_mod_cast hle
    obtain ⟨hfin, hlow, hhigh⟩ := h.between (representable_mul (by omega) hc)
      (representable_mul (by omega) hc) hbelow habove
    push_cast at habove hhigh
    exact ⟨hfin, by linarith, by linarith⟩

/-! ## Powers of ten -/

/-- Small powers of ten are looked up, which makes no difference. -/
theorem read_powerOfTen (k : ℕ) : read (Float.ofScientific 1 false k) =
    stored (UnpackedFloat.ofScientific Format.binary64 1 k) := by
  rcases Nat.lt_or_ge k 23 with hk | hk
  · have hsmall : ∀ k : Fin 23, (Float.ofScientific 1 false k).toModel.toBits.toBitVec =
        UnpackedFloat.pack Format.binary64 (UnpackedFloat.ofScientific Format.binary64 1 k) := by
      decide +kernel
    exact congrArg (UnpackedFloat.unpack Format.binary64) (hsmall ⟨k, hk⟩)
  · rw [Float.ofScientific, dif_neg (by omega)]
    rfl

/-- A power of ten is read as itself, rounded. -/
theorem rounds_powerOfTen (hk : k ≤ 308) :
    Rounds (10 ^ k : ℕ) (read (Float.ofScientific 1 false k)) := by
  -- the power is small enough that it is computed exactly, and rounded once
  have hmul : UnpackedFloat.ofScientific Format.binary64 1 k =
      roundWithAccuracy Format.binary64 .positive (2 ^ 53 * 10 ^ k) (-53) .exact := by
    have hhigh : ¬(k : ℤ) > 2 ^ Format.binary64.exponentBits := by
      change ¬(k : ℤ) > 2 ^ 11
      omega
    have hlow : ¬(k : ℤ) < -(2 ^ Format.binary64.exponentBits + Nat.log2 1) := by
      change ¬(k : ℤ) < -(2 ^ 11 + Nat.log2 1)
      omega
    rw [UnpackedFloat.ofScientific, dif_neg one_ne_zero, if_neg hhigh, if_neg hlow,
      if_pos (Int.natCast_nonneg k)]
    rfl
  have hlarge : 2 ^ 52 ≤ 2 ^ 53 * 10 ^ k :=
    Nat.le_trans (by decide) (Nat.le_mul_of_pos_right _ (Nat.pow_pos (by decide)))
  have h := rounds_round (e := -53) (.inl hlarge)
  have hval : ((2 ^ 53 * 10 ^ k : ℕ) : ℚ) * 2 ^ (-53 : ℤ) = (10 ^ k : ℕ) := by
    push_cast
    rw [mul_right_comm]
    norm_num
  rwa [hval, ← hmul, ← read_powerOfTen] at h

end Outbox.Double
