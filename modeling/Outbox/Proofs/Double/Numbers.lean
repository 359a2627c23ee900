import Outbox.Proofs.Double.Rounding

/-!
# Numbers in double precision

What the bits of a number stand for (`read`), as a rational number if it is
finite (`value`). A result is packed into bits and read back (`stored`), which
changes it only if it is too large (`stored_finite`).

What is known of a number is mostly a bound: `AtLeast q` and `AtMost q`, which
rounding keeps if the bound needs none itself (`Rounds`, `rounds_round`).
Numbers that are not negative are compared by their values (`compare_eq`).
-/

namespace Outbox.Double

open Float.Model Float.Model.UnpackedFloat

variable {m n : ℕ} {e : ℤ} {q : ℚ}

/-! ## Bits -/

/-- What is read back of a result. -/
def stored (d : UnpackedFloat) : UnpackedFloat :=
  UnpackedFloat.unpack Format.binary64 (UnpackedFloat.pack Format.binary64 d)

/-- The sign that is packed is the one that is found. -/
theorem unpackSign_packComponents {spec : Format} (s : Sign) (e : BitVec spec.exponentBits)
    (m : BitVec spec.mantissaBitsWithoutImplicit) :
    unpackSign (packComponents spec s e m) = s.toBitVec := by
  refine BitVec.eq_of_getLsbD_eq fun i hi => ?_
  obtain rfl : i = 0 := by omega
  change (BitVec.extractLsb' _ _ (s.toBitVec ++ e ++ m)).getLsbD 0 = _
  simp [BitVec.getLsbD_append, BitVec.getElem_append]

/-- The first digit is not stored, but stands for `2 ^ 52`. -/
theorem toNat_one_append (m : BitVec 52) : (1#1 ++ m).toNat = 2 ^ 52 + m.toNat := by
  rw [BitVec.toNat_append, ← Nat.shiftLeft_add_eq_or_of_lt m.isLt]
  simp [Nat.shiftLeft_eq]

/-- A sign is found in its bit. -/
theorem ofBitVec_toBitVec (s : Sign) : Sign.ofBitVec s.toBitVec = s := by
  cases s <;> rfl

/-- The number with the given sign, exponent and mantissa. -/
def ofFields (s : Sign) (e : BitVec 11) (m : BitVec 52) : UnpackedFloat :=
  if e = -1#11 then if m = 0#52 then .infinity s else .notANumber
  else if e = 0#11 then
    if h : m = 0#52 then .zero s
    else .finite s m.toNat (-1074) (by simpa [BitVec.toNat_pos, BitVec.pos_iff_ne_zero])
  else .finite s (2 ^ 52 + m.toNat) (e.toNat - 1075) (by omega)

/-- Finite numbers of the same sign are equal when mantissa and exponent are. -/
theorem finite_congr (s : Sign) {m m' : ℕ} {e e' : ℤ} (hm : 0 < m) (hm' : 0 < m') (h : m = m')
    (he : e = e') :
    UnpackedFloat.finite s m e hm = .finite s m' e' hm' := by
  subst h he
  rfl

/-- A number is unpacked field by field. -/
theorem unpack_eq (b : BitVec 64) : UnpackedFloat.unpack Format.binary64 b =
    ofFields (Sign.ofBitVec (@unpackSign Format.binary64 b)) (@unpackExponent Format.binary64 b)
      (@unpackMantissa Format.binary64 b) := by
  unfold UnpackedFloat.unpack ofFields
  refine ite_congr rfl (fun _ => rfl) fun _ => ite_congr rfl (fun h => ?_) fun _ => ?_
  · exact dite_congr rfl (fun _ => rfl) fun _ => finite_congr _ _ _ rfl (by rw [h]; rfl)
  · exact finite_congr _ _ _ (toNat_one_append _) rfl

/-- The fields that are packed are those that are found. -/
theorem unpack_packComponents (s : Sign) (e : BitVec 11) (m : BitVec 52) :
    UnpackedFloat.unpack Format.binary64 (packComponents Format.binary64 s e m) =
      ofFields s e m := by
  simp only [unpack_eq, unpackMantissa_packComponents, unpackExponent_packComponents,
    unpackSign_packComponents, ofBitVec_toBitVec]

/-- A finite number found in fields is written in the one way there is, and is not too large. -/
theorem canonical_ofFields {s s' : Sign} {x : BitVec 11} {y : BitVec 52} {m : ℕ} {e : ℤ}
    {hm : 0 < m} (h : ofFields s' x y = .finite s m e hm) : Canonical m e ∧ e ≤ 971 := by
  rw [ofFields] at h
  have hmant := y.isLt
  have hexp := x.isLt
  -- the largest exponent is kept for what is not finite, the smallest one for zero and the
  -- numbers with fewer digits
  by_cases hinf : x = -1#11
  · rw [if_pos hinf] at h
    by_cases hy : y = 0#52
    · rw [if_pos hy] at h
      cases h
    · rw [if_neg hy] at h
      cases h
  rw [if_neg hinf] at h
  by_cases hzero : x = 0#11
  · rw [if_pos hzero] at h
    by_cases hy : y = 0#52
    · rw [dif_pos hy] at h
      cases h
    · rw [dif_neg hy] at h
      obtain ⟨-, rfl, rfl⟩ := UnpackedFloat.finite.inj h
      exact ⟨⟨by omega, by decide, .inr rfl⟩, by decide⟩
  · rw [if_neg hzero] at h
    obtain ⟨-, rfl, rfl⟩ := UnpackedFloat.finite.inj h
    have hinf' : x.toNat ≠ 2047 := fun h => hinf (BitVec.eq_of_toNat_eq h)
    have hzero' : x.toNat ≠ 0 := fun h => hzero (BitVec.eq_of_toNat_eq h)
    exact ⟨⟨by omega, by omega, .inl (by omega)⟩, by omega⟩

/-- A word is told from another one by the number in it. -/
theorem ofNat_ne {n w : ℕ} (h : n < 2 ^ w) {b : BitVec w} (hb : b.toNat ≠ n) :
    BitVec.ofNat w n ≠ b := by
  rintro rfl
  exact hb (by rw [BitVec.toNat_ofNat, Nat.mod_eq_of_lt h])

/-- A finite number is packed by its exponent, which may be too large, or that of the
    numbers with fewer digits. -/
theorem pack_finite (s : Sign) (m : ℕ) (e : ℤ) (hm : 0 < m) :
    UnpackedFloat.pack Format.binary64 (.finite s m e hm) =
      let exponent := (e + Format.exponentBias Format.binary64 +
        Format.mantissaBitsWithoutImplicit Format.binary64).toNat
      if 2 ^ Format.exponentBits Format.binary64 ≤ exponent + 1 then packedInfinity _ s
      else if m.log2 + 1 = Format.binary64.mantissaBits then
        packComponents _ s (BitVec.ofNat 11 exponent) (BitVec.ofNat 52 m)
      else packComponents _ s 0#11 (BitVec.ofNat 52 m) := rfl

/-- In its one way to be written a finite number is packed as it is, unless it is too large. -/
theorem pack_eq (s : Sign) {m : ℕ} {e : ℤ} (hm : 0 < m) (h : Canonical m e) :
    UnpackedFloat.pack Format.binary64 (.finite s m e hm) =
      if 971 < e then packedInfinity _ s
      else if 2 ^ 52 ≤ m then
        packComponents _ s (BitVec.ofNat 11 (e + 1075).toNat) (BitVec.ofNat 52 m)
      else packComponents _ s 0#11 (BitVec.ofNat 52 m) := by
  have hle := h.le
  have hbias : (e + Format.exponentBias Format.binary64 +
      Format.mantissaBitsWithoutImplicit Format.binary64).toNat = (e + 1075).toNat := by
    simp only [Format.exponentBias]
    omega
  have hover : 2 ^ Format.exponentBits Format.binary64 ≤ (e + 1075).toNat + 1 ↔ 971 < e := by
    change 2048 ≤ (e + 1075).toNat + 1 ↔ 971 < e
    omega
  -- all digits are there when the first one is
  have hlog : m.log2 + 1 = Format.binary64.mantissaBits ↔ 2 ^ 52 ≤ m := by
    have hlog := (Nat.log2_lt hm.ne').2 h.lt
    rw [← Nat.le_log2 hm.ne']
    change m.log2 + 1 = 53 ↔ 52 ≤ m.log2
    omega
  rw [pack_finite]
  simp only [hbias, hover, hlog]

/-- A finite number is read back as it is, unless it is too large. -/
theorem stored_finite (s : Sign) {m : ℕ} {e : ℤ} (hm : 0 < m) (h : Canonical m e) :
    stored (.finite s m e hm) = if 971 < e then .infinity s else .finite s m e hm := by
  rw [stored, pack_eq s hm h]
  obtain ⟨hlt, hle, hn⟩ := h
  by_cases he : 971 < e
  · rw [if_pos he, if_pos he]
    cases s <;> rfl
  rw [if_neg he, if_neg he]
  -- with all digits the first one is left out, and the exponent is the one in the field
  by_cases hnormal : 2 ^ 52 ≤ m
  · have hexp : (e + 1075).toNat % 2 ^ 11 = (e + 1075).toNat := Nat.mod_eq_of_lt (by omega)
    rw [if_pos hnormal, unpack_packComponents, ofFields,
      if_neg (ofNat_ne (by omega) (by simp; omega)), if_neg (ofNat_ne (by omega) (by simp; omega))]
    refine finite_congr s _ _ ?_ ?_ <;> rw [BitVec.toNat_ofNat] <;> omega
  · rw [if_neg hnormal, unpack_packComponents, ofFields, if_neg (by decide), if_pos rfl,
      dif_neg (ofNat_ne (by omega) (by simp; omega))]
    refine finite_congr s _ _ ?_ (hn.resolve_left hnormal).symm
    rw [BitVec.toNat_ofNat]
    omega

/-! ## Values -/

/-- The number that is meant. -/
def value : UnpackedFloat → ℚ
  | .finite s m e _ => s.apply m * 2 ^ e
  | .zero _ | .infinity _ | .notANumber => 0

/-- The number is at least `q`, or infinite. -/
def AtLeast (q : ℚ) (d : UnpackedFloat) : Prop :=
  d = .infinity .positive ∨ (d.isFinite = true ∧ q ≤ value d)

/-- The number is at most `q`. -/
def AtMost (q : ℚ) (d : UnpackedFloat) : Prop := d.isFinite = true ∧ value d ≤ q

@[simp] theorem stored_zero (s : Sign) : stored (.zero s) = .zero s := by cases s <;> rfl

@[simp] theorem stored_infinity (s : Sign) : stored (.infinity s) = .infinity s := by
  cases s <;> rfl

@[simp] theorem stored_notANumber : stored .notANumber = .notANumber := rfl

@[simp] theorem value_zero (s : Sign) : value (.zero s) = 0 := rfl

/-- The value of a finite number, by its parts. -/
theorem value_finite (s : Sign) (m : ℕ) (e : ℤ) (hm : 0 < m) :
    value (.finite s m e hm) = s.apply m * 2 ^ e := rfl

/-- The value of a positive number, by its parts. -/
theorem value_positive (m : ℕ) (e : ℤ) (hm : 0 < m) :
    value (.finite .positive m e hm) = m * 2 ^ e :=
  congrArg (· * 2 ^ e) (Int.cast_natCast m)

/-- The number is `q`, rounded: it is above what `q` is above, and below what it
    is below, as far as these need no rounding themselves. -/
structure Rounds (q : ℚ) (d : UnpackedFloat) : Prop where
  atLeast : ∀ {p : ℚ}, Representable p → p ≤ q → AtLeast p d
  atMost : ∀ {p : ℚ}, Representable p → q ≤ p → AtMost p d

/-- A number with enough digits is rounded properly. -/
theorem rounds_round (ha : Ample m e) : Rounds (m * 2 ^ e)
    (stored (roundWithAccuracy Format.binary64 .positive m e .exact)) := by
  obtain ⟨hzero, hr⟩ | ⟨m', e', hm', hr, hcan, hval⟩ := roundWithAccuracy_cases .positive ha
  · rw [hr, stored_zero]
    refine ⟨fun hp h => .inr ⟨rfl, ?_⟩, fun hp h => ⟨rfl, ?_⟩⟩
    · simpa [hzero] using hp.le_shifted ha h
    · simpa [hzero] using hp.shifted_le ha h
  rw [hr, stored_finite _ _ hcan]
  refine ⟨fun hp h => ?_, fun hp h => ?_⟩
  · by_cases hexp : 971 < e'
    · exact .inl (if_pos hexp)
    · rw [if_neg hexp]
      exact .inr ⟨rfl, by rw [value_positive, hval]; exact hp.le_shifted ha h⟩
  · have hle := hp.shifted_le ha h
    rw [← hval] at hle
    -- The number is not above one that has an exponent.
    have hexp : e' ≤ 971 := by
      obtain ⟨M, E, hM, -, hE, rfl⟩ := hp
      by_contra hlt
      have hn : 2 ^ 52 ≤ m' := hcan.normal.resolve_right (by omega)
      refine absurd (lt_of_lt_of_le (mul_two_pow_lt hM (show E < e' by omega)) ?_) hle.not_gt
      gcongr
      exact_mod_cast hn
    rw [if_neg hexp.not_gt]
    exact ⟨rfl, by rwa [value_positive]⟩

variable {d d' : UnpackedFloat}

/-- Between two numbers that need no rounding, a result stays there. -/
theorem Rounds.between {p r : ℚ} (h : Rounds q d) (hp : Representable p) (hr : Representable r)
    (hle : p ≤ q) (hle' : q ≤ r) : d.isFinite = true ∧ p ≤ value d ∧ value d ≤ r := by
  obtain ⟨hfin, hbelow⟩ := h.atMost hr hle'
  obtain rfl | ⟨-, habove⟩ := h.atLeast hp hle
  · cases hfin
  · exact ⟨hfin, habove, hbelow⟩

/-- A number that needs no rounding is met. -/
theorem Rounds.eq (h : Rounds q d) (hq : Representable q) : d.isFinite = true ∧ value d = q := by
  obtain ⟨hfin, hge, hle⟩ := h.between hq hq le_rfl le_rfl
  exact ⟨hfin, le_antisymm hle hge⟩

/-- A finite number is its own value, rounded. -/
theorem rounds_value (hfin : d.isFinite = true) : Rounds (value d) d :=
  ⟨fun _ hp => .inr ⟨hfin, hp⟩, fun _ hp => ⟨hfin, hp⟩⟩

/-- Zero is rounded to zero. -/
theorem rounds_zero (s : Sign) : Rounds 0 (stored (.zero s)) := by
  rw [stored_zero]
  exact rounds_value (show (UnpackedFloat.zero s).isFinite = true from rfl)

/-- What the bits of a number stand for. -/
def read (x : Float) : UnpackedFloat := x.toModel.unpack

variable {x y : Float}

/-- The number is one that can be read. -/
def Written : UnpackedFloat → Prop
  | .finite _ m e _ => Canonical m e ∧ e ≤ 971
  | .zero _ | .infinity _ | .notANumber => True

/-- What bits stand for can be read. -/
theorem written_read (x : Float) : Written (read x) := by
  have hread : read x = _ := unpack_eq x.toModel.toBits.toBitVec
  generalize hd : read x = d at hread ⊢
  rcases d with _ | _ | _ | ⟨s, m, e, hm⟩
  · trivial
  · trivial
  · trivial
  · exact canonical_ofFields hread.symm

/-- What can be read is stored as it is. -/
theorem Written.stored_eq (h : Written d) : stored d = d := by
  rcases d with s | _ | s | ⟨s, m, e, hm⟩
  · exact stored_infinity s
  · exact stored_notANumber
  · exact stored_zero s
  · obtain ⟨hcan, he⟩ := h
    rw [stored_finite s hm hcan, if_neg he.not_gt]

/-! ## Comparisons -/

variable {m' : ℕ} {e' : ℤ}

/-- A number that is not negative is zero, or has the positive sign. -/
theorem nonneg_cases (hfin : d.isFinite = true) (h : 0 ≤ value d) :
    (∃ s, d = .zero s) ∨ ∃ m e hm, d = .finite .positive m e hm := by
  rcases d with _ | _ | s | ⟨_ | _, m, e, hm⟩
  · cases hfin
  · cases hfin
  · exact .inl ⟨s, rfl⟩
  · have hpos : (0 : ℚ) < m * 2 ^ e := mul_pos (by exact_mod_cast hm) (zpow_pos (by norm_num) e)
    rw [value_finite, Sign.apply] at h
    push_cast at h
    linarith
  · exact .inr ⟨m, e, hm, rfl⟩

/-- With the exponent above, or the mantissa above at the same exponent, the
    number is above. -/
theorem compare_positive (h : Canonical m e) (h' : Canonical m' e') :
    (compare e e').then (compare m m') = compare ((m : ℚ) * 2 ^ e) (m' * 2 ^ e') := by
  -- A larger exponent calls for all digits.
  have hlt : ∀ {m n : ℕ} {e i : ℤ}, Canonical m e → Canonical n i → e < i →
      (m : ℚ) * 2 ^ e < n * 2 ^ i := fun {m n e i} hm hn hlt => by
    have hfull : 2 ^ 52 ≤ n := hn.normal.resolve_right (by have := hm.le; omega)
    refine (mul_two_pow_lt hm.lt hlt).trans_le ?_
    gcongr
    exact_mod_cast hfull
  rcases lt_trichotomy e e' with he | rfl | he
  · rw [compare_lt_iff_lt.2 he, compare_lt_iff_lt.2 (hlt h h' he)]
    rfl
  · have hpos : (0 : ℚ) < 2 ^ e := zpow_pos (by norm_num) e
    rw [compare_eq_iff_eq.2 rfl]
    rcases lt_trichotomy m m' with hm | rfl | hm
    · rw [compare_lt_iff_lt.2 hm, compare_lt_iff_lt.2 (by gcongr)]
      rfl
    · rw [compare_eq_iff_eq.2 rfl, compare_eq_iff_eq.2 rfl]
      rfl
    · rw [compare_gt_iff_gt.2 hm, compare_gt_iff_gt.2 (by gcongr)]
      rfl
  · rw [compare_gt_iff_gt.2 he, compare_gt_iff_gt.2 (hlt h' h he)]
    rfl

/-- Numbers that are not negative compare as their values. -/
theorem compare_eq (h : Written d) (h' : Written d') (hfin : d.isFinite = true)
    (hfin' : d'.isFinite = true) (hq : 0 ≤ value d) (hq' : 0 ≤ value d') :
    d.compare d' = some (compare (value d) (value d')) := by
  have hpos : ∀ {m : ℕ} (e : ℤ), 0 < m → (0 : ℚ) < m * 2 ^ e := fun e hm =>
    mul_pos (by exact_mod_cast hm) (zpow_pos (by norm_num) e)
  obtain ⟨s, rfl⟩ | ⟨m, e, hm, rfl⟩ := nonneg_cases hfin hq <;>
    obtain ⟨s', rfl⟩ | ⟨m', e', hm', rfl⟩ := nonneg_cases hfin' hq'
  · rw [value_zero, value_zero, compare_eq_iff_eq.2 rfl]
    rfl
  · rw [value_positive, value_zero, compare_lt_iff_lt.2 (hpos e' hm')]
    rfl
  · rw [value_positive, value_zero, compare_gt_iff_gt.2 (hpos e hm)]
    rfl
  · rw [value_positive, value_positive, ← compare_positive h.1 h'.1]
    rfl

/-- Numbers are compared by what their bits stand for. -/
theorem le_iff : x ≤ y ↔ (read x).le (read y) = true := decide_eq_true_iff

/-- Numbers are compared by what their bits stand for. -/
theorem lt_iff : x < y ↔ (read x).lt (read y) = true := decide_eq_true_iff

theorem read_one : read 1.0 = .finite .positive (2 ^ 52) (-52) (by decide) := rfl

/-- The value of one is one. -/
theorem value_one : value (read 1.0) = 1 := by
  rw [read_one, value_positive]
  norm_num

/-- What is not below one is at least one, if it is a number. -/
theorem atLeast_one (hlt : ¬x < 1.0) (hnan : x.isNaN = false) : AtLeast 1 (read x) := by
  have hw := written_read x
  have hw₁ := written_read 1.0
  have hv₁ := value_one
  replace hlt : (read x).lt (read 1.0) = false := by simpa [lt_iff] using hlt
  replace hnan : (read x).isNaN = false := hnan
  generalize read x = d at *
  -- a negative number, zero and minus infinity are all below one
  rcases d with (_ | _) | _ | s | ⟨_ | _, m, e, hm⟩
  · cases hlt
  · exact .inl rfl
  · cases hnan
  · cases hlt
  · cases hlt
  · have hv : 0 ≤ value (.finite .positive m e hm) := by rw [value_positive]; positivity
    rw [UnpackedFloat.lt, compare_eq hw hw₁ rfl rfl hv (by rw [hv₁]; norm_num), hv₁] at hlt
    refine .inr ⟨rfl, not_lt.1 fun h => ?_⟩
    rw [compare_lt_iff_lt.2 h] at hlt
    cases hlt

/-- What is between zero and one is a number there. -/
theorem unit_of_le (h₀ : 0.0 ≤ x) (h₁ : x ≤ 1.0) :
    (read x).isFinite = true ∧ 0 ≤ value (read x) ∧ value (read x) ≤ 1 := by
  have hw := written_read x
  have hw₁ := written_read 1.0
  have hv₁ := value_one
  rw [le_iff] at h₀ h₁
  generalize read x = d at *
  rcases d with (_ | _) | _ | s | ⟨_ | _, m, e, hm⟩
  · cases h₀
  · cases h₁
  · cases h₁
  · exact ⟨rfl, le_rfl, zero_le_one⟩
  · cases h₀
  · have hv : 0 ≤ value (.finite .positive m e hm) := by rw [value_positive]; positivity
    rw [UnpackedFloat.le, compare_eq hw hw₁ rfl rfl hv (by rw [hv₁]; norm_num), hv₁] at h₁
    exact ⟨rfl, hv, compare_le_iff_le.1 (Ordering.ne_gt_iff_isLE.2 h₁)⟩

/-- A number is below another one if a value is between them. -/
theorem le_of_value_le (hx : (read x).isFinite = true) (hy : (read y).isFinite = true)
    (h : 0 ≤ value (read x)) (hle : value (read x) ≤ value (read y)) : x ≤ y := by
  rw [le_iff, UnpackedFloat.le,
    compare_eq (written_read x) (written_read y) hx hy h (h.trans hle)]
  exact Ordering.ne_gt_iff_isLE.1 (compare_le_iff_le.2 hle)

end Outbox.Double
