import Outbox.Proofs.Backoff.Iterators

/-!
# The lengths of pauses

Without jitter, the first pause is the initial interval, and no pause is longer
than the longest interval. None is shorter than the initial interval, as long as
the factor is a number (`ofMillis_le_delay`): powers of what is at least one are
at least one (`atLeast_power`), be they rounded or infinite, and so is a whole
number that is multiplied by them.

Settings that are valid may have a factor that is no number, as only numbers
below one are refused. Then all pauses but the first are over at once
(`delay_eq_zero`), and this is the only exception (`bounded_iff`).
-/

namespace Outbox

open Double Float.Model

/-! ## Powers -/

variable {r a : Float}

/-- Squaring keeps above one what is above one. -/
theorem atLeast_squarings (hr : AtLeast 1 (read r)) (ha : AtLeast 1 (read a)) (fuel n : ℕ) :
    AtLeast 1 (read (squarings fuel n r a)) := by
  -- one needs no rounding, so that no product gets below it
  have hmul : ∀ {x y : Float}, AtLeast 1 (read x) → AtLeast 1 (read y) →
      AtLeast 1 (read (x * y)) := fun hx hy => by
    have hone : Representable (1 * 1) := by
      exact_mod_cast representable_natCast (n := 1) (by decide)
    have h := atLeast_mul zero_lt_one zero_lt_one hx hy hone
    rwa [mul_one] at h
  induction fuel generalizing n r a with
  | zero => exact hr
  | succ fuel ih =>
    have hstep : AtLeast 1 (read (if n % 2 = 1 then r * a else r)) := by
      split
      · exact hmul hr ha
      · exact hr
    rw [squarings]
    split
    · exact hstep
    · exact ih hstep (hmul ha ha) (n / 2)

/-- Powers of what is at least one are at least one. -/
theorem atLeast_power (ha : AtLeast 1 (read a)) (n : ℕ) : AtLeast 1 (read (power a n)) :=
  atLeast_squarings (.inr ⟨rfl, value_one.ge⟩) ha _ n

/-- No power of what is no number is one, as its last digit is multiplied in. -/
theorem squarings_notANumber (ha : read a = .notANumber) (fuel n : ℕ)
    (h : read r = .notANumber ∨ n ≠ 0 ∧ n < 2 ^ fuel) :
    read (squarings fuel n r a) = .notANumber := by
  induction fuel generalizing n r a with
  | zero => exact h.resolve_right (by omega)
  | succ fuel ih =>
    rw [squarings]
    by_cases hodd : n % 2 = 1
    · have hr := read_mul_notANumber (x := r) ha
      simp only [if_pos hodd]
      split
      · exact hr
      · exact ih (read_mul_notANumber ha) _ (.inl hr)
    · simp only [if_neg hodd]
      split
      · exact h.resolve_right (by omega)
      · exact ih (read_mul_notANumber ha) _ (h.imp_right (by omega))

/-- Powers of what is no number are none, but for the empty one. -/
theorem power_notANumber (ha : read a = .notANumber) {n : ℕ} (hn : n ≠ 0) :
    read (power a n) = .notANumber :=
  squarings_notANumber ha _ n (.inr ⟨hn, Nat.lt_log2_self⟩)

/-! ## Pauses without jitter -/

variable {s : RetrySettings}

/-- The milliseconds of the given pause, counted from zero. -/
def RetrySettings.millis (s : RetrySettings) (k : ℕ) : Float :=
  .ofNat s.initialInterval.toNat * power s.factor k

/-- A later pause is the interval multiplied, or the longest one. -/
theorem delay_eq (hj : (s.jitter == 0.0) = true) (draw : Float) (k : ℕ) :
    (Backoff.ofSettings s).delay draw (k + 1) =
      min (.ofMillis (s.millis k).toUInt64.toNat) (.ofMillis s.maxInterval.toNat) := by
  have hmillis : (Backoff.ofSettings s).initial.millis = s.initialInterval.toNat :=
    Nat.mul_div_cancel _ (by decide)
  have hjitter : ((Backoff.ofSettings s).jitter == 0.0) = true := hj
  rw [Backoff.delay, hmillis, hjitter, if_pos rfl]
  rfl

/-- More milliseconds are a longer time. -/
theorem ofMillis_le {m n : ℕ} (h : m ≤ n) : Span.ofMillis m ≤ .ofMillis n :=
  Nat.mul_le_mul_right _ h

/-- The first pause is the initial interval. -/
theorem delay_one (hs : s.validate = .ok ()) (hj : (s.jitter == 0.0) = true) (draw : Float) :
    (Backoff.ofSettings s).delay draw 1 = .ofMillis s.initialInterval.toNat := by
  obtain ⟨-, -, hmax⟩ := RetrySettings.validate_eq_ok_iff.1 hs
  have hlt : s.initialInterval.toNat < 2 ^ 53 := by
    have := s.initialInterval.toNat_lt
    omega
  have hmillis : Rounds s.initialInterval.toNat (read (s.millis 0)) := by
    obtain ⟨hfin, hval⟩ := value_ofNat hlt
    have h := rounds_mul (y := 1.0) hfin rfl (hval ▸ Nat.cast_nonneg _)
      (value_one ▸ zero_le_one)
    rwa [hval, value_one, mul_one] at h
  rw [delay_eq hj draw 0, toUInt64_eq hlt hmillis]
  exact Nat.min_eq_left (ofMillis_le hmax)

/-- With a factor that is a number, no pause is shorter than the first one. -/
theorem ofMillis_le_delay (hs : s.validate = .ok ()) (hj : (s.jitter == 0.0) = true)
    (hnan : s.factor.isNaN = false) (draw : Float) (k : ℕ) :
    .ofMillis s.initialInterval.toNat ≤ (Backoff.ofSettings s).delay draw (k + 1) := by
  obtain ⟨-, hfactor, hmax⟩ := RetrySettings.validate_eq_ok_iff.1 hs
  rw [delay_eq hj draw k]
  refine Nat.le_min.2 ⟨ofMillis_le ?_, ofMillis_le hmax⟩
  rcases Nat.eq_zero_or_pos s.initialInterval.toNat with hzero | hpos
  · rw [hzero]
    exact Nat.zero_le _
  have hlt := s.initialInterval.toNat_lt
  have hpos' : (0 : ℚ) < s.initialInterval.toNat := Nat.cast_pos.2 hpos
  obtain ⟨hfin, hval⟩ := value_ofNat (n := s.initialInterval.toNat) (by omega)
  have hmul := atLeast_mul hpos' zero_lt_one (.inr ⟨hfin, hval.ge⟩)
    (atLeast_power (atLeast_one hfactor hnan) k)
    (by rw [mul_one]; exact representable_natCast (by omega))
  rw [mul_one] at hmul
  exact le_toUInt64 (by omega) hmul

/-- What is no number stands for none. -/
theorem read_eq_notANumber {x : Float} (h : x.isNaN = true) : read x = .notANumber := by
  have hnan : (read x).isNaN = true := h
  rcases hx : read x with _ | _ | _ | _ <;> rw [hx] at hnan <;> first | rfl | cases hnan

/-- With a factor that is no number, all pauses but the first are over at once. -/
theorem delay_eq_zero (hj : (s.jitter == 0.0) = true) (hnan : s.factor.isNaN = true)
    (draw : Float) (k : ℕ) : (Backoff.ofSettings s).delay draw (k + 2) = 0 := by
  have hmillis : read (s.millis (k + 1)) = .notANumber :=
    read_mul_notANumber (power_notANumber (read_eq_notANumber hnan) k.succ_ne_zero)
  have hzero : (s.millis (k + 1)).toUInt64.toNat = 0 := by
    rw [toNat_toUInt64, hmillis]
    rfl
  rw [delay_eq hj draw (k + 1), hzero]
  exact Nat.zero_min _

namespace Iterator

/-- Some events lead to the iterator, among others. -/
def Reached (s : RetrySettings) (it : Iterator) : Prop :=
  ∃ es its, run es [ofSettings s] = some its ∧ it ∈ its

variable {it : Iterator}

/-- Iterators that are reached are sound. -/
theorem Reached.sound (hs : s.validate = .ok ()) (h : it.Reached s) : it.Sound s := by
  obtain ⟨es, its, hrun, hit⟩ := h
  obtain ⟨its', hrun', hsound, -⟩ :=
    run_sound hs es (List.forall_mem_singleton.2 (sound_ofSettings s))
  rw [hrun] at hrun'
  obtain rfl := Option.some.inj hrun'
  exact hsound it hit

/-- To ask again and again is to take pauses. -/
theorem run_next (it : Iterator) (draws : List Float) :
    run (draws.map (.next 0)) [it] = (it.takes draws).map ([·]) := by
  induction draws generalizing it with
  | nil => rfl
  | cons draw draws ih =>
    have hact : (Event.next 0 draw).act [it] = (it.next? draw).map ([·]) := rfl
    rw [List.map_cons, run, hact, takes]
    rcases it.next? draw with _ | it'
    · rfl
    · exact ih it'

/-- All pauses up to the limit can be handed out. -/
theorem exists_reached (hs : s.validate = .ok ()) {n : ℕ} (hn : n ≤ s.maxAttempts.toNat) :
    ∃ it : Iterator, it.Reached s ∧ it.taken.length = n := by
  obtain ⟨it, htakes, -, pauses, htaken, hlength⟩ :=
    (sound_ofSettings s).takes hs (List.replicate n 0.0)
  refine ⟨it, ⟨_, [it], (run_next _ (List.replicate n 0.0)).trans (by rw [htakes]; rfl),
    List.mem_singleton_self it⟩, ?_⟩
  rw [htaken, List.length_append, hlength, List.length_replicate]
  simp only [ofSettings, List.length_nil]
  omega

/-- Without jitter, the first pause is the initial interval, no pause is longer
    than the longest interval, and none is shorter than the initial one, unless
    the factor is no number, and there is a second pause and a first one that
    takes time. -/
theorem bounded_iff (hs : s.validate = .ok ()) (hj : (s.jitter == 0.0) = true) :
    (∀ it : Iterator, it.Reached s →
      (∀ pause, it.taken.head? = some pause → pause = .ofMillis s.initialInterval.toNat) ∧
      ∀ pause ∈ it.taken, pause ≤ .ofMillis s.maxInterval.toNat) ∧
    ((∀ it : Iterator, it.Reached s →
      ∀ pause ∈ it.taken, .ofMillis s.initialInterval.toNat ≤ pause) ↔
      ¬(s.factor.isNaN = true ∧ 0 < s.initialInterval ∧ 2 ≤ s.maxAttempts)) := by
  refine ⟨fun it hit => ⟨fun pause hpause => ?_, (hit.sound hs).behaves hs |>.capped⟩, ?_, ?_⟩
  · rw [List.head?_eq_getElem?] at hpause
    obtain ⟨draw, rfl⟩ := (hit.sound hs).due 0 pause hpause
    exact delay_one hs hj draw
  · -- with three such settings the second pause takes no time, and is too short
    rintro h ⟨hnan, hpos, hmax⟩
    obtain ⟨it, hit, hlength⟩ := exists_reached hs (UInt16.le_iff_toNat_le.1 hmax)
    have hlt : 1 < it.taken.length := hlength ▸ (by decide : 1 < (2 : UInt16).toNat)
    have hk := List.getElem?_eq_getElem hlt
    obtain ⟨draw, hdue⟩ := (hit.sound hs).due 1 _ hk
    have hle := h it hit _ (List.getElem_mem hlt)
    rw [hdue, delay_eq_zero hj hnan draw 0] at hle
    exact absurd hle (Nat.not_le.2 (Nat.mul_pos (UInt32.lt_iff_toNat_lt.1 hpos) (by decide)))
  · intro h it hit pause hpause
    obtain ⟨k, hk⟩ := List.mem_iff_getElem?.1 hpause
    obtain ⟨draw, rfl⟩ := (hit.sound hs).due k pause hk
    by_cases hnan : s.factor.isNaN = true
    · rcases Nat.eq_zero_or_pos k with rfl | hpos
      · exact (delay_one hs hj draw).ge
      · -- With a second pause, the first one takes no time.
        have hlt := (List.getElem?_eq_some_iff.1 hk).1
        have hle := (hit.sound hs).took.le
        have hmax : 2 ≤ s.maxAttempts := UInt16.le_iff_toNat_le.2
          (show 2 ≤ s.maxAttempts.toNat by omega)
        have hzero : s.initialInterval.toNat = 0 := Nat.eq_zero_of_not_pos fun hpos =>
          h ⟨hnan, UInt32.lt_iff_toNat_lt.2 hpos, hmax⟩
        rw [hzero]
        exact Nat.zero_le _
    · exact ofMillis_le_delay hs hj (Bool.eq_false_of_not_eq_true hnan) draw k

/-- With a factor of two, pauses are never shorter than the first one. -/
theorem bounded_iff_two :
    let s : RetrySettings := { maxAttempts := 3, initialInterval := 100, factor := 2.0 }
    s.validate = .ok () ∧ (s.jitter == 0.0) = true ∧ ∀ it : Iterator, it.Reached s →
      ∀ pause ∈ it.taken, Span.ofMillis 100 ≤ pause := by
  intro s
  have hs : s.validate = .ok () := RetrySettings.validate_eq_ok_iff.2 (by decide +kernel)
  have hj : (s.jitter == 0.0) = true := by decide +kernel
  exact ⟨hs, hj, (bounded_iff hs hj).2.2 fun h => by
    have hnan : s.factor.isNaN = false := by decide +kernel
    rw [hnan] at h
    cases h.1⟩

/-- A factor that is no number passes as valid, and makes the second pause end
    at once. -/
theorem not_bounded_of_isNaN : ¬∀ (s : RetrySettings), s.validate = .ok () →
    (s.jitter == 0.0) = true → ∀ it : Iterator, it.Reached s →
      ∀ pause ∈ it.taken, .ofMillis s.initialInterval.toNat ≤ pause := by
  intro h
  let s : RetrySettings :=
    { maxAttempts := 20, initialInterval := 100, maxInterval := 30000, factor := 0.0 / 0.0 }
  have hs : s.validate = .ok () := RetrySettings.validate_eq_ok_iff.2 (by decide +kernel)
  have hrun : (run [.next 0 0.0, .next 0 0.0] [ofSettings s]).map (·.map (·.taken)) =
      some [[.ofMillis 100, 0]] := by
    decide +kernel
  obtain ⟨its, hits, htaken⟩ := Option.map_eq_some_iff.1 hrun
  obtain ⟨it, rfl, hit⟩ := List.map_eq_singleton_iff.1 htaken
  have hle := h s hs (by decide +kernel) it ⟨_, _, hits, List.mem_singleton_self it⟩ 0
    (by rw [hit]; simp)
  exact absurd hle (by decide)

end Iterator

end Outbox
