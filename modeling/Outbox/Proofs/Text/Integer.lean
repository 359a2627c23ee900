import Mathlib.Data.List.Forall2
import Outbox.Text.Integer

/-!
# Which integers are read

An integer is read from the left, and the reading stops where the value is out of
bounds. Which texts are read does not depend on that: an integer is read exactly if it is
within the bounds and the text states it, by an optional sign and one or more decimal
digits (`Integer.States`, `Integer.read_eq_ok_iff`).

The reason is that zero is within the bounds, and that more digits take the value further
away from it (`Digits.le_behind`): once it is out of bounds it remains so.
-/

namespace Outbox

namespace Digits

/-- The number with more digits behind it. -/
def behind (n : Nat) (ds : Digits) : Nat := ds.foldl (fun n d => 10 * n + d) n

/-- Digits that are put behind a number do not make it smaller. -/
theorem le_behind (n : Nat) (ds : Digits) : n ≤ behind n ds := by
  induction ds generalizing n with
  | nil => exact Nat.le_refl n
  | cons d ds ih =>
    have hle : 10 * n + d ≤ behind n (d :: ds) := ih _
    omega

/-- The characters are digits with these values. -/
abbrev Spell (cs : List Char) (ds : Digits) : Prop :=
  List.Forall₂ (fun c d => digit? c = some d) cs ds

end Digits

namespace Integer

/-- The integer so far away from zero, in one direction or the other. -/
def signed (negative : Bool) (n : Nat) : Int := if negative then -n else n

/-- The text is an optional sign and one or more decimal digits, which denote the
    integer. -/
inductive States : List Char → Int → Prop
  | unsigned {cs : List Char} {ds : Digits} : cs ≠ [] → Digits.Spell cs ds → States cs ds.value
  | plus {cs : List Char} {ds : Digits} : cs ≠ [] → Digits.Spell cs ds →
      States ('+' :: cs) ds.value
  | minus {cs : List Char} {ds : Digits} : cs ≠ [] → Digits.Spell cs ds →
      States ('-' :: cs) (-ds.value)

variable {lo hi n : Int} {negative : Bool} {c : Char} {cs : List Char}

/-! ## Digits -/

/-- What is out of bounds remains so with more digits behind it. -/
theorem within_of_behind (hlo : lo ≤ 0) (hhi : 0 ≤ hi) {a : Nat} {ds : Digits}
    (h : lo ≤ signed negative (ds.behind a) ∧ signed negative (ds.behind a) ≤ hi) :
    lo ≤ signed negative a ∧ signed negative a ≤ hi := by
  have hle := ds.le_behind a
  cases negative <;> simp [signed] at h ⊢ <;> omega

/-- One more digit is read. -/
theorem digits_cons {a d : Nat} (hd : digit? c = some d) :
    digits lo hi negative (signed negative a) (c :: cs) =
      if signed negative (10 * a + d) < lo then .error .tooSmall
      else if hi < signed negative (10 * a + d) then .error .tooLarge
      else digits lo hi negative (signed negative (10 * a + d)) cs := by
  have hnext : (if negative then 10 * signed negative a - d else 10 * signed negative a + d) =
      signed negative (10 * a + d) := by
    cases negative with
    | false => simp [signed]
    | true =>
      simp [signed]
      omega
  rw [digits, hd]
  simp only [hnext]

theorem digits_eq_ok_iff (hlo : lo ≤ 0) (hhi : 0 ≤ hi) {a : Nat}
    (ha : lo ≤ signed negative a ∧ signed negative a ≤ hi) :
    digits lo hi negative (signed negative a) cs = .ok n ↔
      ∃ ds, Digits.Spell cs ds ∧ signed negative (ds.behind a) = n ∧ lo ≤ n ∧ n ≤ hi := by
  induction cs generalizing a with
  | nil =>
    simp only [digits, Except.ok.injEq, List.forall₂_nil_left_iff, exists_eq_left]
    constructor
    · rintro rfl
      exact ⟨rfl, ha⟩
    · exact fun h => h.1
  | cons c cs ih =>
    simp only [List.forall₂_cons_left_iff]
    cases hd : digit? c with
    | none => simp [digits, hd]
    | some d =>
      rw [digits_cons hd]
      -- a value out of bounds stops the reading, and by what follows it could not get back
      by_cases hin : lo ≤ signed negative (10 * a + d) ∧ signed negative (10 * a + d) ≤ hi
      · rw [if_neg (by omega), if_neg (by omega), ih hin]
        constructor
        · rintro ⟨ds, hds, hn⟩
          exact ⟨d :: ds, ⟨d, ds, rfl, hds, rfl⟩, hn⟩
        · rintro ⟨_, ⟨_, ds, ⟨⟩, hds, rfl⟩, hn⟩
          exact ⟨ds, hds, hn⟩
      · refine iff_of_false ?_ ?_
        · split
          · exact nofun
          · rw [if_pos (by omega)]
            exact nofun
        · rintro ⟨_, ⟨_, ds, ⟨⟩, -, rfl⟩, rfl, hn⟩
          exact hin (within_of_behind hlo hhi hn)

/-- Digits are read from zero on when they spell a number within the bounds. -/
theorem digits_zero_eq_ok_iff (hlo : lo ≤ 0) (hhi : 0 ≤ hi) (negative : Bool) :
    digits lo hi negative 0 cs = .ok n ↔
      ∃ ds, Digits.Spell cs ds ∧ signed negative ds.value = n ∧ lo ≤ n ∧ n ≤ hi := by
  have hzero : signed negative 0 = 0 := by cases negative <;> rfl
  have hin : lo ≤ signed negative 0 ∧ signed negative 0 ≤ hi := by
    rw [hzero]
    exact ⟨hlo, hhi⟩
  have h := @digits_eq_ok_iff lo hi n negative cs hlo hhi 0 hin
  rw [hzero] at h
  exact h

/-- Without a sign, digits are read when there are any. -/
theorem unsigned_eq_ok_iff (hlo : lo ≤ 0) (hhi : 0 ≤ hi) (negative : Bool) :
    unsigned lo hi negative cs = .ok n ↔ cs ≠ [] ∧
      ∃ ds, Digits.Spell cs ds ∧ signed negative ds.value = n ∧ lo ≤ n ∧ n ≤ hi := by
  cases cs with
  | nil => simp [unsigned]
  | cons c cs => simp [unsigned, digits_zero_eq_ok_iff hlo hhi]

/-! ## Texts -/

/-- A sign is no digit. -/
theorem not_spell_of_sign (hc : digit? c = none) (ds : Digits) : ¬Digits.Spell (c :: cs) ds := by
  intro h
  obtain ⟨d, _, hd, -⟩ := List.forall₂_cons_left_iff.1 h
  simp [hc] at hd

/-- An integer is read exactly if it is within the bounds and the text states it. -/
theorem read_eq_ok_iff (hlo : lo ≤ 0) (hhi : 0 ≤ hi) {text : String} :
    read lo hi text = .ok n ↔ States text.toList n ∧ lo ≤ n ∧ n ≤ hi := by
  rw [read]
  generalize text.toList = cs
  -- nothing, a plus, a minus, or neither sign in front
  split
  next =>
    refine iff_of_false nofun ?_
    rintro ⟨hs, -⟩
    cases hs with
    | unsigned hne => exact hne rfl
  next cs =>
    rw [unsigned_eq_ok_iff hlo hhi]
    constructor
    · rintro ⟨hne, ds, hds, rfl, hn⟩
      exact ⟨.plus hne hds, hn⟩
    · rintro ⟨hs, hn⟩
      cases hs with
      | unsigned _ hds => exact absurd hds (not_spell_of_sign (by decide) _)
      | plus hne hds => exact ⟨hne, _, hds, rfl, hn⟩
  next cs =>
    rw [unsigned_eq_ok_iff hlo hhi]
    constructor
    · rintro ⟨hne, ds, hds, rfl, hn⟩
      exact ⟨.minus hne hds, hn⟩
    · rintro ⟨hs, hn⟩
      cases hs with
      | unsigned _ hds => exact absurd hds (not_spell_of_sign (by decide) _)
      | minus hne hds => exact ⟨hne, _, hds, rfl, hn⟩
  next cs hne hplus hminus =>
    rw [digits_zero_eq_ok_iff hlo hhi]
    constructor
    · rintro ⟨ds, hds, rfl, hn⟩
      exact ⟨.unsigned hne hds, hn⟩
    · rintro ⟨hs, hn⟩
      cases hs with
      | unsigned _ hds => exact ⟨_, hds, rfl, hn⟩
      | plus => exact absurd rfl (hplus _)
      | minus => exact absurd rfl (hminus _)

end Integer

end Outbox
