import Outbox.Proofs.Backoff
import Outbox.Proofs.Double.Arithmetic

/-!
# Iterators over pauses

Pauses are handed out by iterators (`Iterator`), which are asked for the next
pause, reset, and cloned in any order (`Event`, `run`). An event fails if a
pause is due whose number the counter has no room for, or whose multiplier
cannot be drawn (`Iterator.next?`).

With settings that are valid, no event ever fails, every iterator behaves as its
counter says, and leaves all others alone (`behaves_of_run`):

* the range of the multiplier is not empty, and finite
  (`range_of_validate`), as it is computed from a jitter between zero and one;
* `Sound` is what an event preserves: the pauses handed out so far are those
  that are due, one after the other (`Sound.next?_eq`);
* `Behaves` is what follows for the state of an iterator.
-/

namespace Outbox

open Double

variable {s : RetrySettings}

/-- What settings that are valid keep to. -/
theorem RetrySettings.validate_eq_ok_iff : s.validate = .ok () ↔
    (0.0 ≤ s.jitter ∧ s.jitter ≤ 1.0) ∧ ¬s.factor < 1.0 ∧ s.initialInterval ≤ s.maxInterval := by
  rw [validate, ← UInt32.not_lt]
  by_cases hjitter : 0.0 ≤ s.jitter ∧ s.jitter ≤ 1.0
  · rw [if_neg (not_not_intro hjitter)]
    by_cases hfactor : s.factor < 1.0
    · rw [if_pos hfactor]
      exact ⟨nofun, fun h => absurd hfactor h.2.1⟩
    · rw [if_neg hfactor]
      by_cases hmax : s.maxInterval < s.initialInterval
      · rw [if_pos hmax]
        exact ⟨nofun, fun h => absurd hmax h.2.2⟩
      · exact ⟨fun _ => ⟨hjitter, hfactor, hmax⟩, fun _ => if_neg hmax⟩
  · rw [if_pos hjitter]
    exact ⟨nofun, fun h => absurd h.1 hjitter⟩

namespace Backoff

/-- The range of the multiplier is from a finite number to one that is not
    smaller, and of finite width. -/
structure Proper (b : Backoff) : Prop where
  le : b.range.1 ≤ b.range.2
  low : b.range.1.isFinite = true
  high : b.range.2.isFinite = true
  width : b.width.isFinite = true

/-- The range around one stays between zero and two. -/
theorem proper_of_validate (hs : s.validate = .ok ()) (k : UInt16) :
    { ofSettings s with attempt := k }.Proper := by
  obtain ⟨⟨h₀, h₁⟩, -, -⟩ := RetrySettings.validate_eq_ok_iff.1 hs
  obtain ⟨hfin, hge, hle⟩ := unit_of_le h₀ h₁
  have hone := value_one
  have hlow := rounds_read_sub (x := 1.0) rfl hfin (hle.trans_eq hone.symm)
  have hhigh := rounds_read_add (x := 1.0) rfl hfin (by rw [hone]; linarith)
  rw [hone] at hlow hhigh
  -- zero, one and two need no rounding, and bound both ends of the range
  have hrep : ∀ n : ℕ, n < 3 → Representable n := fun n hn => representable_natCast (by omega)
  obtain ⟨hlow, hl₀, hl₁⟩ := hlow.between (hrep 0 (by decide)) (hrep 1 (by decide))
    (by push_cast; linarith) (by push_cast; linarith)
  obtain ⟨hhigh, hh₁, hh₂⟩ := hhigh.between (hrep 1 (by decide)) (hrep 2 (by decide))
    (by push_cast; linarith) (by push_cast; linarith)
  push_cast at hl₀ hl₁ hh₁ hh₂
  have hle := hl₁.trans hh₁
  have hwidth := (rounds_read_sub hhigh hlow hle).between (hrep 0 (by decide)) (hrep 2 (by decide))
    (by push_cast; linarith) (by push_cast; linarith)
  exact ⟨le_of_value_le hlow hhigh hl₀ hle, hlow, hhigh, hwidth.1⟩

/-- A range that is proper can be drawn from. -/
theorem Proper.drawable {b : Backoff} (h : b.Proper) : b.drawable = true := by
  rw [Backoff.drawable, decide_eq_true h.le, h.width, Bool.and_self, Bool.or_true]

end Backoff

/-! ## The machine -/

/-- An iterator: where the pauses stand, and those that were handed out since it
    was made or last reset. -/
structure Iterator where
  backoff : Backoff
  taken : List Span := []

namespace Iterator

/-- The iterator of some settings. -/
def ofSettings (s : RetrySettings) : Iterator := { backoff := .ofSettings s }

/-- Hands out the next pause, if there is one. This fails if one is due, and
    the counter is at its last value or the multiplier cannot be drawn. -/
def next? (it : Iterator) (draw : Float) : Option Iterator :=
  if it.backoff.isOver = false ∧ it.backoff.attempt.toNat + 1 = 2 ^ 16 then none
  else (it.backoff.next? draw).map fun (pause, b) => ⟨b, it.taken ++ pause.toList⟩

/-- Starts over. -/
def reset (it : Iterator) : Iterator := { backoff := it.backoff.reset }

/-- Asks for one pause after the other, with the given draws. -/
def takes : (draws : List Float) → Iterator → Option Iterator
  | [], it => some it
  | draw :: draws, it => (it.next? draw).bind (takes draws)

/-- What is asked of the iterator at a place. -/
inductive Event where
  | next (place : ℕ) (draw : Float)
  | reset (place : ℕ)
  | clone (place : ℕ)

/-- The place of the iterator that is asked. -/
def Event.place : Event → ℕ
  | .next i _ | .reset i | .clone i => i

/-- The iterator at the place is changed, and not only read. -/
def Event.Moves (j : ℕ) : Event → Prop
  | .next i _ | .reset i => i = j
  | .clone _ => False

/-- What an event leaves of the iterators, unless it fails. A clone comes last.
    Nothing happens where there is no iterator. -/
def Event.act (e : Event) (its : List Iterator) : Option (List Iterator) :=
  match its[e.place]? with
  | none => some its
  | some it =>
    match e with
    | .next i draw => (it.next? draw).map (its.set i)
    | .reset i => some (its.set i it.reset)
    | .clone _ => some (its ++ [it])

/-- What some events leave of the iterators, unless one fails. -/
def run : List Event → List Iterator → Option (List Iterator)
  | [], its => some its
  | e :: es, its => (e.act its).bind (run es)

/-! ## What an event preserves -/

/-- The pauses that are due under some settings were handed out, one after the
    other. -/
structure Sound (s : RetrySettings) (it : Iterator) : Prop where
  /-- Nothing but the counter has changed. -/
  eq : it.backoff = { Backoff.ofSettings s with attempt := it.backoff.attempt }
  /-- The counter is the number of the pauses handed out. -/
  took : it.backoff.Took s.maxAttempts it.taken.length
  /-- Each pause is the one due at its place. -/
  due : ∀ k pause, it.taken[k]? = some pause →
    ∃ draw, pause = (Backoff.ofSettings s).delay draw (k + 1)

/-- A new iterator is sound. -/
theorem sound_ofSettings (s : RetrySettings) : (ofSettings s).Sound s :=
  ⟨rfl, Backoff.took_ofSettings s, nofun⟩

variable {it it' : Iterator} {draw : Float}

/-- So is one that is reset. -/
theorem Sound.reset (h : it.Sound s) : it.reset.Sound s :=
  ⟨by rw [Iterator.reset, h.eq]; rfl, h.took.reset, nofun⟩

/-- The counter has room for every pause that is due. -/
theorem Sound.room (h : it.Sound s) (hover : it.backoff.isOver = false) :
    it.backoff.attempt.toNat + 1 < 2 ^ 16 := by
  have hne : it.taken.length ≠ s.maxAttempts.toNat := fun heq => by
    rw [h.took.isOver_iff.2 heq] at hover
    cases hover
  have hle := h.took.le
  have hlt := s.maxAttempts.toNat_lt
  rw [h.took.attempt_eq]
  omega

/-- The iterator, one pause later. -/
def later (s : RetrySettings) (draw : Float) (it : Iterator) : Iterator where
  backoff := { it.backoff with attempt := it.backoff.attempt + 1 }
  taken := it.taken ++ [(Backoff.ofSettings s).delay draw (it.taken.length + 1)]

/-- The next pause is the one due. -/
theorem Sound.next_eq (h : it.Sound s) (hover : it.backoff.isOver = false) (draw : Float) :
    it.backoff.next draw =
      (some ((Backoff.ofSettings s).delay draw (it.taken.length + 1)),
        (it.later s draw).backoff) := by
  have hcount : (it.backoff.attempt + 1).toNat = it.taken.length + 1 := by
    rw [UInt16.toNat_add, UInt16.toNat_one, Nat.mod_eq_of_lt (h.room hover), h.took.attempt_eq]
  have hdelay : it.backoff.delay draw = (Backoff.ofSettings s).delay draw := by
    rw [h.eq]
    rfl
  rw [Backoff.next, hover, hcount, hdelay]
  rfl

/-- With valid settings, the pause that is due is handed out, as long as there
    is one. -/
theorem Sound.next?_eq (hs : s.validate = .ok ()) (h : it.Sound s) (draw : Float) :
    it.next? draw = some (if it.backoff.isOver then it else it.later s draw) := by
  have hdraw : it.backoff.drawable = true := by
    rw [h.eq]
    exact (Backoff.proper_of_validate hs _).drawable
  rw [next?, if_neg fun hfull => (h.room hfull.1).ne hfull.2, Backoff.next?, hdraw, Bool.or_true,
    if_pos rfl, Option.map_some]
  by_cases hover : it.backoff.isOver = true
  · simp [Backoff.next, hover]
  · rw [h.next_eq (Bool.eq_false_of_not_eq_true hover), if_neg hover]
    rfl

/-- After the next pause an iterator is still sound. -/
theorem Sound.later (h : it.Sound s) (hover : it.backoff.isOver = false) (draw : Float) :
    (it.later s draw).Sound s := by
  refine ⟨?_, ?_, fun k pause hk => ?_⟩
  · rw [Iterator.later, h.eq]
  · rw [Iterator.later, List.length_append]
    exact h.took.succ_of_next (h.next_eq hover draw)
  · rw [Iterator.later, List.getElem?_append] at hk
    split at hk
    · exact h.due k pause hk
    · rename_i hge
      obtain rfl : k = it.taken.length := by
        have hlt := (List.getElem?_eq_some_iff.1 hk).1
        rw [List.length_singleton] at hlt
        omega
      rw [Nat.sub_self] at hk
      exact ⟨draw, (Option.some.inj hk).symm⟩

/-- With valid settings, an event does not fail. The iterators stay sound, and
    those that it does not change are where they were. -/
theorem Event.act_sound (hs : s.validate = .ok ()) (e : Event) {its : List Iterator}
    (h : ∀ it ∈ its, it.Sound s) : ∃ its', e.act its = some its' ∧ (∀ it ∈ its', it.Sound s) ∧
      ∀ j it, ¬e.Moves j → its[j]? = some it → its'[j]? = some it := by
  have hset : ∀ i it, it.Sound s → (∀ it' ∈ its.set i it, it'.Sound s) ∧
      ∀ j it', i ≠ j → its[j]? = some it' → (its.set i it)[j]? = some it' := fun i it hit => by
    refine ⟨fun it' hmem => ?_, fun j it' hne hj => by rwa [List.getElem?_set_ne hne]⟩
    obtain hmem | rfl := List.mem_or_eq_of_mem_set hmem
    · exact h it' hmem
    · exact hit
  unfold act
  -- an event for an iterator that is not there does nothing
  rcases hi : its[e.place]? with _ | it
  · exact ⟨its, rfl, h, fun _ _ _ => id⟩
  have hit := h it (List.mem_of_getElem? hi)
  rcases e with ⟨i, draw⟩ | i | i
  · refine ⟨its.set i (if it.backoff.isOver then it else it.later s draw), ?_, hset i _ ?_⟩
    · exact congrArg (Option.map (its.set i)) (hit.next?_eq hs draw)
    · split
      · exact hit
      · rename_i hover
        exact hit.later (Bool.eq_false_of_not_eq_true hover) draw
  · exact ⟨its.set i it.reset, rfl, hset i _ hit.reset⟩
  · refine ⟨its ++ [it], rfl, fun it' hmem => ?_, fun j it' _ hj => ?_⟩
    · obtain hmem | hmem := List.mem_append.1 hmem
      · exact h it' hmem
      · obtain rfl := List.mem_singleton.1 hmem
        exact hit
    · rw [List.getElem?_append_left (List.getElem?_eq_some_iff.1 hj).1, hj]

/-- No run fails, all iterators stay sound, and those left alone stay as they are. -/
theorem run_sound (hs : s.validate = .ok ()) (es : List Event) {its : List Iterator}
    (h : ∀ it ∈ its, it.Sound s) : ∃ its', run es its = some its' ∧ (∀ it ∈ its', it.Sound s) ∧
      ∀ j it, (∀ e ∈ es, ¬e.Moves j) → its[j]? = some it → its'[j]? = some it := by
  induction es generalizing its with
  | nil => exact ⟨its, rfl, h, fun _ _ _ => id⟩
  | cons e es ih =>
    obtain ⟨its₁, he, hsound₁, hkept₁⟩ := e.act_sound hs h
    obtain ⟨its₂, hes, hsound₂, hkept₂⟩ := ih hsound₁
    refine ⟨its₂, by rw [run, he, Option.bind_some, hes], hsound₂, fun j it hstill hj => ?_⟩
    exact hkept₂ j it (fun e' he' => hstill e' (List.mem_cons_of_mem e he'))
      (hkept₁ j it (hstill e List.mem_cons_self) hj)

/-! ## What follows -/

/-- Asked for any number of pauses, an iterator hands out those that are left. -/
theorem Sound.takes (hs : s.validate = .ok ()) (h : it.Sound s) (draws : List Float) :
    ∃ it', it.takes draws = some it' ∧ it'.Sound s ∧ ∃ pauses, it'.taken = it.taken ++ pauses ∧
      pauses.length = min draws.length (s.maxAttempts.toNat - it.taken.length) := by
  induction draws generalizing it with
  | nil => exact ⟨it, rfl, h, [], (List.append_nil _).symm, (Nat.zero_min _).symm⟩
  | cons draw draws ih =>
    have hle := h.took.le
    rw [Iterator.takes, h.next?_eq hs, Option.bind_some]
    -- an iterator that is over stays as it is, however often it is asked
    by_cases hover : it.backoff.isOver = true
    · have hlen := h.took.isOver_iff.1 hover
      rw [if_pos hover]
      obtain ⟨it', htakes, hsound, pauses, htaken, hlength⟩ := ih h
      exact ⟨it', htakes, hsound, pauses, htaken, by rw [hlength]; omega⟩
    · have hover' := Bool.eq_false_of_not_eq_true hover
      have hlen : it.taken.length ≠ s.maxAttempts.toNat := fun hlen =>
        hover (h.took.isOver_iff.2 hlen)
      rw [if_neg hover]
      obtain ⟨it', htakes, hsound, pauses, htaken, hlength⟩ := ih (h.later hover' draw)
      rw [Iterator.later, List.append_assoc] at htaken
      refine ⟨it', htakes, hsound, _, htaken, ?_⟩
      rw [List.length_append, hlength, Iterator.later, List.length_append, List.length_singleton,
        List.length_cons]
      omega

/-- The pauses left are counted the same by a loop over them. -/
theorem Sound.remaining (h : it.Sound s) (draw : Float) (taken : List Span) {fuel : ℕ}
    (hfuel : s.maxAttempts.toNat - it.taken.length < fuel) :
    (Backoff.remaining draw fuel taken it.backoff).1.length =
      taken.length + (s.maxAttempts.toNat - it.taken.length) := by
  induction fuel generalizing it taken with
  | zero => omega
  | succ fuel ih =>
    rw [Backoff.remaining]
    by_cases hover : it.backoff.isOver = true
    · have hlen := h.took.isOver_iff.1 hover
      simp only [Backoff.next, hover, if_true, List.length_reverse]
      omega
    · have hover' := Bool.eq_false_of_not_eq_true hover
      have hlen : it.taken.length ≠ s.maxAttempts.toNat := fun hlen =>
        hover (h.took.isOver_iff.2 hlen)
      have hle := h.took.le
      have hlater : (it.later s draw).taken.length = it.taken.length + 1 := by
        rw [Iterator.later, List.length_append, List.length_singleton]
      simp only [h.next_eq hover']
      rw [ih (h.later hover' draw) _ (by omega), hlater, List.length_cons]
      omega

/-- How an iterator of some settings behaves. -/
structure Behaves (s : RetrySettings) (it : Iterator) : Prop where
  /-- The counter is the number of the pauses handed out. -/
  counted : it.backoff.attempt.toNat = it.taken.length
  /-- No more pauses are handed out than the limit allows, -/
  limited : it.taken.length ≤ s.maxAttempts.toNat
  /-- and none is longer than the longest interval. -/
  capped : ∀ pause ∈ it.taken, pause ≤ .ofMillis s.maxInterval.toNat
  /-- There is no next pause if and only if the limit is reached. -/
  over_iff : ∀ draw, (it.backoff.next draw).1 = none ↔ it.backoff.attempt = s.maxAttempts
  /-- Nothing changes if there is none. -/
  still : ∀ draw, (it.backoff.next draw).1 = none → it.next? draw = some it
  /-- The counter has room for a pause that is due. -/
  room : it.backoff.attempt ≠ s.maxAttempts → it.backoff.attempt.toNat + 1 < 2 ^ 16
  /-- A multiplier can be drawn. -/
  proper : it.backoff.Proper
  /-- Any number of pauses can be asked for, and those left are handed out. -/
  takes : ∀ draws, ∃ it' pauses, it.takes draws = some it' ∧ it'.taken = it.taken ++ pauses ∧
    pauses.length = min draws.length (s.maxAttempts.toNat - it.backoff.attempt.toNat)
  /-- A loop ends after as many. -/
  drained : ∀ draw, (it.backoff.drain draw).1.length =
    s.maxAttempts.toNat - it.backoff.attempt.toNat

/-- An iterator is over when its counter is at the limit. -/
theorem Sound.isOver_iff (h : it.Sound s) :
    it.backoff.isOver = true ↔ it.backoff.attempt = s.maxAttempts := by
  rw [h.took.isOver_iff, ← h.took.attempt_eq, UInt16.toNat_inj]

/-- An iterator that is sound behaves. -/
theorem Sound.behaves (hs : s.validate = .ok ()) (h : it.Sound s) : it.Behaves s where
  counted := h.took.attempt_eq
  limited := h.took.le
  capped pause hpause := by
    obtain ⟨k, hk⟩ := List.mem_iff_getElem?.1 hpause
    obtain ⟨draw, rfl⟩ := h.due k pause hk
    exact Nat.min_le_right _ _
  over_iff draw := by
    rw [← h.isOver_iff, Backoff.next]
    split <;> simp_all
  still draw hnone := by
    rw [h.next?_eq hs]
    by_cases hover : it.backoff.isOver = true
    · rw [if_pos hover]
    · rw [h.next_eq (Bool.eq_false_of_not_eq_true hover)] at hnone
      cases hnone
  room hne := h.room (Bool.eq_false_of_not_eq_true fun hover => hne (h.isOver_iff.1 hover))
  proper := by
    rw [h.eq]
    exact Backoff.proper_of_validate hs _
  takes draws := by
    obtain ⟨it', htakes, -, pauses, htaken, hlength⟩ := h.takes hs draws
    exact ⟨it', pauses, htakes, htaken, by rw [hlength, h.took.attempt_eq]⟩
  drained draw := by
    have hlimit : it.backoff.limit = some s.maxAttempts := h.took.limit_eq
    rw [Backoff.drain, hlimit, h.remaining draw [] (by simp only [Option.getD_some]; omega),
      h.took.attempt_eq, List.length_nil, Nat.zero_add]

/-- Whatever is asked of the iterators of valid settings, nothing fails, each of
    them behaves as its counter says, a clone is what it was made from, and what
    is asked of one changes none of the others, however often. -/
theorem behaves_of_run (hs : s.validate = .ok ()) (es : List Event) :
    ∃ its, run es [ofSettings s] = some its ∧ (∀ it ∈ its, it.Behaves s) ∧
      (∀ i it, its[i]? = some it → (Event.clone i).act its = some (its ++ [it])) ∧
      ∀ es' j it, (∀ e ∈ es', ¬e.Moves j) → its[j]? = some it →
        ∃ its', run es' its = some its' ∧ its'[j]? = some it := by
  have hstart : ∀ it ∈ [ofSettings s], it.Sound s :=
    List.forall_mem_singleton.2 (sound_ofSettings s)
  obtain ⟨its, hrun, hsound, -⟩ := run_sound hs es hstart
  refine ⟨its, hrun, fun it hit => (hsound it hit).behaves hs, fun i it hi => ?_,
    fun es' j it hstill hj => ?_⟩
  · simp only [Event.act, Event.place, hi]
  · obtain ⟨its', hrun', -, hkept⟩ := run_sound hs es' hsound
    exact ⟨its', hrun', hkept j it hstill hj⟩

/-- An iterator of two pauses with jitter hands out one, and is cloned: the
    clone hands out the other one, and the first iterator starts over. -/
theorem behaves_of_run_clone :
    let s : RetrySettings :=
      { maxAttempts := 2, initialInterval := 10, maxInterval := 15, jitter := 0.5 }
    let es := [.next 0 0.25, .clone 0, .next 1 0.5, .reset 0, .next 1 0.5]
    s.validate = .ok () ∧ ∃ its, run es [ofSettings s] = some its ∧
      its.map (fun it => it.taken.map (·.millis)) = [[], [7, 15]] ∧ ∀ it ∈ its, it.Behaves s := by
  intro s es
  have hs : s.validate = .ok () := RetrySettings.validate_eq_ok_iff.2 (by decide +kernel)
  obtain ⟨its, hrun, hbehaves, -⟩ := behaves_of_run hs es
  have htaken : (run es [ofSettings s]).map (·.map fun it => it.taken.map (·.millis)) =
      some [[], [7, 15]] := by
    decide +kernel
  rw [hrun] at htaken
  exact ⟨hs, its, hrun, Option.some.inj htaken, hbehaves⟩

end Iterator

end Outbox
