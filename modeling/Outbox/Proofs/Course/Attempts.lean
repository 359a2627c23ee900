import Mathlib.Algebra.GroupWithZero.Nat
import Mathlib.Algebra.Order.Group.Nat
import Mathlib.Algebra.Order.BigOperators.Group.List
import Outbox.Proofs.Backoff
import Outbox.Proofs.Course.Flushing
import Outbox.Proofs.Course.Limits

/-!
# A flush makes a bounded number of attempts

A flush submits at most `n * (m + 1)` batches if `n` distinct entries wait and
`m` pauses are allowed (`Course.bounded_of_flush`), whatever the client answers:

* no entry is part of more than `m + 1` batches. What is handed back comes first
  again and fits into one batch, so that all of it is part of the very next one
  (`Staged`). The count of pauses starts anew only when nothing is handed back,
  and what waits then was never tried;
* each batch is a try of some entry that was waiting (`length_le_of_tries_le`)
  and takes three events at most (`Course.credit`).

The flush gives up exactly when something was handed back of `m + 1` batches in a
row (`HasStreak`). By then it has lost nothing: what is not delivered waits in its
order.
-/

namespace Outbox

/-! ## Streaks -/

/-- So many lists in a row hold something. -/
def HasStreak {α : Type} (n : Nat) (ls : List (List α)) : Prop :=
  ∃ part, part <:+: ls ∧ part.length = n ∧ ∀ l ∈ part, l ≠ []

/-- The number of lists up to the first empty one. -/
def streak {α : Type} : List (List α) → Nat
  | [] => 0
  | l :: ls => if l.isEmpty then 0 else streak ls + 1

section Streak

variable {α : Type} {l : List α} {ls : List (List α)} {n : Nat}

/-- Where nothing is handed back, no streak goes on. -/
theorem streak_cons_nil : streak ([] :: ls) = 0 := rfl

/-- Where something is handed back, the streak goes on. -/
theorem streak_cons (h : l ≠ []) : streak (l :: ls) = streak ls + 1 := by
  simp [streak, h]

/-- The streak at the start is the longest one there. -/
theorem exists_prefix_iff : (∃ part, part <+: ls ∧ part.length = n ∧ ∀ l ∈ part, l ≠ []) ↔
    n ≤ streak ls := by
  induction ls generalizing n with
  | nil =>
    constructor
    · rintro ⟨part, hp, rfl, -⟩
      simp [List.prefix_nil.1 hp]
    · intro hn
      obtain rfl : n = 0 := by simpa [streak] using hn
      exact ⟨[], by simp⟩
  | cons l ls ih =>
    rcases n with _ | n
    · exact ⟨fun _ => Nat.zero_le _, fun _ => ⟨[], by simp⟩⟩
    · by_cases hl : l = []
      · subst hl
        refine ⟨?_, fun hn => absurd hn (by simp [streak])⟩
        rintro ⟨part, hp, hlen, hne⟩
        rcases part with _ | ⟨m, part⟩
        · cases hlen
        · obtain ⟨rfl, -⟩ := List.cons_prefix_cons.1 hp
          exact absurd rfl (hne [] (by simp))
      · rw [streak_cons hl, Nat.succ_le_succ_iff, ← ih]
        constructor
        · rintro ⟨part, hp, hlen, hne⟩
          rcases part with _ | ⟨m, part⟩
          · cases hlen
          · exact ⟨part, (List.cons_prefix_cons.1 hp).2, Nat.succ.inj hlen,
              fun m hm => hne m (.tail _ hm)⟩
        · rintro ⟨part, hp, rfl, hne⟩
          exact ⟨l :: part, List.cons_prefix_cons.2 ⟨rfl, hp⟩, rfl, by simpa [hl] using hne⟩

/-- There is a streak that long up to now, or there was one before. -/
theorem hasStreak_cons : HasStreak n (l :: ls) ↔ n ≤ streak (l :: ls) ∨ HasStreak n ls := by
  rw [← exists_prefix_iff]
  simp only [HasStreak, List.infix_cons_iff, or_and_right, exists_or]

end Streak

/-! ## Tries -/

/-- The number of batches an entry is part of. -/
def tries (batches : List (List Entry)) (e : Entry) : Nat := batches.countP (e ∈ ·)

variable {batches : List (List Entry)} {batch : List Entry} {e : Entry}

/-- An entry of the batch is tried once more. -/
theorem tries_cons_of_mem (h : e ∈ batch) : tries (batch :: batches) e = tries batches e + 1 := by
  simp [tries, h]

/-- Other entries are not. -/
theorem tries_cons_of_notMem (h : e ∉ batch) : tries (batch :: batches) e = tries batches e := by
  simp [tries, h]

/-- Every batch is a try of some entry. -/
theorem length_le_sum_tries {es : List Entry} (h : ∀ b ∈ batches, b ≠ [] ∧ b ⊆ es) :
    batches.length ≤ (es.map (tries batches)).sum := by
  induction batches with
  | nil => exact Nat.zero_le _
  | cons b batches ih =>
    obtain ⟨⟨hne, hsub⟩, h⟩ := List.forall_mem_cons.1 h
    have hsum : (es.map (tries (b :: batches))).sum =
        (es.map (tries batches)).sum + (es.map fun e => if e ∈ b then 1 else 0).sum := by
      rw [← List.sum_map_add]
      refine congrArg List.sum (List.map_congr_left fun e _ => ?_)
      split
      · rw [tries_cons_of_mem ‹_›]
      · rw [tries_cons_of_notMem ‹_›, Nat.add_zero]
    -- Of the entries, at least one is in the batch.
    obtain ⟨e, he⟩ := List.exists_mem_of_ne_nil b hne
    have hone : 1 ≤ (es.map fun e => if e ∈ b then 1 else 0).sum :=
      List.le_sum_of_mem (List.mem_map.2 ⟨e, hsub he, if_pos he⟩)
    rw [List.length_cons, hsum]
    exact Nat.add_le_add (ih h) hone

/-- If no entry is tried more than `n` times, there are at most `n` batches for each. -/
theorem length_le_of_tries_le {es : List Entry} {n : Nat}
    (h : ∀ b ∈ batches, b ≠ [] ∧ b ⊆ es) (hn : ∀ e, tries batches e ≤ n) :
    batches.length ≤ es.length * n := by
  refine Nat.le_trans (length_le_sum_tries h) ?_
  have hsum := List.sum_le_card_nsmul (es.map (tries batches)) n fun k hk => by
    obtain ⟨e, -, rfl⟩ := List.mem_map.1 hk
    exact hn e
  simpa using hsum

/-- Of the entries in a queue, the first ones fit into one batch and were tried
    so many times at most. The others were never tried. -/
structure Staged (s : WriterSettings) (batches : List (List Entry)) (n : Nat)
    (first others : List Entry) : Prop where
  /-- They can all be part of the next batch. -/
  fits : Fits s.maxBatchSize s.maxBatchBytes first
  first : ∀ e ∈ first, tries batches e ≤ n
  others : ∀ e ∈ others, tries batches e = 0

variable {s : WriterSettings} {n : Nat} {first others : List Entry}

/-- The next batch is tried once more, and nothing stays behind that was tried. -/
theorem Staged.cut {q rest : Queue Entry} (h : Staged s batches n first others)
    (hq : first ++ others = q.toList) (hnodup : q.toList.Nodup)
    (hcut : Outbox.cut s.maxBatchSize s.maxBatchBytes q = (batch, rest)) :
    Staged s (batch :: batches) (n + 1) batch rest.toList := by
  have hbatch : (Outbox.cut s.maxBatchSize s.maxBatchBytes q).1 = batch := by rw [hcut]
  have happend : batch ++ rest.toList = q.toList := by
    have := cut_append s.maxBatchSize s.maxBatchBytes q
    rwa [hcut] at this
  -- The first ones are all part of the batch.
  obtain ⟨new, hnew⟩ : first <+: batch := hbatch ▸ prefix_cut h.fits ⟨others, hq⟩
  have hothers : new ++ rest.toList = others := by
    rw [← hnew, ← hq, List.append_assoc] at happend
    exact List.append_cancel_left happend
  refine ⟨hbatch ▸ fits_cut _ _ q, fun e he => ?_, fun e he => ?_⟩
  · rw [tries_cons_of_mem he, Nat.succ_le_succ_iff]
    rw [← hnew] at he
    rcases List.mem_append.1 he with he | he
    · exact h.first e he
    · rw [h.others e (hothers ▸ List.mem_append_left _ he)]
      exact Nat.zero_le n
  · rw [← happend] at hnodup
    rw [tries_cons_of_notMem fun hb => List.disjoint_of_nodup_append hnodup hb he]
    exact h.others e (hothers ▸ List.mem_append_right _ he)

/-- What is handed back comes first. -/
theorem Staged.handBack {residual : List Entry} (h : Staged s batches n first others)
    (hr : residual.Sublist first) : Staged s batches n residual others :=
  ⟨h.fits.sublist hr, fun e he => h.first e (hr.subset he), h.others⟩

/-- If nothing is handed back, then nothing that waits was tried. -/
theorem Staged.start (h : Staged s batches n first others) : Staged s batches 0 [] others :=
  ⟨fits_nil, nofun, h.others⟩

namespace Course

/-! ## What is handed back -/

/-- What a batch hands back by an event that settles it. -/
def Event.residuals (p : Policy) (c : Course) : Event → List (List Entry)
  | .answer a _ => [(p.reply c.flush.batch a).handedBack.getD []]
  | .refuse => [[]]
  | _ => []

/-- What every batch has handed back, the latest first. -/
def handedBack (p : Policy) : List Event → Tally × Course → List (List Entry)
  | [], _ => []
  | e :: es, (t, c) => (c.step p t e).elim [] (handedBack p es) ++ e.residuals p c

variable {p : Policy} {t t' : Tally} {c c' : Course} {e : Event} {es : List Event}
  {st : Tally × Course}

/-- What one more event hands back comes first. -/
theorem handedBack_concat (h : run p es st = some (t, c)) :
    handedBack p (es ++ [e]) st = e.residuals p c ++ handedBack p es st := by
  induction es generalizing st with
  | nil =>
    cases h
    cases hs : c.step p t e <;> simp [handedBack, hs]
  | cons d es ih =>
    obtain ⟨t₁, c₁⟩ := st
    rw [run, Option.bind_eq_some_iff] at h
    obtain ⟨st₂, h₁, h₂⟩ := h
    rw [List.cons_append, handedBack, handedBack, h₁, Option.elim_some, Option.elim_some, ih h₂,
      List.append_assoc]

/-! ## The invariant -/

/-- Where a flush stands, by the batches it has submitted and what they handed
    back. The pauses taken are the batches in a row, up to now, of which something
    was handed back. -/
inductive Pace (s : WriterSettings) (batches residuals : List (List Entry))
    (pending : List Entry) : Flush → Prop
  | looking {b : Backoff} {n : Nat} {first others : List Entry} :
      b.Took s.retry.maxAttempts n → streak residuals = n → first ++ others = pending →
      Staged s batches n first others → Pace s batches residuals pending (.looking b)
  | submitting {b : Backoff} {n : Nat} {batch : List Entry} :
      b.Took s.retry.maxAttempts n → streak residuals = n →
      Staged s batches (n + 1) batch pending →
      Pace s batches residuals pending (.submitting batch b)
  | pausing {b : Backoff} {pause : Span} {n : Nat} {first others : List Entry} :
      b.Took s.retry.maxAttempts n → streak residuals = n → first ++ others = pending →
      Staged s batches n first others → Pace s batches residuals pending (.pausing pause b)
  | finished {r : Except Error Unit} : Pace s batches residuals pending (.finished r)

/-- The events a flush may still need until it is done or has submitted the next
    batch. -/
def credit : Flush → Nat
  | .looking _ => 1
  | .submitting _ _ => 3
  | .pausing _ _ => 2
  | .finished _ => 0

/-- The most attempts at one entry: one, and one more after each pause. -/
def attempts (c : Course) : Nat := c.buffer.settings.retry.maxAttempts.toNat + 1

/-- What a flush has done since it began in the course `c₀`. -/
structure Attempted (c₀ : Course) (batches residuals : List (List Entry)) (es : List Event)
    (c : Course) : Prop where
  settings : c.buffer.settings = c₀.buffer.settings
  /-- The batches are those submitted since. -/
  submitted : c.ledger.submitted = batches ++ c₀.ledger.submitted
  /-- Each batch is some of the entries that were waiting. -/
  waiting : ∀ b ∈ batches, b ≠ [] ∧ b ⊆ c₀.held
  /-- No entry is part of too many of them. -/
  tries_le : ∀ e, tries batches e ≤ c₀.attempts
  /-- The flush stands where these batches have got it. -/
  pace : Pace c₀.buffer.settings batches residuals c.buffer.pending.toList c.flush
  /-- Each batch takes three events at most. -/
  length_le : es.length + credit c.flush ≤ 3 * batches.length + 1
  /-- The flush has given up if it has handed back something too many times in a row. -/
  exhausted_iff : (∃ n, c.flush = .finished (.error (.exhausted n))) ↔
    HasStreak c₀.attempts residuals

/-- A flush that begins has tried nothing. -/
theorem attempted_of_flush (c : Course) (ha : c.buffer.aborted = none)
    (hf : c.flush = c.buffer.flush) : Attempted c [] [] [] c := by
  obtain ⟨-, hflush⟩ | ⟨reason, hr, -⟩ := c.buffer.flush_cases
  · rw [← hf] at hflush
    refine ⟨rfl, rfl, nofun, fun _ => Nat.zero_le _, ?_, by simp [hflush, credit], ?_⟩
    · rw [hflush]
      exact .looking (Backoff.took_ofSettings _) rfl rfl ⟨fits_nil, nofun, fun _ _ => rfl⟩
    · rw [hflush]
      refine iff_of_false (fun ⟨_, h⟩ => nomatch h) fun ⟨part, hp, hlen, _⟩ => ?_
      rw [List.infix_nil.1 hp] at hlen
      cases hlen
  · rw [ha] at hr
    cases hr

variable {c₀ : Course} {batches residuals residuals' : List (List Entry)}

/-- A flush that goes on has not had a streak that is too long. -/
theorem Attempted.not_hasStreak (ha : Attempted c₀ batches residuals es c)
    (hc : c.isIdle = false) :
    ¬HasStreak c₀.attempts residuals := by
  rw [← ha.exhausted_iff]
  rintro ⟨n, hf⟩
  simp [isIdle, hf] at hc

/-- A step that submits nothing. -/
theorem Attempted.keep (ha : Attempted c₀ batches residuals es c)
    (hs : c'.buffer.settings = c.buffer.settings) (hl : c'.ledger.submitted = c.ledger.submitted)
    (hp : Pace c₀.buffer.settings batches residuals' c'.buffer.pending.toList c'.flush)
    (hcr : credit c'.flush < credit c.flush)
    (hx : (∃ n, c'.flush = .finished (.error (.exhausted n))) ↔
      HasStreak c₀.attempts residuals') :
    Attempted c₀ batches residuals' (es ++ [e]) c' where
  settings := hs.trans ha.settings
  submitted := hl.trans ha.submitted
  waiting := ha.waiting
  tries_le := ha.tries_le
  pace := hp
  length_le := by
    have := ha.length_le
    rw [List.length_append, List.length_singleton]
    omega
  exhausted_iff := hx

/-- A step by which the flush returns, not for want of attempts. -/
theorem Attempted.finish {r : Except Error Unit} (ha : Attempted c₀ batches residuals es c)
    (hs : c'.buffer.settings = c.buffer.settings) (hl : c'.ledger.submitted = c.ledger.submitted)
    (hc : c.isIdle = false) (hf : c'.flush = .finished r) (hr : ∀ n, r ≠ .error (.exhausted n))
    (hres : residuals' = residuals ∨ residuals' = [] :: residuals) :
    Attempted c₀ batches residuals' (es ++ [e]) c' := by
  refine ha.keep hs hl (hf ▸ .finished) ?_ ?_
  · rw [hf]
    cases hb : c.flush with
    | finished r => simp [isIdle, hb] at hc
    | _ => simp [credit]
  · rw [hf]
    refine iff_of_false ?_ ?_
    · rintro ⟨n, hn⟩
      exact hr n (Flush.finished.inj hn)
    -- a streak that was not long enough before does not become so, as nothing is handed back
    rcases hres with rfl | rfl
    · exact ha.not_hasStreak hc
    · rw [hasStreak_cons, streak_cons_nil]
      exact not_or.2 ⟨Nat.not_succ_le_zero _, ha.not_hasStreak hc⟩

/-- A step by which a batch is submitted. -/
theorem Attempted.submit {rest : Queue Entry} {backoff : Backoff} {batch : List Entry}
    (ha : Attempted c₀ batches residuals es c) {ds : List Entry} (hk : c₀.Kept c ds)
    (hnodup : c₀.held.Nodup) (hcount : c₀.buffer.settings.maxBatchSize ≠ 0)
    (hf : c.flush = .looking backoff) (hne : c.buffer.pending.toList ≠ [])
    (hcut : Outbox.cut c.buffer.settings.maxBatchSize c.buffer.settings.maxBatchBytes
      c.buffer.pending = (batch, rest))
    (hs : c'.buffer.settings = c.buffer.settings) (hq : c'.buffer.pending = rest)
    (hf' : c'.flush = .submitting batch backoff)
    (hl : c'.ledger.submitted = batch :: c.ledger.submitted) :
    Attempted c₀ (batch :: batches) residuals (es ++ [e]) c' := by
  have hbatch : batch ≠ [] := ne_nil_of_cut (ha.settings ▸ hcount) hne hcut
  have hsub : c.buffer.pending.toList.Sublist c₀.held := c.pending_sublist_held.trans hk.held
  have hpace := ha.pace
  rw [ha.settings] at hcut
  rw [hf] at hpace
  cases hpace with
  | @looking b n first others htook hstreak hfirst hstaged =>
    have hstaged' := hstaged.cut hfirst (hnodup.sublist hsub) hcut
    refine ⟨hs.trans ha.settings, by rw [hl, ha.submitted]; rfl, ?_, fun e => ?_, ?_, ?_, ?_⟩
    · refine List.forall_mem_cons.2 ⟨⟨hbatch, fun e he => hsub.subset ?_⟩, ha.waiting⟩
      exact held_cut hcut ▸ List.mem_append_left _ he
    · -- The entries of the batch are tried once more, and no others.
      by_cases he : e ∈ batch
      · exact Nat.le_trans (hstaged'.first e he) (Nat.succ_le_succ htook.le)
      · rw [tries_cons_of_notMem he]
        exact ha.tries_le e
    · rw [hf', hq]
      exact .submitting htook hstreak hstaged'
    · have := ha.length_le
      rw [hf, credit] at this
      rw [List.length_append, List.length_singleton, hf', credit, List.length_cons]
      omega
    · rw [hf']
      exact iff_of_false nofun (ha.not_hasStreak (by simp [isIdle, hf]))

/-- What an answer hands back of the batch that is out. -/
theorem residuals_answer {batch : List Entry} {backoff : Backoff} {a : Answer} {draw : Float}
    {r : Option (List Entry)} (hf : c.flush = .submitting batch backoff)
    (hr : (p.reply batch a).handedBack = r) :
    (Event.answer a draw).residuals p c = [r.getD []] := by
  rw [Event.residuals, hf, Flush.batch, hr]

/-- The invariant of a flush is kept by every change. -/
theorem Attempted.of_change (ha : Attempted c₀ batches residuals es c) (hk : c₀.Flushed c)
    (hnodup : c₀.held.Nodup) (hcount : c₀.buffer.settings.maxBatchSize ≠ 0)
    (h : Change p t c e t' c') (he : e.isCall = false) :
    ∃ batches', Attempted c₀ batches' (e.residuals p c ++ residuals) (es ++ [e]) c' := by
  have hbusy := h.isIdle_eq_false he
  have hpace := ha.pace
  cases h with
  | turnedAway | accepted | called | calledLast => cases he
  | stopped hf hr =>
    refine ⟨batches, ha.finish rfl rfl hbusy rfl ?_ (.inl rfl)⟩
    rintro n rfl
    rcases hr with ⟨-, hr⟩ | ⟨-, -, hr⟩ <;> cases hr
  | @cut _ batch _ hf hne hcut =>
    obtain ⟨ds, hk⟩ := hk.kept_of_isIdle hbusy
    exact ⟨batch :: batches, ha.submit hk hnodup hcount hf hne hcut rfl rfl rfl rfl⟩
  | ended hf _ _ _ hretry hnone =>
    rw [residuals_answer hf hnone, List.singleton_append]
    refine ⟨batches, ha.finish rfl rfl hbusy rfl ?_ (.inr rfl)⟩
    rintro n ⟨⟩
    cases hretry
  | completed hf _ hnil =>
    -- nothing is handed back: the count of pauses starts anew, as does that of the tries of what
    -- waits
    rw [residuals_answer hf hnil, List.singleton_append]
    rw [hf] at hpace
    obtain _ | ⟨htook, -, hstaged⟩ := hpace
    refine ⟨batches, ha.keep rfl rfl (.looking htook.reset streak_cons_nil rfl hstaged.start)
      (by simp [hf, credit]) (iff_of_false nofun ?_)⟩
    exact hasStreak_cons.not.2 (not_or.2 ⟨Nat.not_succ_le_zero _, ha.not_hasStreak hbusy⟩)
  | paused hf hs hne hnext hsome =>
    rw [residuals_answer hf hsome, List.singleton_append]
    rw [hf] at hpace
    obtain _ | ⟨htook, rfl, hstaged⟩ := hpace
    -- the batch is put back to the front, with one pause more and one try more
    have htook' := htook.succ_of_next hnext
    refine ⟨batches, ha.keep rfl rfl (.pausing htook' (streak_cons hne)
      (Queue.toList_prepend _ _).symm (hstaged.handBack hs.fate.residual_sublist))
      (by simp [hf, credit]) (iff_of_false nofun ?_)⟩
    refine hasStreak_cons.not.2 (not_or.2 ⟨?_, ha.not_hasStreak hbusy⟩)
    rw [Option.getD_some, streak_cons hne]
    exact Nat.not_lt.2 htook'.le
  | exhausted hf hs hne hnext hsome =>
    rw [residuals_answer hf hsome, List.singleton_append]
    rw [hf] at hpace
    obtain _ | ⟨htook, rfl, -⟩ := hpace
    refine ⟨batches, ha.keep rfl rfl .finished (by simp [hf, credit])
      (iff_of_true ⟨_, rfl⟩ (hasStreak_cons.2 (.inl ?_)))⟩
    -- All pauses are taken, and one more batch in a row has handed something back.
    rw [Option.getD_some, streak_cons hne, htook.eq_of_next hnext, attempts]
  | refused hf =>
    exact ⟨batches, ha.finish rfl rfl hbusy rfl nofun (.inr rfl)⟩
  | woken hf =>
    rw [hf] at hpace
    obtain _ | _ | ⟨htook, hstreak, hfirst, hstaged⟩ := hpace
    exact ⟨batches, ha.keep rfl rfl (.looking htook hstreak hfirst hstaged) (by simp [hf, credit])
      (iff_of_false nofun (ha.not_hasStreak hbusy))⟩

/-- The invariant of a flush holds as long as no call follows. -/
theorem attempted_of_run (hcount : c₀.buffer.settings.maxBatchSize ≠ 0)
    (ha : c₀.buffer.aborted = none) (hf : c₀.flush = c₀.buffer.flush) (hnodup : c₀.held.Nodup)
    (hes : ∀ e ∈ es, e.isCall = false) (h : run p es (t, c₀) = some (t', c)) :
    ∃ batches, Attempted c₀ batches (handedBack p es (t, c₀)) es c := by
  have hw : c₀.Working := fun _ => ha
  refine (change_induction (s := (t, c₀)) (motive := fun es _ c => (∀ e ∈ es, e.isCall = false) →
    ∃ batches, Attempted c₀ batches (handedBack p es (t, c₀)) es c) hw
    (fun _ => ⟨[], attempted_of_flush c₀ ha hf⟩) ?_ h).2 hes
  intro es e t₁ c₁ t₂ c₂ h₁ ih hch hes
  have he : e.isCall = false := hes e (List.mem_append_right _ (List.mem_singleton_self e))
  have hes₁ : ∀ e ∈ es, e.isCall = false := fun e he => hes e (List.mem_append_left _ he)
  obtain ⟨batches, hm⟩ := ih hes₁
  rw [handedBack_concat h₁]
  exact hm.of_change (flushed_of_run hw hes₁ h₁) hnodup hcount hch he

/-! ## Flushes -/

/-- What a flush does, given the course it began in and the events so far. -/
structure Bounded (p : Policy) (st : Tally × Course) (es : List Event) (c : Course) : Prop where
  /-- It submits few batches, and no entry is part of many of them. -/
  submissions : ∃ batches, c.ledger.submitted = batches ++ st.2.ledger.submitted ∧
    batches.length ≤ st.2.buffer.pending.size * st.2.attempts ∧
    ∀ e, tries batches e ≤ st.2.attempts
  /-- It returns after few events, -/
  length_le : es.length ≤ 3 * (st.2.buffer.pending.size * st.2.attempts) + 1
  /-- as there is always a next one, whatever the client answers. -/
  goesOn : c.isIdle = false → ∀ t closed a draw,
    ∃ e ∈ [.look closed, .answer a draw, .wake], (c.step p t e).isSome = true
  /-- It gives up exactly if something is handed back of so many batches in a row, -/
  exhausted_iff : (∃ n, c.flush = .finished (.error (.exhausted n))) ↔
    HasStreak st.2.attempts (handedBack p es st)
  /-- and then all that is not delivered waits in its order and may be later. -/
  kept : ∀ n, c.flush = .finished (.error (.exhausted n)) →
    (Error.exhausted n).isRetryable = true ∧
    ∃ ds, c.ledger.delivered = st.2.ledger.delivered ++ ds ∧
      c.buffer.pending.toList = st.2.buffer.pending.toList.filter (· ∉ ds)

/-- A flush that is not done can always go on, whatever the client answers. -/
theorem exists_step (hc : c.isIdle = false) (t : Tally) (closed : Bool) (a : Answer)
    (draw : Float) :
    ∃ e ∈ [Event.look closed, .answer a draw, .wake], (c.step p t e).isSome = true := by
  cases hf : c.flush with
  | looking => exact ⟨.look closed, by simp, by simp [step, hf]⟩
  | submitting => exact ⟨.answer a draw, by simp, by simp [step, hf]⟩
  | pausing => exact ⟨.wake, by simp, by simp [step, hf]⟩
  | finished => simp [isIdle, hf] at hc

/-- Nothing is lost when a flush gives up. -/
theorem Flushed.kept_of_exhausted {n : Nat} (hk : c₀.Flushed c)
    (hf : c.flush = .finished (.error (.exhausted n))) : ∃ ds, c₀.Kept c ds := by
  cases hk with
  | kept hk => exact ⟨_, hk⟩
  | ended hf' _ hretry =>
    rw [hf] at hf'
    cases hf'
    cases hretry
  | refused => cases hf

/-- A flush that begins with distinct entries makes a bounded number of attempts,
    whatever the client answers. -/
theorem bounded_of_flush (hv : c₀.buffer.settings.validate = .ok ())
    (ha : c₀.buffer.aborted = none) (hf : c₀.flush = c₀.buffer.flush)
    (hids : (c₀.buffer.pending.toList.map (·.id)).Nodup) (hes : ∀ e ∈ es, e.isCall = false)
    (h : run p es (t, c₀) = some (t', c)) : Bounded p (t, c₀) es c := by
  have hout : c₀.flush.batch = [] := hf ▸ c₀.buffer.batch_flush
  have hheld : c₀.held = c₀.buffer.pending.toList := by rw [held, hout, List.nil_append]
  have hnodup : c₀.held.Nodup := hheld ▸ List.Nodup.of_map _ hids
  obtain ⟨batches, hm⟩ :=
    attempted_of_run (WriterSettings.bounds_of_validate hv).1 ha hf hnodup hes h
  -- each batch holds an entry that was waiting, and none of these is in too many batches
  have hcount : batches.length ≤ c₀.buffer.pending.size * c₀.attempts := by
    rw [← Queue.length_toList, ← hheld]
    exact length_le_of_tries_le hm.waiting hm.tries_le
  refine ⟨⟨batches, hm.submitted, hcount, hm.tries_le⟩, ?_, exists_step, hm.exhausted_iff,
    fun n hn => ⟨rfl, ?_⟩⟩
  · have := hm.length_le
    dsimp only
    omega
  · obtain ⟨ds, hk⟩ := (flushed_of_run (fun _ => ha) hes h).kept_of_exhausted hn
    exact ⟨ds, hk.delivered, hk.pending_eq hout (by rw [hn]; rfl) hids⟩

/-- Of two entries, the first is handed back at first, and then fails with the
    whole request. -/
theorem bounded_of_flush_two :
    let b : Buffer := {
      settings := { retry := { maxAttempts := 1 } }
      pending := (({} : Queue Entry).push { id := "a" }).push { id := "b" } }
    let es : List Event :=
      [.look false, .answer (.ok ⟨[{ id := "a" }]⟩) 0.5, .wake, .look false,
        .answer (.error { category := .transport, message := "lost" }) 0.5]
    ∃ t c, run {} es ({}, { buffer := b, flush := b.flush }) = some (t, c) ∧
      c.buffer.pending.toList.map (·.id) = ["a"] ∧
      handedBack {} es ({}, { buffer := b, flush := b.flush }) =
        [[{ id := "a" }], [{ id := "a" }]] ∧
      Bounded {} ({}, { buffer := b, flush := b.flush }) es c := by
  intro b es
  have hv : b.settings.validate = .ok () := by
    simp [WriterSettings.validate, RetrySettings.validate_default, b]
  have hrun : (run {} es ({}, { buffer := b, flush := b.flush })).map
      (·.2.buffer.pending.toList.map (·.id)) = some ["a"] := by
    decide +kernel
  obtain ⟨⟨t, c⟩, h, hc⟩ := Option.map_eq_some_iff.1 hrun
  exact ⟨t, c, h, hc, by decide +kernel,
    bounded_of_flush hv rfl rfl (by decide) (by simp [es, Event.isCall]) h⟩

end Course

end Outbox
