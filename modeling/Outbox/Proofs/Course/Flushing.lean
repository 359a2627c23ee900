import Outbox.Proofs.Course.Order

/-!
# What a flush keeps

From when a flush begins to when it returns, no call begins (`Event.isCall`).
The entries that were waiting at first are then delivered or still held, those
held in their order (`Course.Kept`). There are two ways to lose some
(`Course.Flushed`): the work ends, or the batch that is out is refused.

If the entries are distinct, then those that are kept follow from those that are
delivered (`Course.Kept.pending_eq`).

A call that fails as the writer is closed does so by a look at the writer, or as
its batch is refused (`Course.Change.closed_cases`).
-/

namespace Outbox

/-- A part of a list without duplicates, by what it leaves out. -/
theorem eq_filter_notMem {α : Type} [DecidableEq α] {l out part : List α} (hl : l.Nodup)
    (hs : part.Sublist l) (hp : (out ++ part).Perm l) : part = l.filter (· ∉ out) := by
  have hdisjoint : ∀ a ∈ part, a ∉ out := fun a ha hout =>
    List.disjoint_of_nodup_append (hp.nodup_iff.2 hl) hout ha
  have hpart : part.filter (· ∉ out) = part :=
    List.filter_eq_self.2 fun a ha => by simpa using hdisjoint a ha
  have hout : out.filter (· ∉ out) = [] := List.filter_eq_nil_iff.2 fun a ha => by simpa using ha
  -- The two lists are as long as each other, and one is a part of the other.
  have hlength := (hp.filter (· ∉ out)).length_eq
  rw [List.filter_append, hout, hpart, List.nil_append] at hlength
  have hsub := hs.filter (· ∉ out)
  rw [hpart] at hsub
  exact hsub.eq_of_length hlength

/-- A flush does not fail at once as the writer is closed. -/
theorem Buffer.flush_ne_closed (b : Buffer) : b.flush ≠ .finished (.error .closed) := by
  obtain ⟨-, hf⟩ | ⟨reason, -, hf⟩ := b.flush_cases <;> rw [hf] <;> nofun

/-- Nor does the last flush. -/
theorem Buffer.lastFlush_ne_closed (b : Buffer) : b.lastFlush ≠ .finished (.error .closed) := by
  unfold lastFlush
  split
  · exact b.flush_ne_closed
  · split <;> nofun

namespace Course

/-- The event is that a call begins. -/
def Event.isCall : Event → Bool
  | .write _ | .flush | .lastFlush => true
  | .look _ | .answer _ _ | .refuse | .wake => false

variable {p : Policy} {t t' : Tally} {c₀ c c' : Course} {e : Event} {ds : List Entry}

/-- Only a call begins while no flush is under way. -/
theorem Change.isIdle_eq_false (h : Change p t c e t' c') (he : e.isCall = false) :
    c.isIdle = false := by
  cases h with
  | turnedAway | accepted | called | calledLast => cases he
  | stopped hf | cut hf | ended hf | completed hf | paused hf | exhausted hf | refused hf
  | woken hf => rw [isIdle, hf]

/-! ## Calls -/

/-- A call fails as the writer is closed only when it finds it closed, with
    entries waiting, or when a batch is refused. -/
theorem Change.closed_cases (h : Change p t c e t' c')
    (hf : c'.flush = .finished (.error .closed)) :
    c' = { c with flush := .finished (.error .closed) } ∧
      ((e = .look true ∧ ∃ backoff, c.flush = .looking backoff) ∨
        (e = .refuse ∧ ∃ batch backoff, c.flush = .submitting batch backoff)) := by
  -- all other errors are of another kind
  cases h with
  | turnedAway _ haway =>
    obtain ⟨reason, -, rfl⟩ | ⟨-, -, rfl⟩ := haway <;> cases hf
  | @accepted e b =>
    dsimp only at hf
    split at hf
    · exact absurd hf b.flush_ne_closed
    · cases hf
  | called => exact absurd hf (Buffer.flush_ne_closed _)
  | calledLast => exact absurd hf (Buffer.lastFlush_ne_closed _)
  | stopped hl hr =>
    obtain ⟨-, rfl⟩ | ⟨-, rfl, rfl⟩ := hr
    · cases hf
    · exact ⟨rfl, .inl ⟨rfl, _, hl⟩⟩
  | ended _ _ _ herr =>
    cases hf
    cases herr
  | refused hs => exact ⟨rfl, .inr ⟨rfl, _, _, hs⟩⟩
  | cut | completed | paused | exhausted | woken => cases hf

/-- No other event makes a call fail in this way. -/
theorem Change.ne_closed (h : Change p t c e t' c') (hlook : e ≠ .look true)
    (hrefuse : e ≠ .refuse) : c'.flush ≠ .finished (.error .closed) := by
  intro hf
  obtain ⟨-, ⟨he, -⟩ | ⟨he, -⟩⟩ := h.closed_cases hf
  · exact hlook he
  · exact hrefuse he

/-- A call does not fail at once as the writer is closed. -/
theorem Change.ne_closed_of_call (h : Change p t c e t' c') (he : e.isCall = true) :
    c'.flush ≠ .finished (.error .closed) :=
  h.ne_closed (by rintro rfl; cases he) (by rintro rfl; cases he)

/-- A batch is submitted only if the writer is found open. -/
theorem Change.open_of_submitting {closed : Bool} {batch : List Entry} {backoff : Backoff}
    (h : Change p t c (.look closed) t' c') (hf : c'.flush = .submitting batch backoff) :
    closed = false := by
  cases h with
  | stopped => cases hf
  | cut => rfl

/-- The entry that a call writes. -/
def Event.written : Event → List Entry
  | .write e => [e]
  | .flush | .lastFlush | .look _ | .answer _ _ | .refuse | .wake => []

/-- A call fails at once, or what it writes is held behind the entries that wait. -/
theorem Change.held_of_call (h : Change p t c e t' c') (he : e.isCall = true) :
    c'.ledger.delivered = c.ledger.delivered ∧
      (c'.isIdle = true ∨ c'.held = c.buffer.pending.toList ++ e.written) := by
  cases h with
  | turnedAway => exact ⟨rfl, .inl rfl⟩
  | @accepted e b _ _ _ hb =>
    refine ⟨rfl, .inr ?_⟩
    rw [held, b.batch_ite_flush, hb, Queue.toList_push, List.nil_append, Event.written]
  | called => exact ⟨rfl, .inr (by simp [held, Event.written])⟩
  | calledLast => exact ⟨rfl, .inr (by simp [held, Event.written])⟩
  | stopped | cut | ended | completed | paused | exhausted | refused | woken => cases he

/-! ## What is kept -/

/-- What was held at first is delivered or still held, and nothing is lost. -/
structure Kept (c₀ c : Course) (ds : List Entry) : Prop where
  /-- What is delivered since comes last. -/
  delivered : c.ledger.delivered = c₀.ledger.delivered ++ ds
  /-- It makes up what was held, together with what still is. -/
  perm : (ds ++ c.held).Perm c₀.held
  /-- What is still held is in its order. -/
  held : c.held.Sublist c₀.held

/-- At first all is kept. -/
theorem Kept.refl (c : Course) : c.Kept c [] := ⟨by simp, .refl _, .refl _⟩

/-- What is still held and not delivered is kept. -/
theorem Kept.of_held_eq (hk : c₀.Kept c ds) (hd : c'.ledger.delivered = c.ledger.delivered)
    (hh : c'.held = c.held) : c₀.Kept c' ds :=
  ⟨hd.trans hk.delivered, hh ▸ hk.perm, hh ▸ hk.held⟩

/-- The part of a batch that is not delivered is handed back. -/
theorem Kept.settle {batch delivered residual : List Entry} {backoff : Backoff} {a : Answer}
    (hk : c₀.Kept c ds) (hf : c.flush = .submitting batch backoff)
    (hfate : p.Fate batch a delivered residual [])
    (hd : c'.ledger.delivered = c.ledger.delivered ++ delivered)
    (hh : c'.held = residual ++ c.buffer.pending.toList) : c₀.Kept c' (ds ++ delivered) := by
  have hheld : c.held = batch ++ c.buffer.pending.toList := by rw [Course.held, hf]; rfl
  refine ⟨by rw [hd, hk.delivered, List.append_assoc], ?_, ?_⟩
  · have hbatch : (delivered ++ residual).Perm batch := by simpa using hfate.perm
    have hperm := hk.perm
    rw [hheld] at hperm
    rw [hh, List.append_assoc, ← List.append_assoc delivered]
    exact ((hbatch.append_right _).append_left ds).trans hperm
  · rw [hh]
    exact (held_prepend hf hfate.residual_sublist).trans hk.held

/-- What is kept is what is not delivered. -/
theorem Kept.pending_eq (hk : c₀.Kept c ds) (hc₀ : c₀.flush.batch = []) (hc : c.flush.batch = [])
    (hids : (c₀.buffer.pending.toList.map (·.id)).Nodup) :
    c.buffer.pending.toList = c₀.buffer.pending.toList.filter (· ∉ ds) := by
  have hperm := hk.perm
  have hheld := hk.held
  rw [Course.held, Course.held, hc, hc₀, List.nil_append, List.nil_append] at hperm hheld
  exact eq_filter_notMem (List.Nodup.of_map _ hids) hheld hperm

/-! ## Flushes -/

/-- What a flush has made of the entries held at first. -/
inductive Flushed (c₀ : Course) : Course → Prop
  | kept {c : Course} {ds : List Entry} : c₀.Kept c ds → Flushed c₀ c
  /-- The work has ended. -/
  | ended {c : Course} {err : Error} : c.flush = .finished (.error err) →
      err.isSinkFailure = true → err.isRetryable = false → Flushed c₀ c
  /-- The batch that was out is refused and dropped. -/
  | refused {c : Course} {ds batch : List Entry} {backoff : Backoff} : c₀.Kept c ds →
      c.flush = .submitting batch backoff →
      Flushed c₀ { c with flush := .finished (.error .closed) }

/-- What a change leaves of what was kept. -/
theorem Kept.flushed_of_change (hk : c₀.Kept c ds) (h : Change p t c e t' c')
    (he : e.isCall = false) : c₀.Flushed c' := by
  cases h with
  | turnedAway | accepted | called | calledLast => cases he
  | stopped hf => exact .kept (hk.of_held_eq rfl (by simp [Course.held, hf, Flush.batch]))
  | cut hf _ hcut =>
    exact .kept (hk.of_held_eq rfl (by simp [Course.held, hf, Flush.batch, held_cut hcut]))
  | ended _ _ _ herr hretry => exact .ended rfl herr hretry
  | completed hf hs =>
    exact .kept (hk.settle hf hs.fate rfl (by simp [Course.held, Flush.batch]))
  | paused hf hs | exhausted hf hs =>
    exact .kept (hk.settle hf hs.fate rfl (by simp [Course.held, Flush.batch]))
  | refused hf => exact .refused hk hf
  | woken hf => exact .kept (hk.of_held_eq rfl (by simp [Course.held, hf, Flush.batch]))

/-- Nothing is lost as long as the flush goes on. -/
theorem Flushed.kept_of_isIdle (hf : c₀.Flushed c) (hc : c.isIdle = false) :
    ∃ ds, c₀.Kept c ds := by
  cases hf with
  | kept hk => exact ⟨_, hk⟩
  | ended hf => simp [isIdle, hf] at hc
  | refused => simp [isIdle] at hc

/-- A flush goes on. -/
theorem Flushed.of_change (hf : c₀.Flushed c) (h : Change p t c e t' c') (he : e.isCall = false) :
    c₀.Flushed c' := by
  obtain ⟨ds, hk⟩ := hf.kept_of_isIdle (h.isIdle_eq_false he)
  exact hk.flushed_of_change h he

/-- What has become of the entries since a flush began. -/
theorem flushed_of_run {es : List Event} (hw : c₀.Working) (hes : ∀ e ∈ es, e.isCall = false)
    (h : run p es (t, c₀) = some (t', c)) : c₀.Flushed c := by
  refine (change_induction (motive := fun es _ c => (∀ e ∈ es, e.isCall = false) → c₀.Flushed c)
    hw (fun _ => .kept (.refl c₀)) ?_ h).2 hes
  intro es e t c t' c' _ ih hch hes
  have he : e.isCall = false := hes e (List.mem_append_right _ (List.mem_singleton_self e))
  exact (ih fun e he => hes e (List.mem_append_left _ he)).of_change hch he

end Course

end Outbox
