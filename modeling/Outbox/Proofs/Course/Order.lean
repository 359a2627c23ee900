import Mathlib.Data.List.Nodup
import Outbox.Proofs.Course.Conservation

/-!
# Entries stay in their order

Whatever happens to a buffer, the entries that wait are in the order in which
they were accepted, and so are those of every batch (`Course.ordered_of_run`). A
batch is the front of the buffer at the time it is submitted: what stays behind
was accepted later. This holds of all policies and answers, whether batches are
refused or not.

The invariant is about the entries of the batch that is out and those behind it
together (`Course.held`). Whatever becomes of the batch, what is handed back is a
part of it in the same order, whichever order the service reports it in, and
goes to the front again (`Course.Change.held_sublist`).
-/

namespace Outbox

/-- Of a list without duplicates, the first part of what is left comes first. -/
theorem idxOf_lt_idxOf {α : Type} [BEq α] [LawfulBEq α] {l front rest : List α} {a b : α}
    (hl : l.Nodup) (hs : (front ++ rest).Sublist l) (ha : a ∈ front) (hb : b ∈ rest) :
    l.idxOf a < l.idxOf b := by
  have hl' : l.Pairwise fun a b => l.idxOf a < l.idxOf b := by
    refine List.pairwise_iff_getElem.2 fun i j hi hj hij => ?_
    rwa [hl.idxOf_getElem i hi, hl.idxOf_getElem j hj]
  exact (List.pairwise_append.1 (hl'.sublist hs)).2.2 a ha b hb

/-- What is handed back of a batch is in its order. -/
theorem Policy.Fate.residual_sublist {p : Policy} {batch delivered residual lost : List Entry}
    {a : Answer} (h : p.Fate batch a delivered residual lost) : residual.Sublist batch := by
  cases h with
  | ended => exact List.nil_sublist _
  | retried => exact .refl _
  | handedBack => exact List.filter_sublist

namespace Course

variable {p : Policy} {t t' : Tally} {c c' : Course} {e : Event}

/-- The entries of the batch that is out, and those behind it. -/
def held (c : Course) : List Entry := c.flush.batch ++ c.buffer.pending.toList

/-- Between calls only what waits is held. -/
theorem held_of_isIdle (h : c.isIdle = true) : c.held = c.buffer.pending.toList := by
  rw [held, batch_of_isIdle h, List.nil_append]

/-- What waits is held. -/
theorem pending_sublist_held (c : Course) : c.buffer.pending.toList.Sublist c.held :=
  List.sublist_append_right _ _

/-- What is handed back comes first among those that wait. -/
theorem held_prepend {batch residual : List Entry} {backoff : Backoff}
    (hf : c.flush = .submitting batch backoff) (hr : residual.Sublist batch) :
    (residual ++ c.buffer.pending.toList).Sublist c.held := by
  rw [held, hf]
  exact hr.append_right _

/-- A batch is taken off the front. -/
theorem held_cut {batch : List Entry} {rest : Queue Entry} {count bytes : Nat}
    (h : cut count bytes c.buffer.pending = (batch, rest)) :
    batch ++ rest.toList = c.buffer.pending.toList := by
  have happend := cut_append count bytes c.buffer.pending
  rwa [h] at happend

/-! ## One step -/

/-- What is accepted goes to the end, and nothing else changes its place. -/
theorem Change.held_sublist (h : Change p t c e t' c') :
    ∃ new, c'.ledger.accepted = c.ledger.accepted ++ new ∧ c'.held.Sublist (c.held ++ new) ∧
      ∀ d ∈ new, d.size ≤ c.buffer.settings.maxRecordBytes := by
  -- Most events accept nothing.
  have same (ha : c'.ledger.accepted = c.ledger.accepted) (hs : c'.held.Sublist c.held) :
      ∃ new, c'.ledger.accepted = c.ledger.accepted ++ new ∧ c'.held.Sublist (c.held ++ new) ∧
        ∀ d ∈ new, d.size ≤ c.buffer.settings.maxRecordBytes :=
    ⟨[], by rw [ha, List.append_nil], by rwa [List.append_nil], nofun⟩
  cases h with
  | @accepted e b hi ha hs hb =>
    refine ⟨[e], rfl, ?_, by simpa using hs⟩
    rw [held_of_isIdle hi, held, b.batch_ite_flush, hb, Queue.toList_push, List.nil_append]
  | called =>
    refine same rfl ?_
    rw [held, Buffer.batch_flush, List.nil_append]
    exact c.pending_sublist_held
  | calledLast =>
    refine same rfl ?_
    rw [held, Buffer.batch_lastFlush, List.nil_append]
    exact c.pending_sublist_held
  | cut hf _ hcut =>
    exact same rfl (by simp [held, Flush.batch, held_cut hcut])
  | paused hf hs | exhausted hf hs =>
    refine same rfl ?_
    simpa [held, Flush.batch] using held_prepend hf hs.fate.residual_sublist
  | turnedAway | stopped | ended | completed | refused | woken =>
    exact same rfl c.pending_sublist_held

/-- A batch is submitted when it is taken off the front. -/
theorem Change.submit_cases (h : Change p t c e t' c') :
    (c'.ledger.submitted = c.ledger.submitted ∧
      ∀ batch backoff, c'.flush ≠ .submitting batch backoff) ∨
    ∃ batch backoff, c.flush = .looking backoff ∧ c'.flush = .submitting batch backoff ∧
      c'.ledger.submitted = batch :: c.ledger.submitted ∧ c.buffer.pending.toList ≠ [] ∧
      Outbox.cut c.buffer.settings.maxBatchSize c.buffer.settings.maxBatchBytes
        c.buffer.pending = (batch, c'.buffer.pending) := by
  cases h with
  | cut hf hne hcut => exact .inr ⟨_, _, hf, rfl, rfl, hne, hcut⟩
  | @accepted e b =>
    refine .inl ⟨rfl, fun batch backoff => ?_⟩
    dsimp only
    split
    · exact b.flush_ne_submitting
    · nofun
  | called => exact .inl ⟨rfl, fun _ _ => Buffer.flush_ne_submitting _⟩
  | calledLast => exact .inl ⟨rfl, fun _ _ => Buffer.lastFlush_ne_submitting _⟩
  | turnedAway | stopped | ended | completed | paused | exhausted | refused | woken =>
    exact .inl ⟨rfl, nofun⟩

/-! ## All steps -/

/-- All entries are in the order in which they were accepted. -/
structure Aligned (c : Course) : Prop where
  held : c.held.Sublist c.ledger.accepted
  submitted : ∀ batch ∈ c.ledger.submitted, batch.Sublist c.ledger.accepted
  sent : ∀ batch ∈ c.ledger.sent, batch.Sublist c.ledger.accepted

/-- The order is kept by every change. -/
theorem Aligned.of_change (hc : c.Aligned) (h : Change p t c e t' c') : c'.Aligned := by
  obtain ⟨new, ha, hs, -⟩ := h.held_sublist
  -- What was in order is so still.
  have grow {l : List Entry} (hl : l.Sublist c.ledger.accepted) : l.Sublist c'.ledger.accepted :=
    ha ▸ hl.trans (List.sublist_append_left _ _)
  refine ⟨ha ▸ hs.trans (hc.held.append_right new), fun batch hb => ?_, fun batch hb => ?_⟩
  · obtain ⟨hsub, -⟩ | ⟨_, _, -, -, hsub, -, hcut⟩ := h.submit_cases <;> rw [hsub] at hb
    · exact grow (hc.submitted batch hb)
    · rcases List.mem_cons.1 hb with rfl | hb
      · have hfront : batch.Sublist c.buffer.pending.toList :=
          held_cut hcut ▸ List.sublist_append_left _ _
        exact grow (hfront.trans (c.pending_sublist_held.trans hc.held))
      · exact grow (hc.submitted batch hb)
  · obtain ⟨hsent, -⟩ | ⟨_, hsent, -⟩ := h.sent_cases <;> rw [hsent] at hb
    · exact grow (hc.sent batch hb)
    · rcases List.mem_cons.1 hb with rfl | hb
      · exact grow ((List.sublist_append_left _ _).trans hc.held)
      · exact grow (hc.sent batch hb)

/-- An empty buffer is in order. -/
theorem aligned_of_empty {b : Buffer} (hp : b.pending.toList = []) :
    Course.Aligned { buffer := b } where
  held := by simp [Course.held, Flush.batch, hp]
  submitted := nofun
  sent := nofun

/-- The order of acceptance is that of all that waits or is submitted. -/
structure Ordered (p : Policy) (c : Course) : Prop where
  /-- What waits is in order. -/
  pending : c.buffer.pending.toList.Sublist c.ledger.accepted
  /-- Every batch is in order, be it sent or not. -/
  submitted : ∀ batch ∈ c.ledger.submitted, batch.Sublist c.ledger.accepted
  sent : ∀ batch ∈ c.ledger.sent, batch.Sublist c.ledger.accepted
  /-- A batch is the front of what waits when it is submitted. -/
  front : ∀ t e t' c', c.step p t e = some (t', c') →
    c'.ledger.submitted = c.ledger.submitted ∨
      (c'.ledger.submitted = c'.flush.batch :: c.ledger.submitted ∧
        c'.flush.batch ++ c'.buffer.pending.toList = c.buffer.pending.toList)
  /-- All that stays behind the batch that is out comes after it, -/
  behind : (c.flush.batch ++ c.buffer.pending.toList).Sublist c.ledger.accepted
  /-- which means that it was accepted later if the entries are distinct. -/
  later : (c.ledger.accepted.map (·.id)).Nodup → ∀ d ∈ c.flush.batch,
    ∀ e ∈ c.buffer.pending.toList, c.ledger.accepted.idxOf d < c.ledger.accepted.idxOf e

/-- Whatever happens to a buffer from its creation on (see
    `Buffer.eq_of_create`), entries stay in the order of their acceptance. -/
theorem ordered_of_run {settings : WriterSettings} {es : List Event}
    (h : run p es (t, { buffer := { settings } }) = some (t', c)) : Ordered p c := by
  have hw : Working { buffer := { settings } } := fun _ => rfl
  obtain ⟨hwc, hc⟩ := change_induction (motive := fun _ _ c => c.Aligned) hw
    (aligned_of_empty rfl) (fun _ hc hch => hc.of_change hch) h
  refine ⟨c.pending_sublist_held.trans hc.held, hc.submitted, hc.sent, fun t e t' c' hs => ?_,
    hc.held, fun hids d hd e he => ?_⟩
  · obtain ⟨hsub, -⟩ | ⟨batch, _, -, hf, hsub, -, hcut⟩ := (change_of_step hwc hs).submit_cases
    · exact .inl hsub
    · refine .inr ?_
      rw [hsub, hf]
      exact ⟨rfl, held_cut hcut⟩
  · exact idxOf_lt_idxOf (List.Nodup.of_map _ hids) hc.held hd he

/-- Of five entries, the third and the first are handed back, in this order.
    They come before the fourth, and all three fail and come back again. -/
theorem ordered_of_run_five :
    let settings : WriterSettings := { maxBatchSize := 3 }
    let es : List Event :=
      [.write { id := "a" }, .write { id := "b" }, .write { id := "c" }, .write { id := "d" },
        .write { id := "e" }, .flush, .look false,
        .answer (.ok ⟨[{ id := "c" }, { id := "x" }, { id := "a" }]⟩) 0.5, .wake, .look false,
        .answer (.error { category := .transport, message := "lost" }) 0.5, .wake, .look false]
    ∃ t c, run {} es ({}, { buffer := { settings } }) = some (t, c) ∧
      c.ledger.submitted.map (·.map (·.id)) =
        [["a", "c", "d"], ["a", "c", "d"], ["a", "b", "c"]] ∧
      c.buffer.pending.toList.map (·.id) = ["e"] ∧ Ordered {} c := by
  intro settings es
  have hrun : (run {} es ({}, { buffer := { settings } })).map (fun s =>
      (s.2.ledger.submitted.map (·.map (·.id)), s.2.buffer.pending.toList.map (·.id))) =
        some ([["a", "c", "d"], ["a", "c", "d"], ["a", "b", "c"]], ["e"]) := by
    decide +kernel
  obtain ⟨⟨t, c⟩, h, hc⟩ := Option.map_eq_some_iff.1 hrun
  obtain ⟨hsubmitted, hpending⟩ := Prod.mk.inj hc
  exact ⟨t, c, h, hsubmitted, hpending, ordered_of_run h⟩

end Course

end Outbox
