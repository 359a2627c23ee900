import Mathlib.Data.List.Infix
import Outbox.Buffer

/-!
# Cutting batches

The next batch is a part of the queue at its front. It holds at least one entry,
at most so many, and is within the limit on its size unless its first entry
alone is not (`Fits`).

* `cut_ne_nil`, `fits_cut`, `totalSize_cut_le`: the limits.
* `prefix_cut`: entries at the front that fit into one batch are all part of the
  next one. As what is handed back of a batch fits into one (`Fits.sublist`), no
  batch leaves a part of it behind.
-/

namespace Outbox

/-- A part of some entries is not larger than all of them. -/
theorem totalSize_le_of_sublist {es es' : List Entry} (h : es.Sublist es') :
    totalSize es ≤ totalSize es' := by
  induction h with
  | slnil => exact Nat.le_refl _
  | cons e _ ih => exact Nat.le_trans ih (Nat.le_add_left _ _)
  | cons_cons e _ ih => exact Nat.add_le_add_left ih _

/-- Entries that fit into one batch, if not because of their total size, then
    because they are no more than one. -/
structure Fits (count bytes : Nat) (es : List Entry) : Prop where
  length_le : es.length ≤ count
  size_le : es.length ≤ 1 ∨ totalSize es ≤ bytes

variable {count bytes : Nat} {es es' : List Entry}

/-- A part of what fits fits. -/
theorem Fits.sublist (h : Fits count bytes es) (hs : es'.Sublist es) : Fits count bytes es' where
  length_le := Nat.le_trans hs.length_le h.length_le
  size_le := h.size_le.imp (Nat.le_trans hs.length_le) (Nat.le_trans (totalSize_le_of_sublist hs))

/-- No entries fit. -/
theorem fits_nil : Fits count bytes [] := ⟨Nat.zero_le _, .inl (Nat.zero_le _)⟩

/-! ## The limits -/

/-- A batch that is cut off something is not empty. -/
theorem cut_ne_nil {q : Queue Entry} (hc : count ≠ 0) (hq : q.toList ≠ []) :
    (cut count bytes q).1 ≠ [] := by
  obtain ⟨e, es, hq⟩ := List.exists_cons_of_ne_nil hq
  obtain ⟨count, rfl⟩ := Nat.exists_eq_succ_of_ne_zero hc
  simp [cut, hq, batchLength]

/-- A batch that is cut off something is not empty. -/
theorem ne_nil_of_cut {q rest : Queue Entry} {batch : List Entry} (hc : count ≠ 0)
    (hq : q.toList ≠ []) (h : cut count bytes q = (batch, rest)) : batch ≠ [] := by
  have hbatch : (cut count bytes q).1 ≠ [] := cut_ne_nil hc hq
  rwa [h] at hbatch

/-- Only the first entry may be too large. -/
theorem fits_cut (count bytes : Nat) (q : Queue Entry) :
    Fits count bytes (cut count bytes q).1 := by
  refine ⟨length_cut_le count bytes q, ?_⟩
  unfold cut batchLength
  dsimp only
  rcases q.toList with _ | ⟨e, es⟩
  · exact .inl (Nat.zero_le _)
  · rcases count with _ | count
    · exact .inl (Nat.zero_le _)
    · by_cases he : e.size ≤ bytes
      · exact .inr (totalSize_take_fitting_le bytes count e.size he es)
      · -- Nothing fits beside an entry that is too large already.
        left
        have hnone : fitting bytes count e.size es = 0 := by
          rcases count with _ | count <;> rcases es with _ | ⟨d, es⟩ <;> simp [fitting]
          omega
        simp [hnone]

/-- When each entry is within the limit by itself, so is each batch. -/
theorem totalSize_cut_le {q : Queue Entry} (h : ∀ e ∈ q.toList, e.size ≤ bytes) :
    totalSize (cut count bytes q).1 ≤ bytes := by
  rcases (fits_cut count bytes q).size_le with hl | hs
  · have hmem : ∀ e ∈ (cut count bytes q).1, e.size ≤ bytes := fun e he =>
      h e (List.mem_of_mem_take he)
    rcases hb : (cut count bytes q).1 with _ | ⟨e, _ | ⟨d, es⟩⟩
    · exact Nat.zero_le _
    · exact hmem e (by simp [hb])
    · simp [hb] at hl
  · exact hs

/-! ## What goes out together -/

/-- Entries that fit together are all counted. -/
theorem length_le_fitting {used : Nat} (rest : List Entry) (hl : es.length ≤ count)
    (hs : used + totalSize es ≤ bytes) : es.length ≤ fitting bytes count used (es ++ rest) := by
  induction es generalizing count used with
  | nil => exact Nat.zero_le _
  | cons e es ih =>
    obtain ⟨count, rfl⟩ := Nat.exists_eq_succ_of_ne_zero (n := count) (by rintro rfl; cases hl)
    rw [totalSize, ← Nat.add_assoc] at hs
    rw [List.cons_append, fitting, if_neg (by omega)]
    exact Nat.succ_le_succ (ih (Nat.le_of_succ_le_succ hl) hs)

/-- Entries at the front that fit are all part of the next batch. -/
theorem Fits.length_le_batchLength (h : Fits count bytes es) (rest : List Entry) :
    es.length ≤ batchLength count bytes (es ++ rest) := by
  rcases es with _ | ⟨e, es⟩
  · exact Nat.zero_le _
  · have hl := h.length_le
    obtain ⟨count, rfl⟩ := Nat.exists_eq_succ_of_ne_zero (n := count) (by rintro rfl; cases hl)
    refine Nat.succ_le_succ ?_
    rcases h.size_le with hone | hs
    · exact Nat.le_trans (Nat.le_of_succ_le_succ hone) (Nat.zero_le _)
    · exact length_le_fitting rest (Nat.le_of_succ_le_succ hl) hs

/-- Entries at the front that fit into one batch are all part of the next one. -/
theorem prefix_cut {q : Queue Entry} (h : Fits count bytes es) (hq : es <+: q.toList) :
    es <+: (cut count bytes q).1 := by
  obtain ⟨rest, hq⟩ := hq
  rw [cut, ← hq]
  exact List.prefix_take_iff.2 ⟨List.prefix_append es rest, h.length_le_batchLength rest⟩

end Outbox
