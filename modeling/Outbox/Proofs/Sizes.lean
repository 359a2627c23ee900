import Mathlib.Data.List.Induction
import Mathlib.Data.List.Perm.Basic
import Outbox.Sizes

/-!
# The sizes of a batch

If no two entries of a batch have the same id, then its `Sizes` know the size of
each of them (`Sizes.get_ofBatch`) and of all of them (`Sizes.total_ofBatch`).
Hence what remains without some of its entries is the size of the others
(`Sizes.without_ofBatch`); nothing is taken off that is not there
(`Sizes.takenOff_le_total`).
-/

namespace Outbox

/-- The total size does not depend on the order of the entries. -/
theorem totalSize_eq_of_perm {es es' : List Entry} (h : es.Perm es') :
    totalSize es = totalSize es' := by
  induction h with
  | nil => rfl
  | cons e _ ih => rw [totalSize, totalSize, ih]
  | swap e e' es =>
    simp only [totalSize]
    omega
  | trans _ _ ih ih' => exact ih.trans ih'

namespace Sizes

variable {batch kept rest : List Entry} {ids : List String}

/-- The last entry is inserted last. -/
theorem ofBatch_append_singleton (batch : List Entry) (e : Entry) :
    ofBatch (batch ++ [e]) = (ofBatch batch).insert e :=
  List.foldl_append

/-- An id that no entry has is known with size zero. -/
theorem get_ofBatch_of_notMem {id : String} (h : id ∉ batch.map (·.id)) :
    (ofBatch batch).get id = 0 := by
  induction batch using List.reverseRecOn with
  | nil => simp [ofBatch, get]
  | append_singleton batch e ih =>
    rw [List.map_append, List.mem_append, not_or] at h
    rw [ofBatch_append_singleton, get_insert, if_neg, ih h.1]
    rintro rfl
    simp at h

/-- The size known for the id of an entry is the size of the entry. -/
theorem get_ofBatch (hids : (batch.map (·.id)).Nodup) {e : Entry} (he : e ∈ batch) :
    (ofBatch batch).get e.id = e.size := by
  induction batch using List.reverseRecOn with
  | nil => simp at he
  | append_singleton batch d ih =>
    rw [List.map_append, List.nodup_append] at hids
    obtain ⟨hbatch, -, hd⟩ := hids
    rw [ofBatch_append_singleton, get_insert]
    rcases List.mem_append.1 he with he | he
    · rw [if_neg, ih hbatch he]
      exact (hd _ (List.mem_map_of_mem he) d.id (by simp)).symm
    · rw [List.mem_singleton.1 he, if_pos rfl]

/-- The total known is the total size of the entries. -/
theorem total_ofBatch (hids : (batch.map (·.id)).Nodup) :
    (ofBatch batch).total = totalSize batch := by
  induction batch using List.reverseRecOn with
  | nil => rfl
  | append_singleton batch e ih =>
    rw [List.map_append, List.nodup_append] at hids
    obtain ⟨hbatch, -, he⟩ := hids
    have hnew : (ofBatch batch).get e.id = 0 :=
      get_ofBatch_of_notMem fun h => he _ h e.id (by simp) rfl
    rw [ofBatch_append_singleton, insert, hnew, ih hbatch]
    simp [totalSize]

/-- What is taken off for the ids of some entries is their size. -/
theorem takenOff_ofBatch (hids : (batch.map (·.id)).Nodup) (hrest : ∀ e ∈ rest, e ∈ batch)
    (hp : ids.Perm (rest.map (·.id))) :
    ids.foldr ((ofBatch batch).get · + ·) 0 = totalSize rest := by
  -- In whichever order the sizes are added up.
  have hcomm : ∀ id ∈ ids, ∀ id' ∈ ids, ∀ n, (ofBatch batch).get id' +
      ((ofBatch batch).get id + n) = (ofBatch batch).get id + ((ofBatch batch).get id' + n) :=
    fun _ _ _ _ n => by omega
  rw [hp.foldr_eq' hcomm]
  clear hp hcomm
  induction rest with
  | nil => rfl
  | cons e rest ih =>
    rw [List.map_cons, List.foldr_cons, ih fun d hd => hrest d (.tail e hd),
      get_ofBatch hids (hrest e (.head rest)), totalSize]

/-- No more is taken off than there is. -/
theorem takenOff_le_total (hids : (batch.map (·.id)).Nodup) (hbatch : (kept ++ rest).Perm batch)
    (hp : ids.Perm (rest.map (·.id))) :
    ids.foldr ((ofBatch batch).get · + ·) 0 ≤ (ofBatch batch).total := by
  have hrest : ∀ e ∈ rest, e ∈ batch := fun e he =>
    hbatch.mem_iff.1 (List.mem_append_right kept he)
  rw [takenOff_ofBatch hids hrest hp, total_ofBatch hids, ← totalSize_eq_of_perm hbatch,
    totalSize_append]
  exact Nat.le_add_left ..

/-- What is left is the size of the other entries. -/
theorem without_ofBatch (hids : (batch.map (·.id)).Nodup) (hbatch : (kept ++ rest).Perm batch)
    (hp : ids.Perm (rest.map (·.id))) : (ofBatch batch).without ids = totalSize kept := by
  have hrest : ∀ e ∈ rest, e ∈ batch := fun e he =>
    hbatch.mem_iff.1 (List.mem_append_right kept he)
  rw [without, takenOff_ofBatch hids hrest hp, total_ofBatch hids, ← totalSize_eq_of_perm hbatch,
    totalSize_append]
  exact Nat.add_sub_cancel ..

end Sizes

end Outbox
