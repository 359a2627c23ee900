import Mathlib.Data.List.Perm.Basic
import Outbox.Dispatch.Reply

/-!
# What a reply can be

A reply is one of four (`Policy.Replied`): the batch failed for good, it is
handed back as a whole, what the receipt rejects of it is handed back, or what
the receipt rejects of it is reported.

* `Policy.failure?`: why a batch failed as a whole, be it an entry that cannot
  be sent or the answer of the client.
* `Policy.replied`: the reply to a batch is one of the four.
* `Policy.firstOfEach` picks the first rejection of each wanted id:
  `firstOfEach_sublist`, `mem_map_id_firstOfEach`, `nodup_map_id_firstOfEach`,
  `find?_of_mem_firstOfEach`. If all wanted entries are rejected, it picks as
  many as there are (`perm_map_id_firstOfEach`).
-/

namespace Outbox

/-- The entries of a batch that a receipt rejects. -/
def Receipt.rejected (r : Receipt) (entries : List Entry) : List Entry :=
  entries.filter (r.rejects ·.id)

/-- The entries of a batch that a receipt does not reject. -/
def Receipt.accepted (r : Receipt) (entries : List Entry) : List Entry :=
  entries.filter (!r.rejects ·.id)

/-- A receipt divides a batch. -/
theorem Receipt.accepted_append_rejected_perm (r : Receipt) (entries : List Entry) :
    (r.accepted entries ++ r.rejected entries).Perm entries :=
  (List.perm_append_comm).trans (List.filter_append_perm _ _)

/-- Each entry is accepted or rejected. -/
theorem Receipt.length_accepted_add (r : Receipt) (entries : List Entry) :
    (r.accepted entries).length + (r.rejected entries).length = entries.length := by
  rw [← List.length_append, (r.accepted_append_rejected_perm entries).length_eq]

namespace Policy

/-! ## The first of each -/

/-- Rejections are picked in their order. -/
theorem firstOfEach_sublist (wanted : Std.TreeSet String) (rs : List Rejection) :
    (firstOfEach wanted rs).Sublist rs := by
  induction rs generalizing wanted with
  | nil => exact .refl _
  | cons r rs ih =>
    rw [firstOfEach]
    split
    · exact (ih _).cons_cons r
    · exact (ih _).cons r

/-- The ids picked are those that are wanted and rejected. -/
theorem mem_map_id_firstOfEach {wanted : Std.TreeSet String} {rs : List Rejection} {id : String} :
    id ∈ (firstOfEach wanted rs).map (·.id) ↔ id ∈ wanted ∧ id ∈ rs.map (·.id) := by
  induction rs generalizing wanted with
  | nil => simp [firstOfEach]
  | cons r rs ih =>
    rw [firstOfEach]
    split <;> rename_i h
    · -- Once `r` is picked its id is no longer wanted, but it is there already.
      rw [List.map_cons, List.mem_cons, ih, List.map_cons, List.mem_cons, Std.TreeSet.mem_erase]
      by_cases hr : id = r.id
      · simp [hr, Std.TreeSet.mem_iff_contains, h]
      · simp [hr, Ne.symm hr]
    · rw [ih, List.map_cons, List.mem_cons]
      constructor
      · exact fun ⟨hw, hm⟩ => ⟨hw, .inr hm⟩
      · rintro ⟨hw, rfl | hm⟩
        · exact absurd (Std.TreeSet.mem_iff_contains.1 hw) h
        · exact ⟨hw, hm⟩

/-- No id is picked twice. -/
theorem nodup_map_id_firstOfEach (wanted : Std.TreeSet String) (rs : List Rejection) :
    ((firstOfEach wanted rs).map (·.id)).Nodup := by
  induction rs generalizing wanted with
  | nil => exact List.nodup_nil
  | cons r rs ih =>
    rw [firstOfEach]
    split
    · refine List.nodup_cons.2 ⟨fun hr => ?_, ih _⟩
      have hw := (mem_map_id_firstOfEach.1 hr).1
      simp at hw
    · exact ih _

/-- What is picked is the first rejection with its id. -/
theorem find?_of_mem_firstOfEach {wanted : Std.TreeSet String} {rs : List Rejection}
    {x : Rejection} (hx : x ∈ firstOfEach wanted rs) : rs.find? (·.id == x.id) = some x := by
  induction rs generalizing wanted with
  | nil => simp [firstOfEach] at hx
  | cons r rs ih =>
    have later {w : Std.TreeSet String} (hr : r.id ∉ w) (hx : x ∈ firstOfEach w rs) :
        (r :: rs).find? (·.id == x.id) = some x := by
      have hw : x.id ∈ w := (mem_map_id_firstOfEach.1 (List.mem_map_of_mem hx)).1
      have hne : r.id ≠ x.id := fun h => hr (h ▸ hw)
      rw [List.find?_cons_of_neg (by simpa using hne), ih hx]
    rw [firstOfEach] at hx
    split at hx <;> rename_i h
    · rcases List.mem_cons.1 hx with rfl | hx
      · simp
      · exact later (by simp) hx
    · exact later (fun hr => h (Std.TreeSet.mem_iff_contains.1 hr)) hx

/-- Of entries that are all rejected, each id is picked once. -/
theorem perm_map_id_firstOfEach {es : List Entry} {rs : List Rejection}
    (hes : (es.map (·.id)).Nodup) (hrs : ∀ e ∈ es, e.id ∈ rs.map (·.id)) :
    ((firstOfEach (.ofList (es.map (·.id))) rs).map (·.id)).Perm (es.map (·.id)) := by
  refine (List.perm_ext_iff_of_nodup (nodup_map_id_firstOfEach _ _) hes).2 fun id => ?_
  rw [mem_map_id_firstOfEach, Std.TreeSet.mem_ofList]
  constructor
  · exact fun h => by simpa using h.1
  · intro h
    obtain ⟨e, he, rfl⟩ := List.mem_map.1 h
    exact ⟨by simpa using ⟨e, he, rfl⟩, hrs e he⟩

/-! ## Failures -/

/-- Without an invalidity all entries are valid. -/
theorem invalidity?_eq_none_iff {entries : List Entry} :
    invalidity? entries = none ↔ ∀ e ∈ entries, e.isValid = true := by
  simp [invalidity?]

/-- Why a batch failed as a whole, given the client's answer in case it is asked. -/
def failure? (entries : List Entry) (a : Answer) : Option Fault :=
  (invalidity? entries).or (match a with
    | .error f => some f
    | .ok _ => none)

/-- A batch does not fail as a whole when all of it may be sent and there is a receipt. -/
theorem failure?_eq_none_iff {entries : List Entry} {a : Answer} :
    failure? entries a = none ↔ invalidity? entries = none ∧ ∃ r, a = .ok r := by
  cases a <;> simp [failure?]

/-! ## Replies -/

variable {p : Policy} {entries : List Entry} {a : Answer}

/-- A batch that is not sent is replied to whatever the client would have answered. -/
theorem reply_of_refusal {r : Reply} (h : p.refusal? entries = some r) (a : Answer) :
    p.reply entries a = r := by
  rw [reply, h, Option.getD_some]

/-- A batch that is not refused gets its reply by the answer. -/
theorem reply_of_refusal_eq_none (h : p.refusal? entries = none) (a : Answer) :
    p.reply entries a = p.onAnswer entries a := by
  rw [reply, h, Option.getD_none]

/-- A batch that failed as a whole gets its reply by the fault. -/
theorem reply_of_failure {f : Fault} (h : failure? entries a = some f) :
    p.reply entries a = p.onFault entries f := by
  rw [reply, refusal?]
  cases hi : invalidity? entries with
  | some g =>
    obtain rfl : g = f := by simpa [failure?, hi] using h
    rfl
  | none =>
    cases a with
    | error g =>
      obtain rfl : g = f := by simpa [failure?, hi] using h
      rfl
    | ok r => simp [failure?, hi] at h

/-- A batch that did not fail as a whole gets its reply by the receipt. -/
theorem reply_of_receipt {r : Receipt} (h : failure? entries (.ok r) = none) :
    p.reply entries (.ok r) = p.onReceipt entries r := by
  rw [reply, refusal?, (failure?_eq_none_iff.1 h).1]
  rfl

/-- The replies to a batch. -/
inductive Replied (p : Policy) (entries : List Entry) (a : Answer) : Reply → Prop
  /-- The batch failed for good. -/
  | failed {f : Fault} {e : Error} : failure? entries a = some f →
      e = (if p.failOnError then .failFast (p.rules.diagnose f)
        else .requestFailed (p.rules.diagnose f)) →
      (p.failOnError = false → (p.rules.diagnose f).verdict = .fatal) →
      Replied p entries a (.failure e)
  /-- The batch failed, and all of it is handed back. -/
  | retried {f : Fault} : failure? entries a = some f → p.failOnError = false →
      (p.rules.diagnose f).verdict = .retryable →
      Replied p entries a ⟨.ok { retried := entries.length }, some entries⟩
  /-- What the receipt rejects is handed back. -/
  | handedBack {r : Receipt} : failure? entries a = none → a = .ok r →
      (p.failOnError = true → r.rejected entries = []) →
      Replied p entries a ⟨.ok {
        delivered := (r.accepted entries).length
        retried := (r.rejected entries).length }, some (r.rejected entries)⟩
  /-- What the receipt rejects is reported. -/
  | rejected {r : Receipt} : failure? entries a = none → a = .ok r → p.failOnError = true →
      r.rejected entries ≠ [] →
      Replied p entries a ⟨.ok {
        delivered := (r.accepted entries).length
        rejected := firstOfEach (.ofList ((r.rejected entries).map (·.id))) r.rejections }, none⟩

/-- By a fault a batch fails for good or is handed back. -/
theorem replied_onFault {f : Fault} (h : failure? entries a = some f) :
    Replied p entries a (p.onFault entries f) := by
  unfold onFault
  cases hp : p.failOnError with
  | true => exact .failed h (by simp [hp]) (by simp [hp])
  | false =>
    simp only [Bool.false_eq_true, if_false]
    split <;> rename_i hv
    · exact .failed h (by simp [hp]) fun _ => hv
    · exact .retried h hp hv

/-- By a receipt something is handed back, or rejections are reported. -/
theorem replied_onReceipt {r : Receipt} (h : failure? entries a = none) (ha : a = .ok r) :
    Replied p entries a (p.onReceipt entries r) := by
  have hr : entries.filter (r.rejectedIds.contains ·.id) = r.rejected entries := by
    simp [Receipt.rejected]
  have hd : entries.length - (r.rejected entries).length = (r.accepted entries).length := by
    have := r.length_accepted_add entries
    omega
  unfold onReceipt
  simp only [hr, hd]
  split <;> rename_i he
  · rw [List.isEmpty_iff] at he
    have := Replied.handedBack (p := p) h ha fun _ => he
    simpa [he] using this
  · rw [List.isEmpty_iff] at he
    split <;> rename_i hp
    · exact .rejected h ha hp he
    · exact .handedBack h ha fun hp' => absurd hp' hp

/-- The reply to a batch is one of the four. -/
theorem replied (p : Policy) (entries : List Entry) (a : Answer) :
    Replied p entries a (p.reply entries a) := by
  cases hf : failure? entries a with
  | some f =>
    rw [reply_of_failure hf]
    exact replied_onFault hf
  | none =>
    obtain ⟨-, r, rfl⟩ := failure?_eq_none_iff.1 hf
    rw [reply_of_receipt hf]
    exact replied_onReceipt hf rfl

/-- The ids that are reported are those of the entries that are rejected. -/
theorem mem_map_id_reported {r : Receipt} {id : String} :
    id ∈ (firstOfEach (.ofList ((r.rejected entries).map (·.id))) r.rejections).map (·.id) ↔
      id ∈ (r.rejected entries).map (·.id) := by
  rw [mem_map_id_firstOfEach, Std.TreeSet.mem_ofList]
  constructor
  · exact fun h => by simpa using h.1
  · intro h
    obtain ⟨e, he, rfl⟩ := List.mem_map.1 h
    obtain ⟨x, hx, hid⟩ := Receipt.rejects_iff.1 (List.mem_filter.1 he).2
    exact ⟨by simpa using ⟨e, he, rfl⟩, hid ▸ List.mem_map_of_mem hx⟩

/-- If something is rejected, then a rejection is reported. -/
theorem firstOfEach_ne_nil {r : Receipt} (hne : r.rejected entries ≠ []) :
    firstOfEach (.ofList ((r.rejected entries).map (·.id))) r.rejections ≠ [] := by
  obtain ⟨e, he⟩ := List.exists_mem_of_ne_nil _ hne
  have hmem := mem_map_id_reported.2 (List.mem_map_of_mem (f := (·.id)) he)
  intro h
  simp [h] at hmem

/-- Of a batch with distinct ids, as many rejections are reported as there are
    entries rejected. -/
theorem perm_map_id_rejected {r : Receipt} (hids : (entries.map (·.id)).Nodup) :
    ((firstOfEach (.ofList ((r.rejected entries).map (·.id))) r.rejections).map (·.id)).Perm
      ((r.rejected entries).map (·.id)) := by
  refine perm_map_id_firstOfEach (hids.sublist (List.filter_sublist.map _)) fun e he => ?_
  obtain ⟨x, hx, hid⟩ := Receipt.rejects_iff.1 (List.mem_filter.1 he).2
  exact hid ▸ List.mem_map_of_mem hx

end Policy

end Outbox
