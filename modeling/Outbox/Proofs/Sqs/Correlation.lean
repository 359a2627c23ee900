import Mathlib.Data.List.Nodup
import Mathlib.Data.List.Range
import Outbox.Proofs.Dispatch.Contract
import Outbox.Proofs.Sqs.AllOrNothing
import Std.Data.String.ToNat

/-!
# Messages are put down to their entries

The service knows the entries of a batch by the positions they have in it. What
it reports of these positions is about the right entries, whatever their own ids
are, provided that these are distinct (`Sqs.correlated_of_send`):

* there is one request, whose messages have the bodies of the entries, in order,
  and distinct ids (`Request.Carries`);
* the receipt says of each entry what the service has said of its message, in the
  order of the report, and forgets what is not about any message
  (`Sqs.addressee?`);
* a writer hands back the entries whose messages were reported, in the order of
  the batch, and counts all others as delivered (`Sqs.reported`).

No two positions have the same local id (`Sqs.localId_injective`). So the way from
a position to its local id, from there to the id of the entry and back to the
position is the way from a position to its local id (`Sqs.rejects_receipt`).
-/

namespace Outbox.Sqs

open Dispatch (Gate Submission)
open Rehearsal (ScriptedQueue)

/-- Different positions have different local ids. -/
theorem localId_injective : Function.Injective localId := by
  intro i j h
  simp only [localId, toString] at h
  exact Nat.repr_injective ((String.append_right_inj "msg_").1 h)

/-! ## The request -/

/-- An entry can go out as a message: its payload is text, and its delay, if it has
    one, is a number. -/
structure Sendable (e : Entry) : Prop where
  text : ∃ body : String, body.toUTF8 = e.payload
  delay : ∃ delay, delayOf e = .ok delay

/-- What can be sent is well-formed. -/
theorem Sendable.wellFormed {e : Entry} (h : Sendable e) : WellFormed e :=
  ⟨h.text, h.delay.imp fun _ => delayOf_eq_ok_iff.1⟩

/-- The messages have the ids and the bodies of the entries, each in its place. -/
theorem exists_messagesFrom {es : List Entry} (h : ∀ e ∈ es, Sendable e) (k : Nat) :
    ∃ ms, messagesFrom k es = .ok ms ∧
      ms.map (·.id) = (List.range' k es.length).map localId ∧
      ms.map (·.body.toUTF8) = es.map (·.payload) := by
  obtain ⟨ms, hms⟩ := (exists_messagesFrom_iff k).2 fun e he => (h e he).wellFormed
  have hall := messagesFrom_eq_ok_iff.1 hms
  refine ⟨ms, hms, ?_, ?_⟩
  · rw [← List.zipIdx_map_snd, List.map_map, ← List.forall₂_eq_eq_eq, List.forall₂_map_left_iff,
      List.forall₂_map_right_iff]
    exact hall.flip.imp fun _ _ hm => hm.id
  · rw [← List.zipIdx_map_fst (i := k) (l := es), List.map_map, ← List.forall₂_eq_eq_eq,
      List.forall₂_map_left_iff, List.forall₂_map_right_iff]
    exact hall.flip.imp fun _ _ hm => hm.body

/-- A request carries the entries of a batch. -/
structure Request.Carries (r : Request) (queue : String) (entries : List Entry) : Prop where
  queue : r.queue = queue
  /-- The messages are known by the positions of the entries, -/
  ids : r.messages.map (·.id) = (List.range entries.length).map localId
  /-- and their bodies are the payloads, in order. -/
  bodies : r.messages.map (·.body.toUTF8) = entries.map (·.payload)
  nodup : (r.messages.map (·.id)).Nodup

/-- Entries that can be sent make a request that carries them. -/
theorem exists_request {entries : List Entry} (h : ∀ e ∈ entries, Sendable e) (queue : String) :
    ∃ r, request false queue entries = .ok r ∧ r.Carries queue entries := by
  obtain ⟨ms, hms, hids, hbodies⟩ := exists_messagesFrom h 0
  rw [← List.range_eq_range'] at hids
  refine ⟨⟨queue, ms⟩, by rw [request, messages, hms]; rfl, rfl, hids, hbodies, ?_⟩
  exact hids ▸ List.nodup_range.map localId_injective

/-! ## The receipt -/

variable {entries : List Entry} {refused : List Refused}

/-- The entry whose message has the id, if any has. -/
def addressee? (entries : List Entry) (id : String) : Option Entry :=
  (entries.zipIdx.find? (localId ·.2 == id)).map (·.1)

/-- An id is that of the entry at the position it was made from. -/
theorem addressee?_eq_some_iff {id : String} {e : Entry} :
    addressee? entries id = some e ↔ ∃ i, localId i = id ∧ entries[i]? = some e := by
  constructor
  · intro h
    obtain ⟨⟨e', i⟩, hf, rfl⟩ := Option.map_eq_some_iff.1 h
    exact ⟨i, by simpa using List.find?_some hf,
      List.mem_zipIdx_iff_getElem?.1 (List.mem_of_find?_eq_some hf)⟩
  · rintro ⟨i, rfl, he⟩
    have hmem : (e, i) ∈ entries.zipIdx := List.mem_zipIdx_iff_getElem?.2 he
    cases hf : entries.zipIdx.find? (localId ·.2 == localId i) with
    | none => exact absurd (List.find?_eq_none.1 hf _ hmem) (by simp)
    | some x =>
      obtain rfl : x.2 = i := localId_injective (by simpa using List.find?_some hf)
      have hx := List.mem_zipIdx_iff_getElem?.1 (List.mem_of_find?_eq_some hf)
      rw [addressee?, hf, ← he, hx]
      rfl

/-- Local ids are looked up as they were given. -/
theorem get?_byLocalId (entries : List Entry) (id : String) :
    (byLocalId entries).get? id = addressee? entries id := by
  rw [Std.TreeMap.get?_eq_getElem?, byLocalId]
  cases h : addressee? entries id with
  | none =>
    refine Std.TreeMap.getElem?_ofList_of_contains_eq_false ?_
    simpa [addressee?] using h
  | some e =>
    obtain ⟨i, rfl, he⟩ := addressee?_eq_some_iff.1 h
    refine Std.TreeMap.getElem?_ofList_of_mem (by simp) ?_
      (List.mem_map.2 ⟨(e, i), List.mem_zipIdx_iff_getElem?.2 he, rfl⟩)
    -- No local id is given twice.
    have hids : (entries.zipIdx.map Prod.snd).Nodup := by
      rw [List.zipIdx_map_snd]
      exact List.nodup_range'
    rw [List.pairwise_map]
    refine (List.pairwise_map.1 hids).imp fun hne => ?_
    simpa using localId_injective.ne hne

/-- The rejections are what was refused, put down to entries. -/
theorem rejections_receipt (entries : List Entry) (refused : List Refused) :
    (receipt entries refused).rejections =
      refused.filterMap fun f => (addressee? entries f.id).map f.rejection := by
  simp only [receipt, get?_byLocalId]

/-- An entry is rejected exactly if its message is reported. -/
theorem rejects_receipt (hids : (entries.map (·.id)).Nodup) {e : Entry} {i : Nat}
    (he : entries[i]? = some e) :
    (receipt entries refused).rejects e.id = refused.any (·.id == localId i) := by
  rw [Bool.eq_iff_iff, Receipt.rejects_iff, rejections_receipt]
  simp only [List.mem_filterMap, Option.map_eq_some_iff, List.any_eq_true, beq_iff_eq]
  constructor
  · rintro ⟨x, ⟨f, hf, e', he', rfl⟩, hid⟩
    obtain ⟨j, hj, he'⟩ := addressee?_eq_some_iff.1 he'
    -- Entries with the same id are at the same position.
    have hij : (entries.map (·.id))[i]? = (entries.map (·.id))[j]? := by
      simp only [List.getElem?_map, he, he', Option.map_some]
      exact congrArg some hid.symm
    have hi : i < (entries.map (·.id)).length := by
      simpa using (List.getElem?_eq_some_iff.1 he).1
    obtain rfl : i = j := (List.getElem?_inj hi hids).1 hij
    exact ⟨f, hf, hj.symm⟩
  · rintro ⟨f, hf, hid⟩
    exact ⟨f.rejection e, ⟨f, hf, e, addressee?_eq_some_iff.2 ⟨i, hid.symm, he⟩, rfl⟩, rfl⟩

/-! ## The reply -/

/-- The entries at the positions that are reported. -/
def reported (entries : List Entry) (refused : List Refused) : List Entry :=
  (entries.zipIdx.filter fun (_, i) => refused.any (·.id == localId i)).map (·.1)

/-- The entries that are rejected are those at the positions that are reported. -/
theorem rejected_receipt (hids : (entries.map (·.id)).Nodup) (refused : List Refused) :
    (receipt entries refused).rejected entries = reported entries refused := by
  set r := receipt entries refused with hr
  calc r.rejected entries
      = (entries.zipIdx.map Prod.fst).filter (r.rejects ·.id) := by
        rw [List.zipIdx_map_fst, Receipt.rejected]
    _ = (entries.zipIdx.filter (r.rejects ·.1.id)).map Prod.fst := List.filter_map
    _ = reported entries refused := by
        rw [reported, List.filter_congr fun x hx => ?_]
        rw [hr, rejects_receipt hids (List.mem_zipIdx_iff_getElem?.1 hx)]

/-- The reply that hands back some entries of a batch and counts all others as
    delivered. -/
def handingBack (entries back : List Entry) : Reply where
  result := .ok { delivered := entries.length - back.length, retried := back.length }
  handedBack := some back

/-- What is handed back are the entries whose messages were reported. -/
theorem onAnswer_receipt {p : Policy} (hp : p.failOnError = false)
    (hids : (entries.map (·.id)).Nodup) (refused : List Refused) :
    p.onAnswer entries (.ok (receipt entries refused)) =
      handingBack entries (reported entries refused) := by
  have hback : entries.filter ((receipt entries refused).rejectedIds.contains ·.id) =
      reported entries refused := by
    simpa [Receipt.rejected] using rejected_receipt hids refused
  rw [Policy.onAnswer, Policy.onReceipt, hback]
  cases hb : reported entries refused with
  | nil => rfl
  | cons e es => simp [hp, handingBack]

/-! ## From one end to the other -/

/-- What the client of a queue has made of a batch of which the service has reported
    some messages: it was `c` before and is `c'` now, and has answered with `r`. -/
structure Correlated (p : Policy) (g : Gate) (c c' : ScriptedQueue) (queue : String)
    (entries : List Entry) (refused : List Refused) (r : Receipt) : Prop where
  /-- There is one request, which carries the entries. -/
  request : ∃ request, c'.sent = request :: c.sent ∧ request.Carries queue entries
  /-- The report is passed on in its order, but for ids that no message has. -/
  receipt : r.rejections = refused.filterMap fun f => (addressee? entries f.id).map fun e =>
    { id := e.id, code := some f.code, message := f.message, senderFault := some f.senderFault }
  /-- The message of an entry has the position of the entry in its id. -/
  addressee : ∀ id e, addressee? entries id = some e ↔ ∃ i, localId i = id ∧ entries[i]? = some e
  /-- The writer that is waiting for the answer hands back what was reported. -/
  answered : (Submission.outstanding entries).answered p (.ok r) =
    some (.leaving (some (handingBack entries (reported entries refused))))
  /-- It has asked for the answer unless an entry is marked as one that cannot be sent. -/
  asked : (Submission.admitted entries).advance p g = some (g, .outstanding entries) ↔
    ∀ e ∈ entries, e.isValid = true
  /-- So this is how the submission ends. -/
  finished : g.closed = false → (∀ e ∈ entries, e.isValid = true) →
    ∃ g', Submission.after p (.ok r) 6 (g, .arriving entries) =
      (g', .finished (some (handingBack entries (reported entries refused))))

/-- Whatever messages the service reports of a batch of entries with distinct ids,
    a writer that retries hands back the entries of these messages. -/
theorem correlated_of_send {p : Policy} {c : ScriptedQueue} (g : Gate) (queue : String)
    (hp : p.failOnError = false) (hids : (entries.map (·.id)).Nodup)
    (hsend : ∀ e ∈ entries, Sendable e) (hc : c.released = false)
    (hs : c.script.next.1.getD (.ok []) = .ok refused) :
    ∃ c' r, c.send queue entries = (.ok r, c') ∧
      Correlated p g c c' queue entries refused r := by
  obtain ⟨request, hreq, hcarries⟩ := exists_request hsend queue
  have hasked : p.refusal? entries = none ↔ ∀ e ∈ entries, e.isValid = true := by
    rw [Policy.refusal?, Option.map_eq_none_iff, Policy.invalidity?_eq_none_iff]
  -- what the service reports comes back as a reply about entries
  have hreply := onAnswer_receipt hp hids refused
  refine ⟨_, receipt entries refused, by rw [ScriptedQueue.send, hc, hreq]; simp only [hs]; rfl,
    ⟨request, rfl, hcarries⟩, rejections_receipt entries refused,
    fun _ _ => addressee?_eq_some_iff, ?_, ?_, fun hg hv => ?_⟩
  · rw [Submission.answered, hreply]
  · rw [← hasked, Submission.advance]
    cases p.refusal? entries <;> simp
  · obtain ⟨g', h⟩ := Submission.after_arriving p (.ok (receipt entries refused)) entries hg
    refine ⟨g', h.trans ?_⟩
    rw [Policy.reply, hasked.2 hv, Option.getD_none, hreply]

/-- Of three entries, the last and the first are reported, the last one twice, beside
    ids that no message has. -/
theorem correlated_of_send_three :
    let delayed : Headers := { pairs := [(delayHeader, "5")] }
    let entries : List Entry :=
      [{ id := "msg_1", payload := "x".toUTF8 }, { id := "", payload := "y".toUTF8 },
        { id := "ü 3", payload := "z".toUTF8, headers := delayed }]
    let refused : List Refused :=
      [⟨"msg_2", "Throttled", none, false⟩, ⟨"msg_00", "Odd", none, true⟩,
        ⟨"msg_0", "Invalid", some "no", true⟩, ⟨"ü 3", "Odd", none, true⟩,
        ⟨"msg_2", "Throttled", none, false⟩]
    let c : ScriptedQueue := { script := [(1, .ok refused)] }
    (entries.map (·.id)).Nodup ∧ (∀ e ∈ entries, Sendable e) ∧ c.released = false ∧
      c.script.next.1.getD (.ok []) = .ok refused ∧
      (reported entries refused).map (·.id) = ["msg_1", "ü 3"] ∧
      ∃ c' r, c.send "queue" entries = (.ok r, c') ∧
        Correlated {} {} c c' "queue" entries refused r := by
  intro delayed entries refused c
  have hids : (entries.map (·.id)).Nodup := by decide
  have hsend : ∀ e ∈ entries, Sendable e := by
    simp only [entries, List.forall_mem_cons]
    exact ⟨⟨⟨"x", rfl⟩, none, rfl⟩, ⟨⟨"y", rfl⟩, none, rfl⟩,
      ⟨⟨"z", rfl⟩, some 5, by decide +kernel⟩, nofun⟩
  exact ⟨hids, hsend, rfl, rfl, by decide +kernel,
    correlated_of_send {} "queue" rfl hids hsend rfl rfl⟩

end Outbox.Sqs
