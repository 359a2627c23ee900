import Outbox.Proofs.Dispatch.Contract

/-!
# What a reply depends on

Of the receipt for a batch, nothing counts but which of the submitted ids it
rejects. Two receipts that agree on these may differ in their order, in how often
they reject an id, in what they say about it, and in ids that were not submitted.

* If entries are handed back, then the replies are the same
  (`Policy.onReceipt_congr`).
* If entries are reported, then the replies differ at most in what is reported
  about the ids, and in which order (`Policy.alike_onReceipt`).

So do submissions that get such receipts (`Dispatch.Submission.alike_of_receipts`),
also of batches in which several entries have the same id.
-/

namespace Outbox

/-- Two receipts reject the same of the ids of a batch. -/
def Receipt.AgreeOn (entries : List Entry) (r r' : Receipt) : Prop :=
  ∀ id ∈ entries.map (·.id), id ∈ r.rejections.map (·.id) ↔ id ∈ r'.rejections.map (·.id)

/-- Receipts that agree on a batch reject the same of its ids. -/
theorem Receipt.AgreeOn.rejects_eq {entries : List Entry} {r r' : Receipt}
    (h : AgreeOn entries r r') {e : Entry} (he : e ∈ entries) :
    r.rejects e.id = r'.rejects e.id := by
  rw [Bool.eq_iff_iff, rejects_iff, rejects_iff, ← List.mem_map, ← List.mem_map]
  exact h e.id (List.mem_map_of_mem he)

instance (entries : List Entry) (r r' : Receipt) : Decidable (Receipt.AgreeOn entries r r') :=
  inferInstanceAs (Decidable (∀ id ∈ entries.map (·.id),
    id ∈ r.rejections.map (·.id) ↔ id ∈ r'.rejections.map (·.id)))

/-- Replies are the same but for what is said of the ids that are reported, each of
    which is reported once. -/
inductive Reply.Alike : Reply → Reply → Prop
  /-- They fail with the same error. -/
  | failed (e : Error) : Alike (.failure e) (.failure e)
  /-- They hand back the same entries. -/
  | handedBack {o : Outcome} {es : List Entry} : o.rejected = [] →
      Alike ⟨.ok o, some es⟩ ⟨.ok o, some es⟩
  /-- They report the same ids, each once. -/
  | rejected {delivered : Nat} {xs ys : List Rejection} :
      (xs.map (·.id)).Nodup → (ys.map (·.id)).Nodup →
      (∀ id, id ∈ xs.map (·.id) ↔ id ∈ ys.map (·.id)) →
      Alike ⟨.ok { delivered, rejected := xs }, none⟩ ⟨.ok { delivered, rejected := ys }, none⟩

namespace Policy

variable {p : Policy} {entries : List Entry} {r r' : Receipt}

/-- Such receipts get the same reply if entries are handed back. -/
theorem onReceipt_congr (h : Receipt.AgreeOn entries r r') (hp : p.failOnError = false) :
    p.onReceipt entries r = p.onReceipt entries r' := by
  have hres : entries.filter (r.rejectedIds.contains ·.id) =
      entries.filter (r'.rejectedIds.contains ·.id) :=
    List.filter_congr fun e he => by simp [h.rejects_eq he]
  simp only [onReceipt, hres, hp]
  rfl

/-- Such receipts get replies that are alike if entries are reported. -/
theorem alike_onReceipt (h : Receipt.AgreeOn entries r r') (hp : p.failOnError = true) :
    (p.onReceipt entries r).Alike (p.onReceipt entries r') := by
  have hres : r.rejected entries = r'.rejected entries :=
    List.filter_congr fun e he => h.rejects_eq he
  -- the reply, with the ids rejected told by the entries rejected
  have honReceipt (r : Receipt) : p.onReceipt entries r =
      if (r.rejected entries).isEmpty then
        ⟨.ok { delivered := entries.length - (r.rejected entries).length }, some []⟩
      else ⟨.ok {
        delivered := entries.length - (r.rejected entries).length
        rejected := firstOfEach (.ofList ((r.rejected entries).map (·.id))) r.rejections },
        none⟩ := by
    simp only [onReceipt, Receipt.contains_rejectedIds, hp, if_true]
    rfl
  rw [honReceipt, honReceipt, ← hres]
  split
  · exact .handedBack rfl
  · refine .rejected (nodup_map_id_firstOfEach _ _) (nodup_map_id_firstOfEach _ _) fun id => ?_
    rw [mem_map_id_reported, hres, mem_map_id_reported]

end Policy

namespace Dispatch.Submission

variable {p : Policy} {entries : List Entry} {r r' : Receipt}

/-- A submission to a writer that is closed is refused, whatever the client would answer. -/
theorem after_arriving_of_closed (p : Policy) (a : Answer) (entries : List Entry) {g : Gate}
    (hg : g.closed = true) :
    ∃ g', after p a 6 (g, .arriving entries) = (g', .finished (some (.failure .closed))) := by
  have hnext : next p a ({ g with inFlight := g.inFlight + 1 }, .counted entries) =
      some ({ g with inFlight := g.inFlight + 1 }, .leaving (some (.failure .closed))) := by
    simp [next, advance, hg]
  rw [after_succ (by rfl), after_succ hnext]
  exact after_leaving 2 _

/-- Two submissions of a batch end alike if the receipts for them reject the same of its ids. -/
theorem alike_of_receipts (p : Policy) (g : Gate) (h : Receipt.AgreeOn entries r r') :
    ∃ g₁ g₂ x y, after p (.ok r) 6 (g, .arriving entries) = (g₁, .finished (some x)) ∧
      after p (.ok r') 6 (g, .arriving entries) = (g₂, .finished (some y)) ∧
      (p.failOnError = false → x = y) ∧ (p.failOnError = true → x.Alike y) := by
  cases hg : g.closed with
  | true =>
    obtain ⟨g₁, h₁⟩ := after_arriving_of_closed p (.ok r) entries hg
    obtain ⟨g₂, h₂⟩ := after_arriving_of_closed p (.ok r') entries hg
    exact ⟨g₁, g₂, _, _, h₁, h₂, fun _ => rfl, fun _ => .failed _⟩
  | false =>
    obtain ⟨g₁, h₁⟩ := after_arriving p (.ok r) entries hg
    obtain ⟨g₂, h₂⟩ := after_arriving p (.ok r') entries hg
    refine ⟨g₁, g₂, _, _, h₁, h₂, ?_⟩
    cases hi : Policy.invalidity? entries with
    | some f =>
      -- A batch that is not sent has one reply, whatever the answer would be.
      have hreply (r : Receipt) : p.reply entries (.ok r) = p.onFault entries f :=
        Policy.reply_of_failure (by simp [Policy.failure?, hi])
      rw [hreply, hreply]
      refine ⟨fun _ => rfl, fun hp => ?_⟩
      rw [Policy.onFault, if_pos hp]
      exact .failed _
    | none =>
      have hreply (r : Receipt) : p.reply entries (.ok r) = p.onReceipt entries r :=
        Policy.reply_of_receipt (by simp [Policy.failure?, hi])
      rw [hreply, hreply]
      exact ⟨Policy.onReceipt_congr h, Policy.alike_onReceipt h⟩

/-- Four entries, two of which have the same id, which is rejected twice in one receipt and
    once in the other. -/
theorem alike_of_receipts_four :
    let entries : List Entry :=
      [{ id := "a" }, { id := "b" }, { id := "a", payload := ⟨#[1]⟩ }, { id := "c" }]
    let r : Receipt := ⟨[{ id := "c", code := some "Throttled" }, { id := "x" }, { id := "a" },
      { id := "c" }, { id := "a", message := some "no" }]⟩
    let r' : Receipt := ⟨[{ id := "a", senderFault := some true }, { id := "c" }]⟩
    Receipt.AgreeOn entries r r' ∧ ∀ failOnError : Bool,
      let p : Policy := { failOnError }
      ∃ g₁ g₂ x y, after p (.ok r) 6 ({}, .arriving entries) = (g₁, .finished (some x)) ∧
        after p (.ok r') 6 ({}, .arriving entries) = (g₂, .finished (some y)) ∧
        (p.failOnError = false → x = y) ∧ (p.failOnError = true → x.Alike y) := by
  intro entries r r'
  have h : Receipt.AgreeOn entries r r' := by decide
  exact ⟨h, fun failOnError => alike_of_receipts { failOnError } {} h⟩

end Dispatch.Submission

end Outbox
