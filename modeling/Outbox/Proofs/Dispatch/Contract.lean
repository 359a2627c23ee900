import Outbox.Dispatch.Submission
import Outbox.Proofs.Dispatch.Reply

/-!
# The contract of submissions

What a submitter can rely on, whatever the rules on faults are and whatever the
client answers: a submission to a writer that is not closed ends in exactly one
of three ways (`Policy.Contract`).

* It fails (`Policy.Fails`): the batch failed as a whole and is not to be
  submitted again, and nothing is handed back.
* It hands entries back, in their order (`Policy.HandsBack`): the whole batch
  after a failure that is retryable, and else what the receipt rejects. All
  other entries are delivered.
* It reports entries (`Policy.Rejects`), if errors are final: each entry the
  receipt rejects is reported by its first rejection, and nothing is handed
  back. All other entries are delivered.

The submission is followed step by step, from its arrival to its end, while no
other call takes a step (`Submission.after`); main statement:
`Submission.contract_of_open`.
-/

namespace Outbox

namespace Policy

variable (p : Policy) (entries : List Entry) (a : Answer)

/-- The batch fails with an error. -/
structure Fails (e : Error) : Prop where
  /-- The error names what went wrong, which is final by the settings or by the rules. -/
  failure : ∃ f, failure? entries a = some f ∧ e.cause? = some f ∧
    (p.failOnError = false → (p.rules.diagnose f).verdict = .fatal)
  kind : e.kind = if p.failOnError then .failFast else .sink
  /-- Submitting the batch again is no use. -/
  isRetryable : e.isRetryable = false

/-- Some entries of the batch are handed back, the others are delivered. -/
structure HandsBack (o : Outcome) (es : List Entry) : Prop where
  rejected : o.rejected = []
  /-- What is handed back is in the order of the batch. -/
  sublist : es.Sublist entries
  retried : o.retried = es.length
  /-- All other entries count as delivered. -/
  total : o.delivered + o.retried = entries.length
  /-- After a failure it is the whole batch, and the failure is retryable. -/
  of_failure : ∀ f, failure? entries a = some f →
    p.failOnError = false ∧ (p.rules.diagnose f).verdict = .retryable ∧ es = entries
  /-- Otherwise it is what the receipt rejects. -/
  of_receipt : failure? entries a = none →
    ∃ r, a = .ok r ∧ es = entries.filter (r.rejects ·.id)

/-- Some entries of the batch are reported, the others are delivered. -/
structure Rejects (o : Outcome) : Prop where
  rejected : o.rejected ≠ []
  failOnError : p.failOnError = true
  /-- Nothing is handed back. -/
  retried : o.retried = 0
  /-- All other entries count as delivered. -/
  total : o.delivered + o.rejected.length = entries.length
  /-- Each id is reported once, by its first rejection, in the order of the
      receipt. -/
  of_receipt : failure? entries a = none ∧ ∃ r, a = .ok r ∧
    o.rejected.Sublist r.rejections ∧ (o.rejected.map (·.id)).Nodup ∧
    (∀ id, id ∈ o.rejected.map (·.id) ↔ id ∈ entries.map (·.id) ∧ r.rejects id = true) ∧
    ∀ x ∈ o.rejected, r.rejections.find? (·.id == x.id) = some x

/-- The submission of a batch ends in exactly one of the three ways. -/
def Contract (r : Reply) : Prop :=
  let fails := ∃ e, r = ⟨.error e, none⟩ ∧ p.Fails entries a e
  let handsBack := ∃ o es, r = ⟨.ok o, some es⟩ ∧ p.HandsBack entries a o es
  let rejects := ∃ o, r = ⟨.ok o, none⟩ ∧ p.Rejects entries a o
  (fails ∧ ¬handsBack ∧ ¬rejects) ∨ (¬fails ∧ handsBack ∧ ¬rejects) ∨
    (¬fails ∧ ¬handsBack ∧ rejects)

variable {p entries a}

/-- The three ways exclude each other by the form of the reply. -/
theorem contract_of_fails {e : Error} (h : p.Fails entries a e) :
    p.Contract entries a (.failure e) :=
  .inl ⟨⟨e, rfl, h⟩, by rintro ⟨_, _, ⟨⟩, _⟩, by rintro ⟨_, ⟨⟩, _⟩⟩

/-- Handing back is one of the three ends. -/
theorem contract_of_handsBack {o : Outcome} {es : List Entry} (h : p.HandsBack entries a o es) :
    p.Contract entries a ⟨.ok o, some es⟩ :=
  .inr (.inl ⟨by rintro ⟨_, ⟨⟩, _⟩, ⟨o, es, rfl, h⟩, by rintro ⟨_, ⟨⟩, _⟩⟩)

/-- Reporting is one of the three ends. -/
theorem contract_of_rejects {o : Outcome} (h : p.Rejects entries a o) :
    p.Contract entries a ⟨.ok o, none⟩ :=
  .inr (.inr ⟨by rintro ⟨_, ⟨⟩, _⟩, by rintro ⟨_, _, ⟨⟩, _⟩, ⟨o, rfl, h⟩⟩)

/-- A failure that is final fails the batch. -/
theorem fails_of_failure {f : Fault} (h : failure? entries a = some f)
    (hv : p.failOnError = false → (p.rules.diagnose f).verdict = .fatal) :
    p.Fails entries a
      (if p.failOnError then .failFast (p.rules.diagnose f)
        else .requestFailed (p.rules.diagnose f)) := by
  have hc := p.rules.cause_diagnose f
  cases hp : p.failOnError with
  | true => exact ⟨⟨f, h, by simp [Error.cause?, hc], hv⟩, by simp [Error.kind, hp], rfl⟩
  | false =>
    refine ⟨⟨f, h, by simp [Error.cause?, hc], hv⟩, by simp [Error.kind, hp], ?_⟩
    simp [Error.isRetryable, hv hp]

/-- A failure that is retryable hands back all. -/
theorem handsBack_all {f : Fault} (h : failure? entries a = some f) (hp : p.failOnError = false)
    (hv : (p.rules.diagnose f).verdict = .retryable) :
    p.HandsBack entries a { retried := entries.length } entries where
  rejected := rfl
  sublist := .refl _
  retried := rfl
  total := by simp
  of_failure g hg := by
    obtain rfl : f = g := by simpa [h] using hg
    exact ⟨hp, hv, rfl⟩
  of_receipt hn := by simp [h] at hn

/-- A receipt hands back what it rejects. -/
theorem handsBack_rejected {r : Receipt} (h : failure? entries (.ok r) = none) :
    p.HandsBack entries (.ok r)
      { delivered := (r.accepted entries).length, retried := (r.rejected entries).length }
      (r.rejected entries) where
  rejected := rfl
  sublist := List.filter_sublist
  retried := rfl
  total := r.length_accepted_add entries
  of_failure f hf := by simp [h] at hf
  of_receipt _ := ⟨r, rfl, rfl⟩

/-- If errors are final, each entry rejected is reported once. -/
theorem rejects_each {r : Receipt} (hids : (entries.map (·.id)).Nodup)
    (h : failure? entries (.ok r) = none) (hp : p.failOnError = true)
    (hr : r.rejected entries ≠ []) :
    p.Rejects entries (.ok r)
      { delivered := (r.accepted entries).length
        rejected := firstOfEach (.ofList ((r.rejected entries).map (·.id))) r.rejections } := by
  have hperm := perm_map_id_rejected (r := r) hids
  have hlen := by simpa using hperm.length_eq
  refine ⟨?_, hp, rfl, ?_, h, r, rfl, firstOfEach_sublist _ _, nodup_map_id_firstOfEach _ _,
    fun id => ?_, fun x hx => find?_of_mem_firstOfEach hx⟩
  · rw [← List.length_pos_iff, hlen]
    exact List.length_pos_iff.2 hr
  · rw [hlen]
    exact r.length_accepted_add entries
  · -- an id that is reported is that of an entry the receipt rejects
    rw [hperm.mem_iff]
    constructor
    · intro hid
      obtain ⟨e, he, rfl⟩ := List.mem_map.1 hid
      exact ⟨List.mem_map_of_mem (List.mem_of_mem_filter he), (List.mem_filter.1 he).2⟩
    · rintro ⟨hid, hrej⟩
      obtain ⟨e, he, rfl⟩ := List.mem_map.1 hid
      exact List.mem_map_of_mem (List.mem_filter.2 ⟨he, hrej⟩)

/-- The reply to a batch with distinct ids keeps the contract. -/
theorem contract_reply (hids : (entries.map (·.id)).Nodup) :
    p.Contract entries a (p.reply entries a) := by
  have h := p.replied entries a
  generalize p.reply entries a = r at h ⊢
  cases h with
  | failed h he hv =>
    rw [he]
    exact contract_of_fails (fails_of_failure h hv)
  | retried h hp hv => exact contract_of_handsBack (handsBack_all h hp hv)
  | handedBack h ha => subst ha; exact contract_of_handsBack (handsBack_rejected h)
  | rejected h ha hp hr => subst ha; exact contract_of_rejects (rejects_each hids h hp hr)

end Policy

namespace Dispatch.Submission

/-! ## Submissions on their own -/

/-- The next step of a submission and the gate while no other call takes one,
    with the client's answer in case it is asked. -/
def next (p : Policy) (a : Answer) : Gate × Submission → Option (Gate × Submission)
  | (g, s) => (s.advance p g).or ((s.answered p a).map (g, ·))

/-- A submission and the gate after so many steps, or as it ended before. -/
def after (p : Policy) (a : Answer) : Nat → Gate × Submission → Gate × Submission
  | 0, x => x
  | n + 1, x =>
    match next p a x with
    | none => x
    | some y => after p a n y

variable {p : Policy} {a : Answer} {g : Gate} {entries : List Entry}

/-- The first step comes first. -/
theorem after_succ {n : Nat} {x y : Gate × Submission} (h : next p a x = some y) :
    after p a (n + 1) x = after p a n y := by
  rw [after, h]

/-- A submission that is leaving ends with its reply. -/
theorem after_leaving (n : Nat) (r : Option Reply) :
    ∃ g', after p a (n + 2) (g, .leaving r) = (g', .finished r) := by
  rw [after_succ (by rfl)]
  split
  · exact ⟨_, after_succ (by rfl) |>.trans (by cases n <;> rfl)⟩
  · exact ⟨_, rfl⟩

/-- On its own, a submission that has been let in ends with the reply to its
    batch. -/
theorem after_admitted : ∃ g', after p a 4 (g, .admitted entries) =
    (g', .finished (some (p.reply entries a))) := by
  cases h : p.refusal? entries with
  | some r =>
    rw [after_succ (y := (g, .leaving (some r))) (by simp [next, advance, h]),
      Policy.reply_of_refusal h]
    exact after_leaving 1 _
  | none =>
    rw [after_succ (y := (g, .outstanding entries)) (by simp [next, advance, h]),
      Policy.reply_of_refusal_eq_none h, after_succ (by rfl)]
    exact after_leaving 0 _

/-- On its own, a submission to a writer that is not closed ends with the reply
    to its batch. -/
theorem after_arriving (p : Policy) (a : Answer) (entries : List Entry) (hg : g.closed = false) :
    ∃ g', after p a 6 (g, .arriving entries) = (g', .finished (some (p.reply entries a))) := by
  have hnext : next p a ({ g with inFlight := g.inFlight + 1 }, .counted entries) =
      some ({ g with inFlight := g.inFlight + 1 }, .admitted entries) := by
    simp [next, advance, hg]
  rw [after_succ (by rfl), after_succ hnext]
  exact after_admitted

/-- A submission to a writer that is not closed ends after at most six steps,
    and its reply keeps the contract. -/
theorem contract_of_open (p : Policy) (a : Answer) (g : Gate) (entries : List Entry)
    (hg : g.closed = false) (hids : (entries.map (·.id)).Nodup) :
    ∃ g' r, after p a 6 (g, .arriving entries) = (g', .finished (some r)) ∧
      p.Contract entries a r := by
  obtain ⟨g', h⟩ := after_arriving p a entries hg
  exact ⟨g', _, h, Policy.contract_reply hids⟩

/-- Three entries, of which the last and the first are rejected, the last one
    twice, beside one that is not part of the batch. -/
theorem contract_of_open_three :
    let p : Policy := { failOnError := true }
    let entries : List Entry := [{ id := "a" }, { id := "b" }, { id := "c" }]
    let a : Answer := .ok ⟨[{ id := "c" }, { id := "x" }, { id := "a" }, { id := "c" }]⟩
    ({} : Gate).closed = false ∧ (entries.map (·.id)).Nodup ∧
      ∃ g' r, after p a 6 ({}, .arriving entries) = (g', .finished (some r)) ∧
        p.Contract entries a r :=
  ⟨rfl, by decide, contract_of_open _ _ {} _ rfl (by decide)⟩

end Dispatch.Submission

end Outbox
