import Outbox.Proofs.Dispatch.Contract

/-!
# Batches with an entry that cannot be sent

A batch with an entry that cannot be sent is not sent at all. It is treated like a
request that failed, and the fault names the first such entry
(`Policy.reply_of_find?`). Nothing of the batch is delivered, whatever the client would
have answered (`Policy.delivered_eq_zero`), and an error says which entry it was
(`Policy.cause?_of_find?`).

It is for the rules to say what comes of such a fault: it has no code, so that the first
rule on its category decides (`Rulebook.decisive?_invalidEntry`). The submission fails
for good exactly if errors are final or that rule says so
(`Dispatch.Submission.fails_iff_condemned`). The standard rules do, and so does whatever
is added to them (`Rulebook.condemns_standard_extend`). If there is no such rule, the
batch is handed back as a whole, though it can never be sent
(`Dispatch.Submission.not_fails_of_no_rules`).
-/

namespace Outbox

/-! ## Rules -/

namespace Rulebook

variable (b : Rulebook)

/-- The first rule on entries that cannot be sent says that they are fatal. -/
def condemns : Bool :=
  (b.rules.find? (·.pattern = .ofCategory .invalidEntry)).any (·.verdict = .fatal)

/-- Of all patterns, only one applies to a fault with neither code nor another
    category. -/
theorem applies_invalidEntry (pat : Pattern) (id reason : String) :
    pat.applies (.invalidEntry id reason) = decide (pat = .ofCategory .invalidEntry) := by
  cases pat with
  | anyCode codes => simp [Pattern.applies, Fault.invalidEntry]
  | ofCategory c => cases c <;> rfl

/-- The rule that decides on such a fault is the first one on its category. -/
theorem decisive?_invalidEntry (id reason : String) :
    b.decisive? (.invalidEntry id reason) =
      b.rules.find? (·.pattern = .ofCategory .invalidEntry) :=
  congrArg (b.rules.find? ·) (funext fun r => applies_invalidEntry r.pattern id reason)

/-- Such a fault is fatal if the rules condemn it, and else retryable. -/
theorem verdict_invalidEntry (id reason : String) :
    (b.diagnose (.invalidEntry id reason)).verdict =
      if b.condemns then .fatal else .retryable := by
  rw [verdict_diagnose, decisive?_invalidEntry, condemns]
  cases b.rules.find? (·.pattern = .ofCategory .invalidEntry) with
  | none => rfl
  | some r => cases h : r.verdict <;> simp [h]

/-- Rules that are added behind do not acquit. -/
theorem condemns_extend {rs : List Rule} (h : b.condemns = true) :
    (b.extend rs).condemns = true := by
  rw [condemns, Option.any_eq_true] at h
  obtain ⟨r, hr, hv⟩ := h
  rw [condemns, extend, List.find?_append, hr]
  exact hv

/-- The standard rules condemn it, whatever is added to them. -/
theorem condemns_standard_extend (rs : List Rule) : (standard.extend rs).condemns = true :=
  standard.condemns_extend (by decide)

end Rulebook

/-! ## Replies -/

/-- The number of entries that a reply says are delivered. -/
def Reply.delivered (r : Reply) : Nat :=
  match r.result with
  | .ok o => o.delivered
  | .error _ => 0

/-- The fault of a batch, of which this is the first entry that cannot be sent. It has
    no code, and tells which entry it was, and why. -/
def Entry.fault (e : Entry) : Fault :=
  let reason := e.invalid.getD ""
  { category := .invalidEntry, message := s!"entry {e.id} could not be converted: {reason}" }

theorem Entry.fault_eq_invalidEntry (e : Entry) :
    e.fault = .invalidEntry e.id (e.invalid.getD "") := rfl

namespace Policy

variable {p : Policy} {batch : List Entry} {e : Entry} {a : Answer} {err : Error}

/-- The fault of a batch is that of its first entry that cannot be sent. -/
theorem failure?_of_find? (he : batch.find? (!·.isValid) = some e) (a : Answer) :
    failure? batch a = some e.fault := by
  simp [failure?, invalidity?, he, Entry.fault_eq_invalidEntry]

/-- The reply to such a batch is the one to the fault of that entry. -/
theorem reply_of_find? (he : batch.find? (!·.isValid) = some e) (a : Answer) :
    p.reply batch a = p.onFault batch e.fault :=
  reply_of_failure (failure?_of_find? he a)

/-- Nothing is delivered of a batch with an entry that cannot be sent. -/
theorem delivered_eq_zero (he : batch.find? (!·.isValid) = some e) :
    (p.reply batch a).delivered = 0 := by
  have h := p.replied batch a
  generalize p.reply batch a = r at h ⊢
  cases h with
  | failed | retried => rfl
  | handedBack hn | rejected hn => simp [failure?_of_find? he] at hn

/-- The error is about the first entry that cannot be sent. -/
theorem cause?_of_find? (he : batch.find? (!·.isValid) = some e)
    (herr : (p.reply batch a).result = .error err) : err.cause? = some e.fault := by
  have h := p.replied batch a
  generalize p.reply batch a = r at h herr
  cases h with
  | failed hf he' =>
    obtain rfl := Except.error.inj herr
    obtain rfl := Option.some.inj ((failure?_of_find? he a).symm.trans hf)
    rw [he']
    split <;> simp [Error.cause?, Rulebook.cause_diagnose]
  | retried | handedBack | rejected => cases herr

/-- The error gives the id of the entry, and the reason it was marked with. -/
theorem exists_cause?_of_find? (he : batch.find? (!·.isValid) = some e)
    (herr : (p.reply batch a).result = .error err) : ∃ reason, e.invalid = some reason ∧
      err.cause? = some {
        category := .invalidEntry
        message := s!"entry {e.id} could not be converted: {reason}" } := by
  have hinvalid := List.find?_some he
  cases hreason : e.invalid with
  | none => simp [Entry.isValid, hreason] at hinvalid
  | some reason =>
    refine ⟨reason, rfl, ?_⟩
    rw [cause?_of_find? he herr, Entry.fault, hreason, Option.getD_some]

/-- With errors final, or with rules that say so, the batch fails for good. -/
theorem fails_of_find? (he : batch.find? (!·.isValid) = some e) (a : Answer)
    (h : p.failOnError = true ∨ p.rules.condemns = true) :
    ∃ err, p.reply batch a = .failure err ∧ p.Fails batch a err ∧ err.cause? = some e.fault := by
  have hf := failure?_of_find? he a
  have hv : p.failOnError = false → (p.rules.diagnose e.fault).verdict = .fatal := by
    intro hp
    have hc : p.rules.condemns = true := h.resolve_left (by simp [hp])
    rw [Entry.fault_eq_invalidEntry, Rulebook.verdict_invalidEntry, hc, if_pos rfl]
  have hreply : p.reply batch a = .failure
      (if p.failOnError then .failFast (p.rules.diagnose e.fault)
        else .requestFailed (p.rules.diagnose e.fault)) := by
    rw [reply_of_find? he, onFault]
    cases hp : p.failOnError with
    | true => rfl
    | false => simp [hv hp]
  exact ⟨_, hreply, fails_of_failure hf hv, cause?_of_find? he (congrArg Reply.result hreply)⟩

/-- Otherwise all of the batch is handed back, also the entry that cannot be sent. -/
theorem reply_eq_handBack (he : batch.find? (!·.isValid) = some e) (a : Answer)
    (hp : p.failOnError = false) (hc : p.rules.condemns = false) :
    p.reply batch a = ⟨.ok { retried := batch.length }, some batch⟩ := by
  have hv : (p.rules.diagnose e.fault).verdict = .retryable := by
    rw [Entry.fault_eq_invalidEntry, Rulebook.verdict_invalidEntry, hc, if_neg Bool.false_ne_true]
  rw [reply_of_find? he, onFault]
  simp [hp, hv]

end Policy

namespace Dispatch.Submission

/-- The submission of a batch with an entry that cannot be sent, to a writer that is not
    closed, ends after at most six steps. It fails for good exactly if errors are final
    or the rules say so, and hands back all of the batch otherwise. -/
theorem fails_iff_condemned (p : Policy) (a : Answer) (g : Gate) {batch : List Entry} {e : Entry}
    (hg : g.closed = false) (he : batch.find? (!·.isValid) = some e) :
    ∃ g' r, after p a 6 (g, .arriving batch) = (g', .finished (some r)) ∧
      ((∃ err, r = .failure err ∧ p.Fails batch a err ∧ err.cause? = some e.fault) ↔
        p.failOnError = true ∨ p.rules.condemns = true) ∧
      (p.failOnError = false → p.rules.condemns = false →
        r = ⟨.ok { retried := batch.length }, some batch⟩) := by
  obtain ⟨g', h⟩ := after_arriving p a batch hg
  refine ⟨g', _, h, ⟨?_, Policy.fails_of_find? he a⟩, Policy.reply_eq_handBack he a⟩
  rintro ⟨err, hr, -⟩
  -- A batch that is handed back has not failed.
  by_contra hnot
  rw [not_or, Bool.not_eq_true, Bool.not_eq_true] at hnot
  rw [Policy.reply_eq_handBack he a hnot.1 hnot.2] at hr
  cases hr

/-- Of two rules on entries that cannot be sent the first one decides, and it is not the
    fatal one: a batch of which the second entry cannot be sent is handed back. -/
theorem fails_iff_condemned_three :
    let rule : Rule := ⟨"later", .ofCategory .invalidEntry, .retryable, "not yet"⟩
    let p : Policy := { rules := ⟨rule :: Rulebook.standard.rules⟩ }
    let e : Entry := .unconvertible "b" "not UTF-8"
    let batch : List Entry := [{ id := "a" }, e, .unconvertible "c" ""]
    let r : Reply := ⟨.ok { retried := 3 }, some batch⟩
    ({} : Gate).closed = false ∧ batch.find? (!·.isValid) = some e ∧ p.failOnError = false ∧
      p.rules.condemns = false ∧
      ∃ g', after p (.ok {}) 6 ({}, .arriving batch) = (g', .finished (some r)) := by
  intro rule p e batch r
  have he : batch.find? (!·.isValid) = some e := by decide
  have hc : p.rules.condemns = false := by decide
  obtain ⟨g', r', h, -, hback⟩ := fails_iff_condemned p (.ok {}) {} rfl he
  exact ⟨rfl, he, rfl, hc, g', by rw [h, hback rfl hc]; rfl⟩

/-- Without any rules, a batch with an entry that cannot be sent does not fail. -/
theorem not_fails_of_no_rules : ¬∀ (p : Policy) (a : Answer) (g : Gate) (batch : List Entry),
    g.closed = false → (∃ e ∈ batch, e.isValid = false) →
    ∃ g' err, after p a 6 (g, .arriving batch) = (g', .finished (some (.failure err))) ∧
      err.isRetryable = false ∧ err.kind = if p.failOnError then .failFast else .sink := by
  intro h
  let e : Entry := .unconvertible "bad" "not UTF-8"
  obtain ⟨g', err, h, -⟩ :=
    h { rules := {} } (.ok {}) {} [e] rfl ⟨e, List.mem_singleton_self _, rfl⟩
  obtain ⟨-, h⟩ := Prod.mk.inj h
  cases h

end Dispatch.Submission

end Outbox
