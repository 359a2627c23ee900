import Outbox.Course
import Outbox.Proofs.Dispatch.Reply

/-!
# The fate of a batch

The answer to a batch divides its entries into those delivered, those handed
back and those lost (`Policy.Fate`); none of them gets away
(`Policy.Fate.perm`). Some are lost only if the answer ends the work
(`Policy.Ends`).

A batch that has met its fate is recorded by the ledger (`Ledger.settle`) and
counted by the tally (`Tally.settle`). This is how a course keeps its ledger,
whether the work ends (`Course.record_ended`) or not (`Course.record_kept`).
-/

namespace Outbox

/-! ## The fate of a batch -/

/-- The answer to a batch ends the work: of its entries, some may be delivered,
    and the others are lost. -/
inductive Policy.Ends (p : Policy) (batch : List Entry) (a : Answer) :
    (delivered lost : List Entry) → Prop
  /-- The batch failed for good. -/
  | failed {f : Fault} : failure? batch a = some f →
      (p.failOnError = false → (p.rules.diagnose f).verdict = .fatal) → Ends p batch a [] batch
  /-- What the receipt rejects is lost. -/
  | rejected {r : Receipt} : failure? batch a = none → a = .ok r → p.failOnError = true →
      r.rejected batch ≠ [] → Ends p batch a (r.accepted batch) (r.rejected batch)

/-- What becomes of the entries of a batch by an answer: those delivered, those
    handed back and those lost. -/
inductive Policy.Fate (p : Policy) (batch : List Entry) (a : Answer) :
    (delivered residual lost : List Entry) → Prop
  | ended {delivered lost : List Entry} : p.Ends batch a delivered lost →
      Fate p batch a delivered [] lost
  /-- The batch failed, and all of it is handed back. -/
  | retried {f : Fault} : failure? batch a = some f → p.failOnError = false →
      Fate p batch a [] batch []
  /-- What the receipt rejects is handed back. -/
  | handedBack {r : Receipt} : failure? batch a = none → a = .ok r →
      (p.failOnError = true → r.rejected batch = []) →
      Fate p batch a (r.accepted batch) (r.rejected batch) []

variable {p : Policy} {batch delivered residual lost : List Entry} {a : Answer}

/-- When the work ends, each entry of the batch is delivered or lost. -/
theorem Policy.Ends.perm (h : p.Ends batch a delivered lost) :
    (delivered ++ lost).Perm batch := by
  cases h with
  | failed => exact .refl _
  | @rejected r => exact r.accepted_append_rejected_perm batch

/-- No entry gets away. -/
theorem Policy.Fate.perm (h : p.Fate batch a delivered residual lost) :
    (delivered ++ (residual ++ lost)).Perm batch := by
  cases h with
  | ended h => exact h.perm
  | retried => simp
  | @handedBack r => simpa using r.accepted_append_rejected_perm batch

/-- The ledger after a batch has met its fate. -/
def Ledger.settle (l : Ledger) (p : Policy) (batch delivered residual lost : List Entry) : Ledger :=
  { l with
    sent := if (p.refusal? batch).isNone then batch :: l.sent else l.sent
    delivered := l.delivered ++ delivered
    lost := l.lost ++ lost
    putBack := l.putBack + residual.length }

/-- The tally after a batch has met its fate. -/
def Tally.settle (t : Tally) (delivered residual lost : List Entry) : Tally :=
  ((((t.add .recordsOut delivered.length.toUInt64).add
    .bytesOut (totalSize delivered).toUInt64).add
    .recordErrors lost.length.toUInt64).add
    .sendErrors lost.length.toUInt64).add
    .retries residual.length.toUInt64

/-- To add nothing changes nothing. -/
@[simp] theorem Tally.add_zero (t : Tally) (c : Counter) : t.add c 0 = t := by
  cases c <;> simp [add]

/-- Entries that are lost are counted as failed. -/
theorem Tally.settle_lost (t : Tally) (lost : List Entry) : t.settle [] [] lost =
    (t.add .recordErrors lost.length.toUInt64).add .sendErrors lost.length.toUInt64 := by
  simp [settle, totalSize]

/-- Entries that are delivered or handed back are counted as such. -/
theorem Tally.settle_kept (t : Tally) (delivered residual : List Entry) :
    t.settle delivered residual [] =
      ((t.add .recordsOut delivered.length.toUInt64).add
        .bytesOut (totalSize delivered).toUInt64).add .retries residual.length.toUInt64 := by
  simp [settle]

/-- A batch has met its fate, and the tally went from `t` to `t'`. -/
structure Policy.Settled (p : Policy) (batch : List Entry) (a : Answer)
    (delivered residual lost : List Entry) (t t' : Tally) : Prop where
  /-- Each entry of the batch is delivered, handed back or lost. -/
  fate : p.Fate batch a delivered residual lost
  /-- The tally has counted them, provided that their ids are distinct. -/
  tally : (batch.map (·.id)).Nodup → t' = t.settle delivered residual lost

/-! ## Records -/

namespace Course

/-- A batch that got a receipt was not refused. -/
theorem refusal?_of_receipt {r : Receipt}
    (h : Policy.failure? batch (.ok r) = none) : (p.refusal? batch).isNone = true := by
  simp [Policy.refusal?, (Policy.failure?_eq_none_iff.1 h).1]

/-- A batch that failed as a whole was either not sent or answered by a fault. -/
theorem answer_of_failure {f : Fault} (h : Policy.failure? batch a = some f) :
    (p.refusal? batch).isNone = false ∨ a = .error f := by
  cases hi : Policy.invalidity? batch with
  | some g => exact .inl (by simp [Policy.refusal?, hi])
  | none =>
    cases a with
    | error g => simp_all [Policy.failure?]
    | ok r => simp [Policy.failure?, hi] at h

/-- What the ledger calls delivered is delivered by fate. -/
theorem delivered_of_fate (l : Ledger) (h : p.Fate batch a delivered residual lost) :
    (if (p.refusal? batch).isNone then l.delivered ++ deliveredBy batch a else l.delivered) =
      l.delivered ++ delivered := by
  -- A receipt may be there without having been asked for, if the batch was refused.
  rcases h with (⟨hf⟩ | ⟨hf, ha⟩) | ⟨hf⟩ | ⟨hf, ha⟩
  case ended.failed | retried =>
    obtain hs | rfl := answer_of_failure (p := p) hf
    · simp [hs]
    · simp [deliveredBy]
  case ended.rejected | handedBack =>
    subst ha
    exact if_pos (refusal?_of_receipt hf)

/-- What the ledger calls lost is lost as the work ends. -/
theorem lost_of_ends (h : p.Ends batch a delivered lost) :
    (if (p.refusal? batch).isNone then lostBy batch a else batch) = lost := by
  cases h with
  | failed hf =>
    obtain hs | rfl := answer_of_failure (p := p) hf
    · simp [hs]
    · simp [lostBy]
  | rejected hf ha =>
    subst ha
    exact if_pos (refusal?_of_receipt hf)

/-- The record of a batch that ends the work. -/
theorem record_ended {l : Ledger} {b : Buffer} {err : Error} {r : Except Error Unit}
    (ha : b.aborted = none) (hends : p.Ends batch a delivered lost) :
    record p l batch a b (b.abort err) (.finished r) = l.settle p batch delivered [] lost := by
  simp only [record, Ledger.settle, delivered_of_fate l (.ended hends), lost_of_ends hends,
    Buffer.abort, ha, Nat.sub_self]
  rfl

/-- The record of a batch after which the work goes on. -/
theorem record_kept {l : Ledger} {b : Buffer} {f : Flush}
    (hfate : p.Fate batch a delivered residual []) :
    record p l batch a b { b with pending := b.pending.prepend residual } f = {
      l.settle p batch delivered residual [] with
      pauses := match f with
        | .pausing _ _ => l.pauses + 1
        | _ => l.pauses } := by
  -- The buffer did not stop working, whether it still was or not.
  have hn : (b.aborted.isNone && b.aborted.isSome) = false := by cases b.aborted <;> rfl
  simp only [record, Ledger.settle, delivered_of_fate l hfate, hn, Queue.prepend,
    Nat.add_sub_cancel, List.append_nil]
  rfl

end Course

end Outbox
