import Outbox.Proofs.Course.Order
import Outbox.Proofs.Cut

/-!
# Every batch is within the limits

No batch is empty, none has more entries than are allowed, and none is larger
than is allowed, whatever is handed back and mixed with new entries
(`Course.within_limits_of_run`).

A batch of one entry is cut without a look at its size. It is within the limit
nevertheless: the settings of a buffer allow no record larger than a batch
(`WriterSettings.bounds_of_validate`), larger ones are not accepted, and no
entry gets into the buffer but by being accepted or handed back
(`Course.Change.held_sublist`).
-/

namespace Outbox

/-- Default settings are valid, whatever the number of attempts. -/
theorem RetrySettings.validate_default (n : UInt16) :
    ({ maxAttempts := n } : RetrySettings).validate = .ok () := by
  have hjitter : (0.0 : Float) ≤ 0.0 ∧ (0.0 : Float) ≤ 1.0 := by decide
  have hfactor : ¬(2.0 : Float) < 1.0 := by decide
  rw [validate, if_neg (not_not_intro hjitter), if_neg hfactor]
  rfl

namespace WriterSettings

variable {s : WriterSettings}

/-- A batch is within the limits. -/
structure Admits (s : WriterSettings) (batch : List Entry) : Prop where
  ne_nil : batch ≠ []
  length_le : batch.length ≤ s.maxBatchSize
  totalSize_le : totalSize batch ≤ s.maxBatchBytes

/-- Settings that are valid allow for a batch of any record. -/
theorem bounds_of_validate (h : s.validate = .ok ()) :
    s.maxBatchSize ≠ 0 ∧ s.maxRecordBytes ≤ s.maxBatchBytes := by
  unfold validate at h
  split at h
  · cases h
  · rename_i hcount
    split at h
    · cases h
    · split at h
      · cases h
      · exact ⟨hcount, by omega⟩

/-- What is cut off entries that are small enough is within the limits. -/
theorem admits_cut (h : s.validate = .ok ()) {q : Queue Entry} (hne : q.toList ≠ [])
    (hq : ∀ e ∈ q.toList, e.size ≤ s.maxRecordBytes) :
    s.Admits (cut s.maxBatchSize s.maxBatchBytes q).1 := by
  obtain ⟨hcount, hbytes⟩ := bounds_of_validate h
  exact ⟨cut_ne_nil hcount hne, length_cut_le _ _ q,
    totalSize_cut_le fun e he => Nat.le_trans (hq e he) hbytes⟩

end WriterSettings

/-- A buffer is created with valid settings. -/
theorem Buffer.validate_of_create {settings : WriterSettings} {failOnError : Bool} {b : Buffer}
    (h : create settings failOnError = .ok b) : settings.validate = .ok () := by
  unfold create at h
  split at h
  · cases h
  · assumption

namespace Course

variable {p : Policy} {t t' : Tally} {c c' : Course} {e : Event} {s : WriterSettings}

/-- The settings stay as they are. -/
theorem Change.settings_eq (h : Change p t c e t' c') :
    c'.buffer.settings = c.buffer.settings := by
  cases h with
  | accepted _ _ _ hb => rw [hb]
  | _ => rfl

/-- What is sent was out. -/
theorem Change.mem_sent (h : Change p t c e t' c') {b : List Entry} (hb : b ∈ c'.ledger.sent) :
    b ∈ c.ledger.sent ∨ ∃ backoff, c.flush = .submitting b backoff := by
  have settled {batch : List Entry} {backoff : Backoff} (hf : c.flush = .submitting batch backoff)
      (hb : b ∈ if (p.refusal? batch).isNone then batch :: c.ledger.sent else c.ledger.sent) :
      b ∈ c.ledger.sent ∨ ∃ backoff, c.flush = .submitting b backoff := by
    split at hb
    · rcases List.mem_cons.1 hb with rfl | hb
      · exact .inr ⟨backoff, hf⟩
      · exact .inl hb
    · exact .inl hb
  cases h with
  | ended hf | completed hf | paused hf | exhausted hf => exact settled hf hb
  | turnedAway | accepted | called | calledLast | stopped | cut | refused | woken =>
    exact .inl hb

/-- A course within the limits of some settings. -/
structure Limited (s : WriterSettings) (c : Course) : Prop where
  settings : c.buffer.settings = s
  /-- No entry is too large for a batch of its own. -/
  small : ∀ e ∈ c.held, e.size ≤ s.maxRecordBytes
  /-- The batch that is out was submitted. -/
  latest : ∀ batch backoff, c.flush = .submitting batch backoff → batch ∈ c.ledger.submitted
  /-- All batches submitted are within the limits. -/
  submitted : ∀ batch ∈ c.ledger.submitted, s.Admits batch
  /-- All batches sent were submitted. -/
  sent : ∀ batch ∈ c.ledger.sent, batch ∈ c.ledger.submitted

/-- No entry that is too large gets in. -/
theorem Limited.small_of_change (hc : Limited s c) (h : Change p t c e t' c') :
    ∀ d ∈ c'.held, d.size ≤ s.maxRecordBytes := by
  obtain ⟨new, -, hs, hnew⟩ := h.held_sublist
  intro d hd
  rcases List.mem_append.1 (hs.subset hd) with hd | hd
  · exact hc.small d hd
  · rw [← hc.settings]
    exact hnew d hd

/-- The limits are kept by every change. -/
theorem Limited.of_change (hv : s.validate = .ok ()) (hc : Limited s c)
    (h : Change p t c e t' c') : Limited s c' := by
  refine ⟨h.settings_eq.trans hc.settings, hc.small_of_change h, ?_, ?_, ?_⟩
  · intro batch backoff hf
    exact List.mem_of_mem_head? (h.latest hf)
  · obtain ⟨hsub, -⟩ | ⟨batch, _, -, -, hsub, hne, hcut⟩ := h.submit_cases <;> rw [hsub]
    · exact hc.submitted
    · intro b hb
      rcases List.mem_cons.1 hb with rfl | hb
      · rw [hc.settings] at hcut
        have hadmits := WriterSettings.admits_cut hv hne fun e he =>
          hc.small e (c.pending_sublist_held.subset he)
        rwa [hcut] at hadmits
      · exact hc.submitted b hb
  · -- What is sent was out before, hence submitted.
    intro b hb
    have hsub : b ∈ c.ledger.submitted := by
      rcases h.mem_sent hb with hb | ⟨backoff, hf⟩
      · exact hc.sent b hb
      · exact hc.latest b backoff hf
    obtain ⟨heq, -⟩ | ⟨_, _, -, -, heq, -⟩ := h.submit_cases <;> rw [heq]
    · exact hsub
    · exact .tail _ hsub

/-- An empty buffer is within all limits. -/
theorem limited_of_empty {b : Buffer} (hs : b.settings = s) (hp : b.pending.toList = []) :
    Course.Limited s { buffer := b } where
  settings := hs
  small := by simp [held, Flush.batch, hp]
  latest := nofun
  submitted := nofun
  sent := nofun

/-- Whatever happens to a buffer, every batch it submits is within the limits of
    its settings, and so is every batch that is sent. -/
theorem within_limits_of_run {failOnError : Bool} {b : Buffer} {es : List Event}
    (hb : Buffer.create s failOnError = .ok b)
    (h : run p es (t, { buffer := b }) = some (t', c)) :
    (∀ batch ∈ c.ledger.submitted, s.Admits batch) ∧ ∀ batch ∈ c.ledger.sent, s.Admits batch := by
  have hv : s.validate = .ok () := Buffer.validate_of_create hb
  obtain rfl : b = { settings := s } := Buffer.eq_of_create hb
  obtain ⟨-, hc⟩ := change_induction (motive := fun _ _ c => Limited s c) (fun _ => rfl)
    (limited_of_empty (b := { settings := s }) rfl rfl) (fun _ hc hch => hc.of_change hv hch) h
  exact ⟨hc.submitted, fun batch hm => hc.submitted batch (hc.sent batch hm)⟩

/-- Of three entries, the last two do not fit beside the first. One of them is
    handed back and goes out with a new one, which takes the largest size. -/
theorem within_limits_of_run_four :
    let s : WriterSettings := { maxBatchSize := 2, maxBatchBytes := 3, maxRecordBytes := 3 }
    let es : List Event :=
      [.write { id := "a", payload := ⟨#[1, 2]⟩ }, .write { id := "b", payload := ⟨#[3, 4]⟩ },
        .write { id := "c", payload := ⟨#[5]⟩ }, .flush, .look false, .answer (.ok {}) 0.5,
        .look false, .answer (.ok ⟨[{ id := "c" }]⟩) 0.5, .wake, .look true,
        .write { id := "d", payload := ⟨#[6, 7]⟩ }, .flush, .look false]
    ∃ b t c, Buffer.create s false = .ok b ∧ run {} es ({}, { buffer := b }) = some (t, c) ∧
      c.ledger.submitted.map (·.map (·.id)) = [["c", "d"], ["b", "c"], ["a"]] ∧
      (∀ batch ∈ c.ledger.submitted, s.Admits batch) ∧
      ∀ batch ∈ c.ledger.sent, s.Admits batch := by
  intro s es
  have hb : Buffer.create s false = .ok { settings := s } := by
    simp [Buffer.create, WriterSettings.validate, RetrySettings.validate_default, s]
  have hrun : (run {} es ({}, { buffer := { settings := s } })).map
      (·.2.ledger.submitted.map (·.map (·.id))) = some [["c", "d"], ["b", "c"], ["a"]] := by
    decide +kernel
  obtain ⟨⟨t, c⟩, h, hc⟩ := Option.map_eq_some_iff.1 hrun
  exact ⟨_, t, c, hb, h, hc, within_limits_of_run hb h⟩

end Course

end Outbox
