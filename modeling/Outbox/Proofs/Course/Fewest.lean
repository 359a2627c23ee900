import Outbox.Proofs.Course.FailFast
import Outbox.Proofs.Course.Residual

/-!
# As few requests as possible

A batch is cut off the front as long as it can be (`WriterSettings.Fills`). If
all requests succeed, then a flush sends what waits in the smallest number of
requests among all ways to cut it into batches within the limits
(`Buffer.cutsBest`).

* The batches of a flush stay ahead of those of any other way: the first ones
  leave no more behind than as many others do (`WriterSettings.Sweeps.ahead`).
  For a batch that begins no earlier than another one does not end earlier
  either, if it is as long as it can be (`WriterSettings.Fills.ahead`).
* A flush in which every request succeeds (`Course.Succeeds`) cuts off one batch
  after another, until nothing is left (`Course.Swept`).
-/

namespace Outbox

namespace WriterSettings

variable {s : WriterSettings} {es batch rest : List Entry} {batches other : List (List Entry)}

/-- A way to cut entries into consecutive batches within the limits. -/
structure Cuts (s : WriterSettings) (es : List Entry) (batches : List (List Entry)) : Prop where
  /-- The batches are the entries, one after the other. -/
  flatten : batches.flatten = es
  admits : ∀ batch ∈ batches, s.Admits batch

/-- No other way takes fewer batches. -/
structure CutsFewest (s : WriterSettings) (es : List Entry) (batches : List (List Entry)) :
    Prop where
  cuts : s.Cuts es batches
  least : ∀ other, s.Cuts es other → batches.length ≤ other.length

/-- A batch that is as long as it can be does not end before another one, unless it
    begins before it does. -/
theorem Fills.ahead {b later : List Entry} (h : s.Fills (batch ++ rest) batch)
    (hb : s.Admits b) (hs : batch ++ rest <:+ b ++ later) : rest <:+ later := by
  have hrest : rest <:+ b ++ later := (List.suffix_append batch rest).trans hs
  refine List.suffix_of_suffix_length_le hrest (List.suffix_append b later) ?_
  by_contra hlt
  -- Otherwise the part of `b` that the batch begins with would go on behind its end.
  obtain ⟨part, hpart⟩ : later <:+ batch ++ rest := by
    refine List.suffix_of_suffix_length_le (List.suffix_append b later) hs ?_
    rw [List.length_append]
    omega
  have hlength : batch.length < part.length := by
    have := congrArg List.length hpart
    simp only [List.length_append] at this
    omega
  have hsub : part.Sublist b :=
    (List.suffix_append_self_iff.1 (hpart ▸ hs : part ++ later <:+ b ++ later)).sublist
  have hadmits : s.Admits part :=
    hb.sublist hsub (List.ne_nil_of_length_pos (Nat.zero_lt_of_lt hlength))
  have hfront : part <+: batch := h.longest part ⟨later, hpart⟩ hadmits
  exact absurd hfront.length_le (Nat.not_le.2 hlength)

/-- Batches that are cut off one after another, each as long as it can be, leave a rest. -/
inductive Sweeps (s : WriterSettings) (es : List Entry) :
    List (List Entry) → List Entry → Prop
  | start : Sweeps s es [] es
  | cut {batches : List (List Entry)} {batch rest : List Entry} :
      Sweeps s es batches (batch ++ rest) → s.Fills (batch ++ rest) batch →
      Sweeps s es (batches ++ [batch]) rest

/-- The batches and the rest are the entries, in their order. -/
theorem Sweeps.flatten_append (h : s.Sweeps es batches rest) : batches.flatten ++ rest = es := by
  induction h with
  | start => rfl
  | cut _ _ ih => rw [← ih]; simp

/-- All batches are within the limits. -/
theorem Sweeps.admits (h : s.Sweeps es batches rest) : ∀ batch ∈ batches, s.Admits batch := by
  induction h with
  | start => nofun
  | cut _ hfills ih =>
    rw [List.forall_mem_append, List.forall_mem_singleton]
    exact ⟨ih, hfills.admits⟩

/-- There are no more entries behind so many batches than behind as many of any others. -/
theorem Sweeps.ahead (h : s.Sweeps es batches rest) (ho : s.Cuts es other) :
    batches.length ≤ other.length ∧ rest <:+ (other.drop batches.length).flatten := by
  induction h with
  | start => exact ⟨Nat.zero_le _, ho.flatten ▸ List.suffix_rfl⟩
  | @cut batches batch rest _ hfills ih =>
    obtain ⟨hle, hs⟩ := ih
    rw [List.length_append, List.length_singleton]
    -- There is something left to cut off, so the others are not at their end.
    have hlt : batches.length < other.length := by
      refine Nat.lt_of_le_of_ne hle fun heq => hfills.admits.ne_nil ?_
      rw [heq, List.drop_length, List.flatten_nil, List.suffix_nil, List.append_eq_nil_iff] at hs
      exact hs.1
    rw [List.drop_eq_getElem_cons hlt, List.flatten_cons] at hs
    exact ⟨hlt, hfills.ahead (ho.admits _ (List.getElem_mem hlt)) hs⟩

/-- Without a rest, no other way to cut takes fewer batches. -/
theorem Sweeps.cutsFewest (h : s.Sweeps es batches []) : s.CutsFewest es batches where
  cuts := ⟨by simpa using h.flatten_append, h.admits⟩
  least _ ho := (h.ahead ho).1

/-- Each batch takes at least one entry. -/
theorem Sweeps.length_add_le (h : s.Sweeps es batches rest) :
    batches.length + rest.length ≤ es.length := by
  induction h with
  | start => exact Nat.le_of_eq (Nat.zero_add _)
  | cut _ hfills ih =>
    have hpos := List.length_pos_iff.2 hfills.admits.ne_nil
    rw [List.length_append] at ih ⊢
    rw [List.length_singleton]
    omega

end WriterSettings

namespace Course

variable {p : Policy} {t t' : Tally} {c c' : Course} {e : Event} {es : List Event}
  {b : Buffer} {l : Ledger} {st : Tally × Course}

/-! ## Flushes in which every request succeeds -/

/-- The event is none that keeps a flush from sending all: no call begins, the writer is
    found open, and the batch that is out is accepted completely. -/
def Event.Succeeds (c : Course) : Event → Prop
  | .look closed => closed = false
  | .answer a _ => FullyAccepted c.flush.batch a
  | .wake => True
  | .write _ | .flush | .lastFlush | .refuse => False

instance : Decidable (e.Succeeds c) :=
  match e with
  | .look closed => inferInstanceAs (Decidable (closed = false))
  | .answer a _ => inferInstanceAs (Decidable (FullyAccepted c.flush.batch a))
  | .wake => isTrue trivial
  | .write _ | .flush | .lastFlush | .refuse => isFalse not_false

/-- So are all events of a run. -/
def Succeeds (p : Policy) : List Event → Tally × Course → Prop
  | [], _ => True
  | e :: es, (t, c) => e.Succeeds c ∧ (c.step p t e).elim True (Succeeds p es)

instance Succeeds.decidable (p : Policy) : ∀ es st, Decidable (Succeeds p es st)
  | [], _ => isTrue trivial
  | e :: es, (t, c) =>
    have : Decidable ((c.step p t e).elim True (Succeeds p es)) :=
      match c.step p t e with
      | none => isTrue trivial
      | some st => Succeeds.decidable p es st
    inferInstanceAs (Decidable (_ ∧ _))

/-- If all requests succeed, then those before the last event did, and so does that event. -/
theorem Succeeds.of_concat (h : Succeeds p (es ++ [e]) st) (hrun : run p es st = some (t, c)) :
    Succeeds p es st ∧ e.Succeeds c := by
  induction es generalizing st with
  | nil =>
    cases hrun
    exact ⟨trivial, h.1⟩
  | cons d es ih =>
    obtain ⟨t₁, c₁⟩ := st
    rw [run, Option.bind_eq_some_iff] at hrun
    obtain ⟨st₂, h₁, h₂⟩ := hrun
    rw [List.cons_append, Succeeds, h₁] at h
    obtain ⟨hes, he⟩ := ih h.2 h₂
    rw [Succeeds, h₁]
    exact ⟨⟨h.1, hes⟩, he⟩

/-- Where such a flush stands, by the batches it has sent, the first one first, and the
    number of events so far. -/
inductive Sweeping (s : WriterSettings) (waiting : List Entry) (batches : List (List Entry))
    (n : Nat) (pending : List Entry) : Flush → Prop
  /-- All batches that were cut off are sent. -/
  | looking {backoff : Backoff} : s.Sweeps waiting batches pending → n = 2 * batches.length →
      Sweeping s waiting batches n pending (.looking backoff)
  /-- One more was cut off, and is out. -/
  | submitting {batch : List Entry} {backoff : Backoff} :
      s.Sweeps waiting (batches ++ [batch]) pending → n = 2 * batches.length + 1 →
      Sweeping s waiting batches n pending (.submitting batch backoff)
  /-- Nothing was left to be cut off. -/
  | finished : s.Sweeps waiting batches pending → pending = [] → n = 2 * batches.length + 1 →
      Sweeping s waiting batches n pending (.finished (.ok ()))

/-- What such a flush of the buffer `b` has come to after `n` events. -/
structure Swept (b : Buffer) (l : Ledger) (n : Nat) (c : Course) : Prop where
  settings : c.buffer.settings = b.settings
  /-- The batches sent since are those that were cut off what waited. -/
  stands : ∃ batches, c.ledger.sent = batches.reverse ++ l.sent ∧
    Sweeping b.settings b.pending.toList batches n c.buffer.pending.toList c.flush

/-- A batch that is accepted completely was sent, and nothing of it is handed back. -/
theorem Change.of_fullyAccepted {a : Answer} {draw : Float} {batch : List Entry}
    {backoff : Backoff} (h : Change p t c (.answer a draw) t' c')
    (hf : c.flush = .submitting batch backoff) (ha : FullyAccepted batch a) :
    c'.buffer = c.buffer ∧ c'.flush = .looking backoff.reset ∧
      c'.ledger.sent = batch :: c.ledger.sent := by
  -- the reply hands back nothing, which leaves one of the four ways to settle
  have hback {b : List Entry} {backoff' : Backoff} {r : Option (List Entry)}
      (hf' : c.flush = .submitting b backoff') (hr : (p.reply b a).handedBack = r) :
      (b = batch ∧ backoff' = backoff) ∧ r = some [] := by
    obtain ⟨rfl, rfl⟩ := Flush.submitting.inj (hf'.symm.trans hf)
    exact ⟨⟨rfl, rfl⟩, by rw [← hr, Policy.reply_of_fullyAccepted ha]⟩
  cases h with
  | ended hf' _ _ _ _ hr => cases (hback hf' hr).2
  | completed hf' _ hr =>
    obtain ⟨⟨rfl, rfl⟩, -⟩ := hback hf' hr
    obtain ⟨hfail, r, rfl, -⟩ := Policy.fullyAccepted_iff.1 ha
    exact ⟨rfl, rfl, if_pos (refusal?_of_receipt hfail)⟩
  | paused hf' _ hne _ hr | exhausted hf' _ hne _ hr =>
    cases (hback hf' hr).2
    exact absurd rfl hne

/-- A flush in which all requests succeed goes on cutting, one event at a time. -/
theorem Swept.of_change {n : Nat} (hcount : b.settings.maxBatchSize ≠ 0)
    (hsize : ∀ e ∈ b.pending.toList, e.size ≤ b.settings.maxBatchBytes) (hs : Swept b l n c)
    (h : Change p t c e t' c') (he : e.Succeeds c) : Swept b l (n + 1) c' := by
  obtain ⟨batches, hsent, hstands⟩ := hs.stands
  cases e with
  | write | flush | lastFlush | refuse => cases he
  | look closed =>
    obtain rfl : closed = false := he
    cases h with
    | stopped hf hr =>
      rw [hf] at hstands
      -- the flush has stopped as nothing is left, since the gate is not shut
      obtain ⟨hnil, rfl⟩ | ⟨-, hc, -⟩ := hr
      · cases hstands with
        | looking hsweeps hn =>
          exact ⟨hs.settings, batches, hsent, .finished hsweeps hnil (by rw [hn])⟩
      · cases hc
    | @cut _ batch rest hf hne hcut =>
      rw [hf] at hstands
      cases hstands with
      | looking hsweeps hn =>
        -- a batch more is cut off, as long as it can be
        have happend := held_cut hcut
        have hfills : b.settings.Fills (batch ++ rest.toList) batch := by
          have hsub : ∀ e ∈ c.buffer.pending.toList, e.size ≤ b.settings.maxBatchBytes :=
            fun e he => hsize e (hsweeps.flatten_append ▸ List.mem_append_right _ he)
          have := WriterSettings.fills_cut_of_size_le hcount hne hsub
          rwa [← hs.settings, hcut, hs.settings, ← happend] at this
        exact ⟨hs.settings, batches, hsent,
          .submitting (.cut (happend ▸ hsweeps) hfills) (by rw [hn])⟩
  | answer a draw =>
    have hout : ∃ batch backoff, c.flush = .submitting batch backoff := by
      cases h with
      | ended hf | completed hf | paused hf | exhausted hf => exact ⟨_, _, hf⟩
    obtain ⟨batch, backoff, hf⟩ := hout
    rw [Event.Succeeds, hf] at he
    obtain ⟨hbuffer, hflush, hledger⟩ := h.of_fullyAccepted hf he
    rw [hf] at hstands
    cases hstands with
    | submitting hsweeps hn =>
      refine ⟨hbuffer ▸ hs.settings, batches ++ [batch], by simp [hledger, hsent], ?_⟩
      rw [hflush, hbuffer]
      exact .looking hsweeps (by rw [hn, List.length_append, List.length_singleton]; omega)
  | wake =>
    cases h with
    | woken hf =>
      rw [hf] at hstands
      cases hstands

/-- A flush of a buffer begins. -/
def flushing (b : Buffer) (l : Ledger) : Course := { buffer := b, flush := b.flush, ledger := l }

/-- What a flush in which all requests succeed has come to. -/
theorem swept_of_run (hcount : b.settings.maxBatchSize ≠ 0)
    (hsize : ∀ e ∈ b.pending.toList, e.size ≤ b.settings.maxBatchBytes) (ha : b.aborted = none)
    (hes : Succeeds p es (t, flushing b l)) (h : run p es (t, flushing b l) = some (t', c)) :
    Swept b l es.length c := by
  have start : Swept b l 0 (flushing b l) := by
    obtain ⟨-, hf⟩ | ⟨reason, hr, -⟩ := b.flush_cases
    · refine ⟨rfl, [], rfl, ?_⟩
      rw [flushing, hf]
      exact .looking .start rfl
    · rw [ha] at hr
      cases hr
  refine (change_induction (s := (t, flushing b l))
    (motive := fun es _ c => Succeeds p es (t, flushing b l) → Swept b l es.length c)
    (fun _ => ha) (fun _ => start) ?_ h).2 hes
  -- one event more, in which every request succeeds as well
  intro es e t₁ c₁ t₂ c₂ h₁ ih hch hes
  obtain ⟨hes, he⟩ := hes.of_concat h₁
  rw [List.length_append, List.length_singleton]
  exact (ih hes).of_change hcount hsize hch he

/-- What a flush of the buffer `b` has come to in which every request succeeds, after
    `n` events. -/
structure SendsFewest (p : Policy) (b : Buffer) (l : Ledger) (n : Nat) (t : Tally) (c : Course) :
    Prop where
  /-- It returns after few events, -/
  length_le : n ≤ 2 * b.pending.size + 1
  /-- as there is always a next one. -/
  goesOn : c.isIdle = false → ∀ a draw,
    ∃ e ∈ [.look false, .answer a draw], (c.step p t e).isSome = true
  /-- When it returns, it has sent all that was waiting, in as few requests as possible. -/
  finished : c.isIdle = true → c.flush = .finished (.ok ()) ∧ c.buffer.pending.toList = [] ∧
    ∃ requests, c.ledger.sent = requests.reverse ++ l.sent ∧
      b.settings.CutsFewest b.pending.toList requests

/-- Whatever it has come to, it can go on, and in the end has sent the fewest requests. -/
theorem Swept.sendsFewest {n : Nat} (h : Swept b l n c) (p : Policy) (t : Tally) :
    SendsFewest p b l n t c := by
  obtain ⟨batches, hsent, hstands⟩ := h.stands
  generalize hf : c.flush = f at hstands
  -- two events for each batch, and one for the last look
  cases hstands with
  | looking hsweeps hn =>
    have hle := hsweeps.length_add_le
    rw [Queue.length_toList, Queue.length_toList] at hle
    exact ⟨by omega, fun _ a draw => ⟨.look false, by simp, by simp [step, hf]⟩,
      fun hc => by simp [isIdle, hf] at hc⟩
  | submitting hsweeps hn =>
    have hle := hsweeps.length_add_le
    rw [Queue.length_toList, Queue.length_toList, List.length_append, List.length_singleton] at hle
    exact ⟨by omega, fun _ a draw => ⟨.answer a draw, by simp, by simp [step, hf]⟩,
      fun hc => by simp [isIdle, hf] at hc⟩
  | finished hsweeps hnil hn =>
    have hle := hsweeps.length_add_le
    rw [Queue.length_toList, Queue.length_toList] at hle
    refine ⟨by omega, fun hc => by simp [isIdle, hf] at hc, fun _ => ⟨hf, hnil, batches, hsent, ?_⟩⟩
    exact WriterSettings.Sweeps.cutsFewest (hnil ▸ hsweeps)

end Course

/-- What becomes of a buffer that is cut into batches. -/
structure Buffer.CutsBest (b : Buffer) : Prop where
  /-- Nothing is lost, and nothing changes its place. -/
  append : let (batch, rest) := cut b.settings.maxBatchSize b.settings.maxBatchBytes b.pending
    batch ++ rest.toList = b.pending.toList
  /-- The next batch is the longest front of the buffer within the limits, and takes at
      least one entry if there is any. -/
  fills : b.pending.toList ≠ [] → b.settings.Fills b.pending.toList
    (cut b.settings.maxBatchSize b.settings.maxBatchBytes b.pending).1
  /-- So a flush takes as few requests as possible, if every one of them succeeds. -/
  sendsFewest : ∀ (p : Policy) (t t' : Tally) (l : Ledger) (es : List Course.Event) (c : Course),
    b.aborted = none → Course.Succeeds p es (t, .flushing b l) →
    Course.run p es (t, .flushing b l) = some (t', c) → Course.SendsFewest p b l es.length t' c

/-- A buffer of entries none of which is too large for a batch is cut into as few batches
    as possible. -/
theorem Buffer.cutsBest (b : Buffer) (hcount : 1 ≤ b.settings.maxBatchSize)
    (hsize : ∀ e ∈ b.pending.toList, e.size ≤ b.settings.maxBatchBytes) : b.CutsBest where
  append := cut_append _ _ _
  fills hne := WriterSettings.fills_cut_of_size_le (Nat.ne_zero_of_lt hcount) hne hsize
  sendsFewest p _ t' _ _ _ ha hes h :=
    (Course.swept_of_run (Nat.ne_zero_of_lt hcount) hsize ha hes h).sendsFewest p t'

/-- Seven entries, of which the third makes the first batch as large as it may be and is
    followed by one without any content, which the limit on the number keeps out. The sixth
    is too large to go out with the fifth. -/
theorem Buffer.cutsBest_seven :
    let b : Buffer := {
      settings := { maxBatchSize := 3, maxBatchBytes := 4, maxRecordBytes := 4 }
      pending := (List.foldl .push {} [
        { id := "a", payload := ⟨#[1, 2]⟩ }, { id := "b" }, { id := "c", payload := ⟨#[3, 4]⟩ },
        { id := "d" }, { id := "e", payload := ⟨#[5]⟩ }, { id := "f", payload := ⟨#[6, 7, 8, 9]⟩ },
        { id := "g" }] : Queue Entry) }
    let es : List Course.Event :=
      [.look false, .answer (.ok {}) 0.5, .look false, .answer (.ok ⟨[{ id := "a" }]⟩) 0.5,
        .look false, .answer (.ok {}) 0.5, .look false]
    1 ≤ b.settings.maxBatchSize ∧ (∀ e ∈ b.pending.toList, e.size ≤ b.settings.maxBatchBytes) ∧
      b.CutsBest ∧ ∃ t c, Course.run {} es ({}, .flushing b {}) = some (t, c) ∧
        Course.Succeeds {} es ({}, .flushing b {}) ∧
        c.ledger.sent.map (·.map (·.id)) = [["f", "g"], ["d", "e"], ["a", "b", "c"]] ∧
        Course.SendsFewest {} b {} es.length t c := by
  intro b es
  have hcount : 1 ≤ b.settings.maxBatchSize := by decide
  have hsize : ∀ e ∈ b.pending.toList, e.size ≤ b.settings.maxBatchBytes := by decide
  have hbest := b.cutsBest hcount hsize
  have hrun : (Course.run {} es ({}, .flushing b {})).map
      (·.2.ledger.sent.map (·.map (·.id))) =
        some [["f", "g"], ["d", "e"], ["a", "b", "c"]] := by
    decide +kernel
  have hes : Course.Succeeds {} es ({}, .flushing b {}) := by decide +kernel
  obtain ⟨⟨t, c⟩, h, hc⟩ := Option.map_eq_some_iff.1 hrun
  exact ⟨hcount, hsize, hbest, t, c, h, hes, hc, hbest.sendsFewest {} {} t {} es c rfl hes h⟩

end Outbox
