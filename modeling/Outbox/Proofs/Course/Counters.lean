import Mathlib.Algebra.BigOperators.Group.List.Basic
import Mathlib.Algebra.GroupWithZero.Nat
import Outbox.Proofs.Course.Conservation

/-!
# The counters tell the truth

Any number of buffers may share a tally (`Fleet`), each with its own policy, and
their events come in any order. If the tally starts at zero, then its counters
agree with the ledgers of all buffers together, modulo 2 ^ 64
(`Fleet.truthful_of_run`):

* each counter is the number of entries, or of bytes, that the ledgers say
  (`Ledger.amount`), of which those lost are of the batches whose answers have
  ended the work of their buffers;
* entries delivered, lost and waiting are as many as were accepted, as long as
  no batch is out;
* the bytes delivered are never cut off at zero: what is taken off the size of a
  batch is a part of it.

A step adds the same to a counter and to the ledger of the buffer it is about
(`Course.Change.amount_eq`), provided that the entries of a batch have different
ids. Apart from the tally, each buffer goes its own way (`Fleet.run_own`).

No batch may be refused: this takes someone who closes the writer between the
look at it and the admission of the batch, where the buffers do not give way to
each other.
-/

namespace Outbox

/-! ## Amounts -/

/-- What a counter counts of the entries delivered, handed back and lost. -/
def Counter.gain (k : Counter) (delivered residual lost : List Entry) : Nat :=
  match k with
  | .recordsOut => delivered.length
  | .recordErrors | .sendErrors => lost.length
  | .bytesOut => totalSize delivered
  | .retries => residual.length

/-- What a counter should say by a ledger. -/
def Ledger.amount (l : Ledger) : Counter → Nat
  | .recordsOut => l.delivered.length
  | .recordErrors | .sendErrors => l.lost.length
  | .bytesOut => totalSize l.delivered
  | .retries => l.putBack

/-- A counter grows by what it gains from a batch. -/
theorem Tally.get_settle (t : Tally) (delivered residual lost : List Entry) (k : Counter) :
    (t.settle delivered residual lost).get k =
      t.get k + (k.gain delivered residual lost).toUInt64 := by
  cases k <;> simp [settle, Counter.gain]

/-- The amount of a ledger grows by the same. -/
theorem Ledger.amount_settle (l : Ledger) (p : Policy)
    (batch delivered residual lost : List Entry) (k : Counter) :
    (l.settle p batch delivered residual lost).amount k =
      l.amount k + k.gain delivered residual lost := by
  cases k <;> simp [settle, amount, Counter.gain]

/-- No two entries of the batch that is out have the same id. -/
def Flush.Distinct (f : Flush) : Prop := (f.batch.map (·.id)).Nodup

/-- A step adds the same to a counter and to the ledger. -/
theorem Course.Change.amount_eq {p : Policy} {t t' : Tally} {c c' : Course} {e : Event}
    (h : Change p t c e t' c') (hids : c.flush.Distinct) (k : Counter) :
    ∃ n, t'.get k = t.get k + n.toUInt64 ∧ c'.ledger.amount k = c.ledger.amount k + n := by
  cases h with
  | ended hf _ hs | completed hf hs | paused hf hs | exhausted hf hs =>
    rw [Flush.Distinct, hf, Flush.batch] at hids
    rw [hs.tally hids]
    exact ⟨_, t.get_settle .., c.ledger.amount_settle p c.flush.batch ..⟩
  | turnedAway | accepted | called | calledLast | stopped | cut | refused | woken =>
    exact ⟨0, by simp, by cases k <;> rfl⟩

/-! ## What is taken off -/

/-- The size that is taken off that of a batch which did not fail, for what is
    not delivered of it. -/
def Reply.takenOff (r : Reply) (o : Outcome) (batch : List Entry) : Nat :=
  ((r.handedBack.getD []).map (·.id) ++ o.rejected.map (·.id)).foldr
    ((Sizes.ofBatch batch).get · + ·) 0

/-- What is left is counted. -/
theorem Buffer.bytesOut_settle (b : Buffer) (t : Tally) {batch : List Entry} (backoff : Backoff)
    (draw : Float) {r : Reply} {o : Outcome} (h : r.result = .ok o) :
    (b.settle t batch backoff draw r).2.1.get .bytesOut =
      t.get .bytesOut + ((Sizes.ofBatch batch).total - r.takenOff o batch).toUInt64 := by
  simp only [settle, h]
  split
  · simp [reject, Sizes.without, Reply.takenOff]
  · split
    · simp [Sizes.without, Reply.takenOff]
    · unfold putBack
      split <;> simp [Sizes.without, Reply.takenOff]

/-- No more is taken off than there is. -/
theorem Policy.takenOff_reply_le {p : Policy} {batch : List Entry} {a : Answer} {o : Outcome}
    (hids : (batch.map (·.id)).Nodup) (h : (p.reply batch a).result = .ok o) :
    (p.reply batch a).takenOff o batch ≤ (Sizes.ofBatch batch).total := by
  have hreply := p.replied batch a
  cases hr : p.reply batch a
  rw [hr] at hreply h
  -- in a reply that is a success the entries taken off are a part of the batch
  cases hreply with
  | failed => cases h
  | retried =>
    cases h
    exact Sizes.takenOff_le_total hids (.refl ([] ++ batch)) (by simp)
  | @handedBack r =>
    cases h
    exact Sizes.takenOff_le_total hids (r.accepted_append_rejected_perm batch)
      (by simp)
  | @rejected r =>
    cases h
    exact Sizes.takenOff_le_total hids (r.accepted_append_rejected_perm batch)
      (perm_map_id_rejected hids)

/-! ## Fleets -/

/-- Buffers that share a tally, each with its policy. -/
structure Fleet where
  tally : Tally := {}
  members : List (Policy × Course)

namespace Fleet

/-- All buffers are new and all counters are zero. -/
def start (ms : List (Policy × WriterSettings)) : Fleet where
  members := ms.map fun (p, settings) => (p, { buffer := .ofSettings settings })

/-- Something happens to the buffer at an index. -/
def step (f : Fleet) (i : Nat) (e : Course.Event) : Option Fleet := do
  let (p, c) ← f.members[i]?
  let (tally, c) ← c.step p f.tally e
  some { tally, members := f.members.set i (p, c) }

/-- A fleet over some events, each with the index of its buffer. -/
def run : List (Nat × Course.Event) → Fleet → Option Fleet
  | [], f => some f
  | (i, e) :: es, f => (f.step i e).bind (run es)

/-- The events of the buffer at an index. -/
def own (i : Nat) (es : List (Nat × Course.Event)) : List Course.Event :=
  es.filterMap fun (j, e) => if j = i then some e else none

/-- The sum over all buffers. -/
def total (f : Fleet) (g : Course → Nat) : Nat := (f.members.map (g ·.2)).sum

variable {f f' : Fleet} {i : Nat} {e : Course.Event} {k : Counter}

/-- A step of a fleet is a step of one buffer. -/
theorem exists_of_step (h : f.step i e = some f') : ∃ p c t' c', f.members[i]? = some (p, c) ∧
    c.step p f.tally e = some (t', c') ∧ f' = ⟨t', f.members.set i (p, c')⟩ := by
  simp only [step, Option.bind_eq_bind, Option.bind_eq_some_iff, Prod.exists,
    Option.some.injEq] at h
  obtain ⟨p, c, hi, t', c', hs, rfl⟩ := h
  exact ⟨p, c, t', c', hi, hs, rfl⟩

/-- The events of a buffer are those with its number. -/
theorem own_cons (i j : Nat) (e : Course.Event) (es : List (Nat × Course.Event)) :
    own i ((j, e) :: es) = if j = i then e :: own i es else own i es := by
  by_cases hj : j = i <;> simp [own, hj]

/-- Without refusals there are none of a single buffer. -/
theorem refuse_notMem_own {es : List (Nat × Course.Event)} (hes : ∀ i, (i, .refuse) ∉ es)
    (i : Nat) : .refuse ∉ own i es := by
  intro h
  obtain ⟨⟨j, e⟩, hm, he⟩ := List.mem_filterMap.1 h
  simp only [Option.ite_none_right_eq_some, Option.some.injEq] at he
  obtain ⟨-, rfl⟩ := he
  exact hes j hm

/-- A buffer goes its own way, whatever happens to the others. -/
theorem run_own {es : List (Nat × Course.Event)} (h : run es f = some f') {p : Policy} {c : Course}
    (hi : f.members[i]? = some (p, c)) : ∃ c', f'.members[i]? = some (p, c') ∧
      ∀ t, ∃ t', Course.run p (own i es) (t, c) = some (t', c') := by
  induction es generalizing f c with
  | nil =>
    cases h
    exact ⟨c, hi, fun t => ⟨t, rfl⟩⟩
  | cons x es ih =>
    obtain ⟨j, e⟩ := x
    rw [run, Option.bind_eq_some_iff] at h
    obtain ⟨f₁, h₁, h₂⟩ := h
    obtain ⟨q, d, t₁, d₁, hj, hs, rfl⟩ := exists_of_step h₁
    by_cases hij : j = i
    · subst hij
      obtain ⟨rfl, rfl⟩ := Prod.mk.inj (Option.some.inj (hi.symm.trans hj))
      obtain ⟨c', hc', hrun⟩ :=
        ih h₂ (List.getElem?_set_self (List.getElem?_eq_some_iff.1 hi).1)
      refine ⟨c', hc', fun t => ?_⟩
      -- The tally may be another one by now, which makes no difference.
      obtain ⟨u, hu⟩ := Course.step_tally hs t
      obtain ⟨t', ht'⟩ := hrun u
      exact ⟨t', by rw [own_cons, if_pos rfl, Course.run, hu, Option.bind_some, ht']⟩
    · rw [own_cons, if_neg hij]
      exact ih h₂ ((List.getElem?_set_ne hij).trans hi)

/-- Totals add up. -/
theorem total_add (f : Fleet) (g h : Course → Nat) :
    f.total (fun c => g c + h c) = f.total g + f.total h :=
  List.sum_map_add

/-- Totals are equal if their parts are. -/
theorem total_congr {g h : Course → Nat} (hgh : ∀ m ∈ f.members, g m.2 = h m.2) :
    f.total g = f.total h :=
  congrArg List.sum (List.map_congr_left hgh)

/-- A total of nothing is zero. -/
theorem total_eq_zero {g : Course → Nat} (hg : ∀ m ∈ f.members, g m.2 = 0) : f.total g = 0 :=
  List.sum_eq_zero fun n hn => by
    obtain ⟨m, hm, rfl⟩ := List.mem_map.1 hn
    exact hg m hm

/-- A sum grows by what one of its parts grows. -/
theorem sum_map_set {α : Type} {l : List α} {i : Nat} {a b : α} {g : α → Nat} {n : Nat}
    (hi : l[i]? = some a) (hb : g b = g a + n) :
    ((l.set i b).map g).sum = (l.map g).sum + n := by
  induction l generalizing i with
  | nil => simp at hi
  | cons x l ih =>
    cases i with
    | zero =>
      obtain rfl : x = a := by simpa using hi
      simp only [List.set_cons_zero, List.map_cons, List.sum_cons, hb]
      omega
    | succ i =>
      have hsum := ih (i := i) (by simpa using hi)
      simp only [List.set_cons_succ, List.map_cons, List.sum_cons, hsum]
      omega

/-! ## The invariant -/

/-- No two entries of a batch ever submitted have the same id. -/
def Distinct (f : Fleet) : Prop :=
  ∀ m ∈ f.members, ∀ batch ∈ m.2.ledger.submitted, (batch.map (·.id)).Nodup

/-- The ledgers are in order, and the counters agree with them. -/
structure Sound (f : Fleet) : Prop where
  /-- Each ledger by itself. -/
  accounted : ∀ m ∈ f.members, Course.Accounted m.1 m.2
  /-- All ledgers together, as long as the entries of each batch are distinct. -/
  counts : f.Distinct → ∀ k, f.tally.get k = (f.total (·.ledger.amount k)).toUInt64

/-- At the start all counters and ledgers are empty. -/
theorem sound_start (ms : List (Policy × WriterSettings)) : (start ms).Sound where
  accounted m hm := by
    obtain ⟨⟨p, settings⟩, -, rfl⟩ := List.mem_map.1 hm
    exact Course.accounted_of_empty rfl rfl
  counts _ k := by
    have hzero : (start ms).total (·.ledger.amount k) = 0 := total_eq_zero fun m hm => by
      obtain ⟨⟨p, settings⟩, -, rfl⟩ := List.mem_map.1 hm
      cases k <;> rfl
    rw [hzero]
    cases k <;> rfl

/-- The batch that is out was submitted. -/
theorem Distinct.of_mem (hf : f.Sound) (hd : f.Distinct) {p : Policy} {c : Course}
    (hm : (p, c) ∈ f.members) : c.flush.Distinct := by
  cases hb : c.flush with
  | submitting batch backoff =>
    exact hd _ hm batch (List.mem_of_mem_head? ((hf.accounted _ hm).latest batch backoff hb))
  | looking | pausing | finished => exact List.nodup_nil

/-- What has been submitted before is still so. -/
theorem Distinct.of_set {p : Policy} {c c' : Course} {t : Tally}
    (hi : f.members[i]? = some (p, c))
    (hc : ∀ batch ∈ c.ledger.submitted, batch ∈ c'.ledger.submitted)
    (hd : Distinct ⟨t, f.members.set i (p, c')⟩) : f.Distinct := by
  intro m hm batch hb
  obtain ⟨j, hj⟩ := List.getElem?_of_mem hm
  by_cases hij : i = j
  · subst hij
    obtain rfl : (p, c) = m := Option.some.inj (hi.symm.trans hj)
    have hlt : i < f.members.length := (List.getElem?_eq_some_iff.1 hi).1
    exact hd _ (List.mem_set hlt (p, c')) batch (hc batch hb)
  · exact hd m (List.mem_of_getElem? (by rw [List.getElem?_set_ne hij, hj])) batch hb

/-- Counters and ledgers keep agreeing. -/
theorem Sound.step (hf : f.Sound) (he : e ≠ .refuse) (h : f.step i e = some f') : f'.Sound := by
  obtain ⟨p, c, t', c', hi, hs, rfl⟩ := exists_of_step h
  have hm : (p, c) ∈ f.members := List.mem_of_getElem? hi
  have hc : Course.Accounted p c := hf.accounted _ hm
  have hchange := Course.change_of_step hc.working hs
  refine ⟨fun m hm' => ?_, fun hd' k => ?_⟩
  · -- All buffers but one are as before.
    rcases List.mem_or_eq_of_mem_set hm' with hm' | rfl
    · exact hf.accounted m hm'
    · exact hc.of_change hchange he
  · have hd : f.Distinct := by
      refine hd'.of_set hi fun batch hb => ?_
      obtain hsub | ⟨_, hsub, -⟩ := hchange.submitted_cases
      · exact hsub ▸ hb
      · exact hsub ▸ .tail _ hb
    obtain ⟨n, ht, hl⟩ := hchange.amount_eq (hd.of_mem hf hm) k
    rw [ht, hf.counts hd k, total, total, sum_map_set hi hl]
    exact (UInt64.ofNat_add _ _).symm

/-- Counters and ledgers agree after every run. -/
theorem Sound.run {es : List (Nat × Course.Event)} (hf : f.Sound) (hes : ∀ i, (i, .refuse) ∉ es)
    (h : Fleet.run es f = some f') : f'.Sound := by
  induction es generalizing f with
  | nil =>
    cases h
    exact hf
  | cons x es ih =>
    obtain ⟨i, e⟩ := x
    rw [Fleet.run, Option.bind_eq_some_iff] at h
    obtain ⟨f₁, h₁, h₂⟩ := h
    have he : e ≠ .refuse := fun he => hes i (he ▸ .head es)
    exact ih (hf.step he h₁) (fun i hi => hes i (.tail _ hi)) h₂

/-! ## The truth -/

/-- The counters tell the truth, given how the buffers began and the events so
    far. -/
structure Truthful (ms : List (Policy × WriterSettings)) (es : List (Nat × Course.Event))
    (f : Fleet) : Prop where
  /-- Every counter is what the ledgers say. -/
  counts : ∀ k : Counter, (f.tally.get k).toNat = f.total (·.ledger.amount k) % 2 ^ 64
  /-- What is lost is of the batch whose answer has ended the work of its buffer. -/
  lost : ∀ i p settings, ms[i]? = some (p, settings) → ∃ c, f.members[i]? = some (p, c) ∧
    (c.buffer.aborted = none → c.ledger.lost = []) ∧
    (c.buffer.aborted.isSome = true → Course.Ended p ({}, { buffer := { settings } }) (own i es) c)
  /-- What is delivered, lost, waiting and out was accepted. -/
  balance : ((f.tally.get .recordsOut).toNat + (f.tally.get .recordErrors).toNat +
      f.total (·.buffer.pending.size) + f.total (·.flush.batch.length)) % 2 ^ 64 =
    f.total (·.ledger.accepted.length) % 2 ^ 64
  /-- What is delivered, lost and waiting was accepted, while no batch is out. -/
  between : (∀ m ∈ f.members, m.2.flush.batch = []) →
    ((f.tally.get .recordsOut).toNat + (f.tally.get .recordErrors).toNat +
      f.total (·.buffer.pending.size)) % 2 ^ 64 = f.total (·.ledger.accepted.length) % 2 ^ 64
  /-- Whatever the answer to a batch that is out, what is taken off its size is
      there, and the rest is counted. -/
  unsaturated : ∀ p c batch backoff, (p, c) ∈ f.members → c.flush = .submitting batch backoff →
    ∀ a draw o, (p.reply batch a).result = .ok o →
      (p.reply batch a).takenOff o batch ≤ (Sizes.ofBatch batch).total ∧
      (c.buffer.settle f.tally batch backoff draw (p.reply batch a)).2.1.get .bytesOut =
        f.tally.get .bytesOut +
          ((Sizes.ofBatch batch).total - (p.reply batch a).takenOff o batch).toUInt64

/-- What was accepted by all buffers is delivered, lost, waiting or out. -/
theorem Sound.total_accepted (hf : f.Sound) : f.total (·.ledger.accepted.length) =
    f.total (·.ledger.amount .recordsOut) + f.total (·.ledger.amount .recordErrors) +
      f.total (·.buffer.pending.size) + f.total (·.flush.batch.length) := by
  rw [← total_add, ← total_add, ← total_add]
  refine total_congr fun m hm => ?_
  rw [(hf.accounted m hm).balance.length_eq]
  simp only [Course.holdings, List.length_append, Queue.length_toList, Ledger.amount]
  omega

/-- Whatever happens to the buffers of a fleet, and in whatever order, the
    counters tell the truth, provided that no batch is refused and that the
    entries of each batch have different ids. -/
theorem truthful_of_run {ms : List (Policy × WriterSettings)} {es : List (Nat × Course.Event)}
    (h : run es (start ms) = some f) (hes : ∀ i, (i, .refuse) ∉ es) (hids : f.Distinct) :
    f.Truthful ms es := by
  have hf : f.Sound := (sound_start ms).run hes h
  have hcounts (k : Counter) : (f.tally.get k).toNat = f.total (·.ledger.amount k) % 2 ^ 64 := by
    rw [hf.counts hids k]
    exact UInt64.toNat_ofNat'
  have hbalance := hf.total_accepted
  refine ⟨hcounts, fun i p settings hi => ?_, ?_, fun hnone => ?_,
    fun p c batch backoff hm hb a draw o ho => ?_⟩
  · have hstart : (start ms).members[i]? = some (p, { buffer := { settings } }) := by
      simp [start, hi, Buffer.ofSettings]
    obtain ⟨c, hc, hrun⟩ := run_own h hstart
    obtain ⟨t, ht⟩ := hrun {}
    have hempty : Course.Accounted p { buffer := { settings } } :=
      Course.accounted_of_empty rfl rfl
    exact ⟨c, hc, (hf.accounted _ (List.mem_of_getElem? hc)).usable,
      hempty.ended_of_run rfl ht (refuse_notMem_own hes i)⟩
  · rw [hcounts, hcounts]
    omega
  · have hout : f.total (·.flush.batch.length) = 0 :=
      total_eq_zero fun m hm => by rw [hnone m hm, List.length_nil]
    rw [hcounts, hcounts]
    omega
  · have hd := hids.of_mem hf hm
    rw [Flush.Distinct, hb, Flush.batch] at hd
    exact ⟨Policy.takenOff_reply_le hd ho, c.buffer.bytesOut_settle f.tally backoff draw ho⟩

/-- Two buffers, of which one puts an entry back and the other loses one. -/
theorem truthful_of_run_two :
    let ms : List (Policy × WriterSettings) :=
      [({}, {}), ({ failOnError := true }, { failOnError := true })]
    let es : List (Nat × Course.Event) :=
      [(0, .write { id := "a", payload := ⟨#[1, 2]⟩ }), (0, .write { id := "b" }),
        (1, .write { id := "a", payload := ⟨#[3, 4, 5]⟩ }), (0, .flush), (0, .look false),
        (1, .write { id := "c", payload := ⟨#[6]⟩ }), (1, .flush), (1, .look false),
        (0, .answer (.ok ⟨[{ id := "b" }]⟩) 0.5),
        (1, .answer (.ok ⟨[{ id := "c" }, { id := "b" }, { id := "c" }]⟩) 0.5), (0, .wake),
        (0, .look true)]
    ∃ f, run es (start ms) = some f ∧ (∀ i, (i, .refuse) ∉ es) ∧ f.Distinct ∧
      f.tally = {
        recordsOut := 2
        recordErrors := 1
        sendErrors := 1
        bytesOut := 5
        retries := 1 } ∧ f.Truthful ms es := by
  intro ms es
  have hes : ∀ i, (i, .refuse) ∉ es := by simp [es]
  have hrun : (run es (start ms)).map (fun f =>
      (f.tally, f.members.map (·.2.ledger.submitted.map (·.map (·.id))))) =
        some (⟨2, 1, 1, 5, 1⟩, [[["a", "b"]], [["a", "c"]]]) := by
    decide +kernel
  obtain ⟨f, h, hf⟩ := Option.map_eq_some_iff.1 hrun
  obtain ⟨htally, hsubmitted⟩ := Prod.mk.inj hf
  have hids : f.Distinct := by
    intro m hm batch hb
    have hlist : ∀ batches ∈ [[["a", "b"]], [["a", "c"]]], ∀ ids ∈ batches, ids.Nodup := by decide
    exact hlist _ (hsubmitted ▸ List.mem_map_of_mem hm) _ (List.mem_map_of_mem hb)
  exact ⟨f, h, hes, hids, htally, truthful_of_run h hes hids⟩

end Fleet

end Outbox
