import Outbox.Proofs.Json.Documents
import Outbox.Proofs.Json.Doubles
import Outbox.Proofs.Json.Schema
import Outbox.Sqs.Settings

/-!
# Partial settings

Settings are read from a document that gives some of them, and the others have their default
values. This holds at each level, as the settings of a writer hold those of its retries, and
those of a queue hold those of its writer (`RetrySettings.Describes`,
`WriterSettings.Describes`, `Sqs.Settings.Describes`).

Which documents are taken is said by a schema, and so is which of them come to the same
(see `Outbox.Proofs.Json.Schema`). The main statement, `reads_settings`, is about texts: what
is read of a text is what the document it is written for describes.
-/

namespace Outbox

open Json Json.Field Json.Document

variable {σ : Type} {d : Document}

/-- A count that is given or left out is within the limit, if the default is. -/
theorem Json.Field.Given.le {values : List Document} {limit default n : Nat}
    (h : Given values (DenotesCount limit) default n) (hdefault : default ≤ limit) :
    n ≤ limit := by
  rcases h with - | ⟨-, ⟨hle⟩⟩
  · exact hdefault
  · exact hle

/-! ## Retries -/

namespace RetrySettings

/-- The names and kinds of the fields. -/
def entries : List (String × Schema) := [
  ("max_retry_attempts", .count 65535),
  ("initial_retry_interval_in_ms", .count 4294967295),
  ("max_retry_interval_in_ms", .count 4294967295),
  ("retry_factor", .double),
  ("retry_jitter", .double)]

/-- The names of the fields. -/
abbrev names : List String := Schema.names entries

/-- The settings are those of the document, apart from the fields that it leaves out. -/
structure Describes (d : Document) (s : RetrySettings) : Prop where
  form : d.HasForm names
  maxAttempts : Given (d.given names "max_retry_attempts") (DenotesCount 65535) 65535
    s.maxAttempts.toNat
  initialInterval : Given (d.given names "initial_retry_interval_in_ms")
    (DenotesCount 4294967295) 100 s.initialInterval.toNat
  maxInterval : Given (d.given names "max_retry_interval_in_ms") (DenotesCount 4294967295) 30000
    s.maxInterval.toNat
  factor : Given (d.given names "retry_factor") DenotesDouble 2.0 s.factor
  jitter : Given (d.given names "retry_jitter") DenotesDouble 0.0 s.jitter

/-- The fields are of the kinds that the entries say. -/
theorem matches_fields : Schema.Matches entries fields :=
  .cons ((Schema.governs_count _).describes _ _) <|
  .cons ((Schema.governs_count _).describes _ _) <|
  .cons ((Schema.governs_count _).describes _ _) <|
  .cons (Schema.governs_double.describes _ _) <|
  .cons (Schema.governs_double.describes _ _) .nil

/-- No two fields have one name, or set the same setting. -/
theorem distinct_fields : Distinct fields where
  nodup := by decide
  commutes := by simp [RetrySettings.fields, commutes_of]

/-- The schema governs the reader. -/
theorem governs_ofDocument? : (Schema.record entries).Governs ofDocument? :=
  Schema.governs_record matches_fields distinct_fields {}

/-- A document is read as the settings that it describes. -/
theorem ofDocument?_eq_some_iff {s : RetrySettings} :
    ofDocument? d = some s ↔ Describes d s := by
  have count (limit : Nat) (d : Document) (n : Nat) :
      d.upTo? limit = some n ↔ d.DenotesCount limit n := upTo?_eq_some_iff
  have double (d : Document) (x : Float) : d.float? = some x ↔ d.DenotesDouble x :=
    float?_eq_some_iff
  rw [ofDocument?, read_eq_some_iff distinct_fields, Schema.names_eq matches_fields]
  constructor
  · -- the fields are filled one by one, and what one sets the others leave
    rintro ⟨hform, h⟩
    obtain ⟨n, s₁, h₁, hs₁, h⟩ :=
      (fill_of_eq_some_iff (count _) (·.maxAttempts.toNat) fun s => by simp).1 h
    obtain ⟨m, s₂, h₂, hs₂, h⟩ :=
      (fill_of_eq_some_iff (count _) (·.initialInterval.toNat) fun s => by simp).1 h
    obtain ⟨l, s₃, h₃, hs₃, h⟩ :=
      (fill_of_eq_some_iff (count _) (·.maxInterval.toNat) fun s => by simp).1 h
    obtain ⟨x, s₄, h₄, hs₄, h⟩ := (fill_of_eq_some_iff double factor fun _ => rfl).1 h
    obtain ⟨y, s₅, h₅, hs₅, h⟩ := (fill_of_eq_some_iff double jitter fun _ => rfl).1 h
    obtain rfl := Option.some.inj h
    simp only [← hs₄, ← hs₃, ← hs₂, ← hs₁] at h₂ h₃ h₄ h₅
    -- numbers within the limits are not cut off by the words that hold them
    have hn := UInt16.toNat_ofNat_of_lt' (Nat.lt_succ_of_le (h₁.le (by decide)))
    have hm := UInt32.toNat_ofNat_of_lt' (Nat.lt_succ_of_le (h₂.le (by decide)))
    have hl := UInt32.toNat_ofNat_of_lt' (Nat.lt_succ_of_le (h₃.le (by decide)))
    refine ⟨hform, ?_, ?_, ?_, ?_, ?_⟩ <;>
      simp only [← hs₅, ← hs₄, ← hs₃, ← hs₂, ← hs₁, hn, hm, hl] <;> assumption
  · rintro ⟨hform, h₁, h₂, h₃, h₄, h₅⟩
    refine ⟨hform, ?_⟩
    refine (fill_of_eq_some_iff (count _) (·.maxAttempts.toNat) fun s => by simp).2
      ⟨_, _, h₁, rfl, ?_⟩
    refine (fill_of_eq_some_iff (count _) (·.initialInterval.toNat) fun s => by simp).2
      ⟨_, _, h₂, rfl, ?_⟩
    refine (fill_of_eq_some_iff (count _) (·.maxInterval.toNat) fun s => by simp).2
      ⟨_, _, h₃, rfl, ?_⟩
    refine (fill_of_eq_some_iff double factor fun _ => rfl).2 ⟨_, _, h₄, rfl, ?_⟩
    refine (fill_of_eq_some_iff double jitter fun _ => rfl).2 ⟨_, _, h₅, rfl, ?_⟩
    simp [fill, each]

end RetrySettings

/-! ## Writers -/

namespace WriterSettings

/-- The names and kinds of the fields. -/
def entries : List (String × Schema) := [
  ("fail_on_error", .truth),
  ("max_batch_size", .count 18446744073709551615),
  ("max_buffered_requests", .count 18446744073709551615),
  ("max_batch_size_in_bytes", .count 18446744073709551615),
  ("max_record_size_in_bytes", .count 18446744073709551615),
  ("retry", .record RetrySettings.entries)]

/-- The names of the fields. -/
abbrev names : List String := Schema.names entries

/-- The settings are those of the document, apart from the fields that it leaves out. -/
structure Describes (d : Document) (s : WriterSettings) : Prop where
  form : d.HasForm names
  failOnError : Given (d.given names "fail_on_error") DenotesTruth false s.failOnError
  maxBatchSize : Given (d.given names "max_batch_size") (DenotesCount 18446744073709551615) 10
    s.maxBatchSize
  maxBufferedRequests : Given (d.given names "max_buffered_requests")
    (DenotesCount 18446744073709551615) 5000 s.maxBufferedRequests
  maxBatchBytes : Given (d.given names "max_batch_size_in_bytes")
    (DenotesCount 18446744073709551615) 262144 s.maxBatchBytes
  maxRecordBytes : Given (d.given names "max_record_size_in_bytes")
    (DenotesCount 18446744073709551615) 262144 s.maxRecordBytes
  retry : Given (d.given names "retry") RetrySettings.Describes {} s.retry

/-- The fields are of the kinds that the entries say. -/
theorem matches_fields : Schema.Matches entries fields :=
  .cons (Schema.governs_truth.describes _ _) <|
  .cons ((Schema.governs_count _).describes _ _) <|
  .cons ((Schema.governs_count _).describes _ _) <|
  .cons ((Schema.governs_count _).describes _ _) <|
  .cons ((Schema.governs_count _).describes _ _) <|
  .cons (RetrySettings.governs_ofDocument?.describes _ _) .nil

/-- No two fields have one name, or set the same setting. -/
theorem distinct_fields : Distinct fields where
  nodup := by decide
  commutes := by simp [WriterSettings.fields, commutes_of]

/-- The schema governs the reader. -/
theorem governs_ofDocument? : (Schema.record entries).Governs ofDocument? :=
  Schema.governs_record matches_fields distinct_fields {}

/-- A document is read as the settings that it describes. -/
theorem ofDocument?_eq_some_iff {s : WriterSettings} :
    ofDocument? d = some s ↔ Describes d s := by
  have truth (d : Document) (b : Bool) : d.bool? = some b ↔ d.DenotesTruth b := bool?_eq_some_iff
  have count (limit : Nat) (d : Document) (n : Nat) :
      d.upTo? limit = some n ↔ d.DenotesCount limit n := upTo?_eq_some_iff
  have retries (d : Document) (s : RetrySettings) :
      RetrySettings.ofDocument? d = some s ↔ RetrySettings.Describes d s :=
    RetrySettings.ofDocument?_eq_some_iff
  rw [ofDocument?, read_eq_some_iff distinct_fields, Schema.names_eq matches_fields]
  constructor
  · rintro ⟨hform, h⟩
    obtain ⟨b, s₁, h₁, hs₁, h⟩ := (fill_of_eq_some_iff truth failOnError fun _ => rfl).1 h
    obtain ⟨n₂, s₂, h₂, hs₂, h⟩ :=
      (fill_of_eq_some_iff (count _) maxBatchSize fun _ => rfl).1 h
    obtain ⟨n₃, s₃, h₃, hs₃, h⟩ :=
      (fill_of_eq_some_iff (count _) maxBufferedRequests fun _ => rfl).1 h
    obtain ⟨n₄, s₄, h₄, hs₄, h⟩ :=
      (fill_of_eq_some_iff (count _) maxBatchBytes fun _ => rfl).1 h
    obtain ⟨n₅, s₅, h₅, hs₅, h⟩ :=
      (fill_of_eq_some_iff (count _) maxRecordBytes fun _ => rfl).1 h
    obtain ⟨r, s₆, h₆, hs₆, h⟩ := (fill_of_eq_some_iff retries retry fun _ => rfl).1 h
    obtain rfl := Option.some.inj h
    simp only [← hs₅, ← hs₄, ← hs₃, ← hs₂, ← hs₁] at h₂ h₃ h₄ h₅ h₆
    refine ⟨hform, ?_, ?_, ?_, ?_, ?_, ?_⟩ <;>
      simp only [← hs₆, ← hs₅, ← hs₄, ← hs₃, ← hs₂, ← hs₁] <;> assumption
  · rintro ⟨hform, h₁, h₂, h₃, h₄, h₅, h₆⟩
    refine ⟨hform, ?_⟩
    refine (fill_of_eq_some_iff truth failOnError fun _ => rfl).2 ⟨_, _, h₁, rfl, ?_⟩
    refine (fill_of_eq_some_iff (count _) maxBatchSize fun _ => rfl).2 ⟨_, _, h₂, rfl, ?_⟩
    refine (fill_of_eq_some_iff (count _) maxBufferedRequests fun _ => rfl).2
      ⟨_, _, h₃, rfl, ?_⟩
    refine (fill_of_eq_some_iff (count _) maxBatchBytes fun _ => rfl).2 ⟨_, _, h₄, rfl, ?_⟩
    refine (fill_of_eq_some_iff (count _) maxRecordBytes fun _ => rfl).2 ⟨_, _, h₅, rfl, ?_⟩
    exact (fill_of_eq_some_iff retries retry fun _ => rfl).2 ⟨_, _, h₆, rfl, rfl⟩

end WriterSettings

/-! ## Queues -/

namespace Sqs.Settings

/-- The names and kinds of the fields. -/
def entries : List (String × Schema) := [
  ("region", .text),
  ("queue_url", .optionalText),
  ("queue_name", .optionalText),
  ("queue_owner_aws_account_id", .optionalText),
  ("endpoint_url", .optionalText),
  ("writer", .record WriterSettings.entries)]

/-- The names of the fields. -/
abbrev names : List String := Schema.names entries

/-- The settings are those of the document, apart from the fields that it leaves out. -/
structure Describes (d : Document) (s : Settings) : Prop where
  form : d.HasForm names
  region : Given (d.given names "region") DenotesText "us-west-2" s.region
  queueUrl : Given (d.given names "queue_url") DenotesOptionalText none s.queueUrl
  queueName : Given (d.given names "queue_name") DenotesOptionalText none s.queueName
  queueOwner : Given (d.given names "queue_owner_aws_account_id") DenotesOptionalText none
    s.queueOwner
  endpointUrl : Given (d.given names "endpoint_url") DenotesOptionalText none s.endpointUrl
  writer : Given (d.given names "writer") WriterSettings.Describes {} s.writer

/-- The fields are of the kinds that the entries say. -/
theorem matches_fields : Schema.Matches entries fields :=
  .cons (Schema.governs_text.describes _ _) <|
  .cons (Schema.governs_optionalText.describes _ _) <|
  .cons (Schema.governs_optionalText.describes _ _) <|
  .cons (Schema.governs_optionalText.describes _ _) <|
  .cons (Schema.governs_optionalText.describes _ _) <|
  .cons (WriterSettings.governs_ofDocument?.describes _ _) .nil

/-- No two fields have one name, or set the same setting. -/
theorem distinct_fields : Distinct fields where
  nodup := by decide
  commutes := by simp [Settings.fields, commutes_of]

/-- The schema governs the reader. -/
theorem governs_ofDocument? : (Schema.record entries).Governs ofDocument? :=
  Schema.governs_record matches_fields distinct_fields {}

/-- A document is read as the settings that it describes. -/
theorem ofDocument?_eq_some_iff {s : Settings} : ofDocument? d = some s ↔ Describes d s := by
  have text (d : Document) (t : String) : d.text? = some t ↔ d.DenotesText t := text?_eq_some_iff
  have optional (d : Document) (t : Option String) :
      d.optionalText? = some t ↔ d.DenotesOptionalText t := optionalText?_eq_some_iff
  have writers (d : Document) (s : WriterSettings) :
      WriterSettings.ofDocument? d = some s ↔ WriterSettings.Describes d s :=
    WriterSettings.ofDocument?_eq_some_iff
  rw [ofDocument?, read_eq_some_iff distinct_fields, Schema.names_eq matches_fields]
  constructor
  · rintro ⟨hform, h⟩
    obtain ⟨t₁, s₁, h₁, hs₁, h⟩ := (fill_of_eq_some_iff text region fun _ => rfl).1 h
    obtain ⟨t₂, s₂, h₂, hs₂, h⟩ := (fill_of_eq_some_iff optional queueUrl fun _ => rfl).1 h
    obtain ⟨t₃, s₃, h₃, hs₃, h⟩ := (fill_of_eq_some_iff optional queueName fun _ => rfl).1 h
    obtain ⟨t₄, s₄, h₄, hs₄, h⟩ := (fill_of_eq_some_iff optional queueOwner fun _ => rfl).1 h
    obtain ⟨t₅, s₅, h₅, hs₅, h⟩ := (fill_of_eq_some_iff optional endpointUrl fun _ => rfl).1 h
    obtain ⟨w, s₆, h₆, hs₆, h⟩ := (fill_of_eq_some_iff writers writer fun _ => rfl).1 h
    obtain rfl := Option.some.inj h
    simp only [← hs₅, ← hs₄, ← hs₃, ← hs₂, ← hs₁] at h₂ h₃ h₄ h₅ h₆
    refine ⟨hform, ?_, ?_, ?_, ?_, ?_, ?_⟩ <;>
      simp only [← hs₆, ← hs₅, ← hs₄, ← hs₃, ← hs₂, ← hs₁] <;> assumption
  · rintro ⟨hform, h₁, h₂, h₃, h₄, h₅, h₆⟩
    refine ⟨hform, ?_⟩
    refine (fill_of_eq_some_iff text region fun _ => rfl).2 ⟨_, _, h₁, rfl, ?_⟩
    refine (fill_of_eq_some_iff optional queueUrl fun _ => rfl).2 ⟨_, _, h₂, rfl, ?_⟩
    refine (fill_of_eq_some_iff optional queueName fun _ => rfl).2 ⟨_, _, h₃, rfl, ?_⟩
    refine (fill_of_eq_some_iff optional queueOwner fun _ => rfl).2 ⟨_, _, h₄, rfl, ?_⟩
    refine (fill_of_eq_some_iff optional endpointUrl fun _ => rfl).2 ⟨_, _, h₅, rfl, ?_⟩
    exact (fill_of_eq_some_iff writers writer fun _ => rfl).2 ⟨_, _, h₆, rfl, rfl⟩

end Sqs.Settings

/-! ## Texts -/

/-- What is read of texts is what their documents describe. -/
structure Reads (entries : List (String × Schema)) (Describes : Document → σ → Prop)
    (read : String → Option σ) : Prop where
  /-- A text is read as what the document it is written for describes. -/
  eq_some_iff : ∀ text s, read text = some s ↔ ∃ d, d.Spells text ∧ Describes d s
  /-- A text is read if it is written for a document of the schema. -/
  isSome_iff : ∀ text, (read text).isSome ↔
    ∃ d, d.Spells text ∧ (Schema.record entries).Accepts d
  /-- A document is refused for a field that it gives twice, or with a value that is not of
      its kind. -/
  refused : ∀ (d : Document) text, d.Spells text → ∀ e ∈ entries,
    (2 ≤ (d.given (Schema.names entries) e.1).length ∨
      ∃ v ∈ d.given (Schema.names entries) e.1, ¬e.2.Accepts v) → read text = none
  /-- Blanks between the tokens make no difference. -/
  spaced : ∀ (d : Document) text text', d.Spaced text text' → read text = read text'
  /-- It makes no difference if members change places, if there are more of them, or if there
      is an array instead of an object. -/
  rearranged : ∀ (d d' : Document) text text', d.Spells text → d'.Spells text' →
    Relation.EqvGen (Schema.record entries).Rearranged d d' → read text = read text'

/-- A reader of documents that is governed, behind the parser, is a reader of texts. -/
theorem reads_of_governs {entries : List (String × Schema)} {Describes : Document → σ → Prop}
    {ofDocument? : Document → Option σ}
    (hdescribes : ∀ d s, ofDocument? d = some s ↔ Describes d s)
    (hgoverns : (Schema.record entries).Governs ofDocument?) :
    Reads entries Describes fun text => (parse? text).bind ofDocument? := by
  have hread {d : Document} {text : String} (h : d.Spells text) :
      (parse? text).bind ofDocument? = ofDocument? d := by
    rw [parse?_eq_some_iff.2 h, Option.bind_some]
  have hiff (text : String) (s : σ) : (parse? text).bind ofDocument? = some s ↔
      ∃ d, d.Spells text ∧ Describes d s := by
    simp only [Option.bind_eq_some_iff, parse?_eq_some_iff, hdescribes]
  have hsome (text : String) : ((parse? text).bind ofDocument?).isSome ↔
      ∃ d, d.Spells text ∧ (Schema.record entries).Accepts d := by
    simp only [← hgoverns.isSome_iff, ← parse?_eq_some_iff]
    cases parse? text <;> simp
  refine ⟨hiff, hsome, fun d text hd e he h => ?_, fun d text text' h => ?_,
    fun d d' text text' hd hd' h => ?_⟩
  · rw [hread hd, ← Option.not_isSome_iff_eq_none, hgoverns.isSome_iff]
    intro (.record _ hone haccepts)
    rcases h with h | ⟨v, hv, h⟩
    · exact absurd (hone e he) (by omega)
    · exact h (haccepts e he v hv)
  · rw [hread h.spells.1, hread h.spells.2]
  · rw [hread hd, hread hd']
    clear hd hd'
    -- the texts differ by some rearrangements, one after the other, in both directions
    induction h with
    | rel d d' h => exact hgoverns.eq_of_rearranged d d' h
    | refl => rfl
    | symm _ _ _ ih => exact ih.symm
    | trans _ _ _ _ _ ih ih' => exact ih.trans ih'

/-- A numeral is a double if it is not too large. The largest one is between the bounds. -/
theorem Json.Schema.accepts_double {n : Numeral} {cs : List Char} (h : n.Spelt cs)
    (hlen : cs.length ≤ 1000000000) :
    (n.size ≤ 10 ^ 308 → double.Accepts (.numeral n)) ∧
      (2 * 10 ^ 308 ≤ n.size → ¬double.Accepts (.numeral n)) := by
  obtain ⟨hread, hnone⟩ := Numeral.ranged h hlen
  constructor
  · intro hsize
    obtain ⟨x, hx⟩ := hread hsize
    exact .double (.mk hx)
  · rintro hsize (_ | _ | ⟨⟨hx⟩⟩)
    rw [hnone hsize] at hx
    cases hx

/-- Settings are read as their documents describe them, at each level. The doubles among their
    fields are numerals up to a bound, whatever they look like. -/
theorem reads_settings :
    (∀ (n : Numeral) (cs : List Char), n.Spelt cs → cs.length ≤ 1000000000 →
      (n.size ≤ 10 ^ 308 → Schema.double.Accepts (.numeral n)) ∧
        (2 * 10 ^ 308 ≤ n.size → ¬Schema.double.Accepts (.numeral n))) ∧
    (Reads RetrySettings.entries RetrySettings.Describes fun text =>
      (parse? text).bind RetrySettings.ofDocument?) ∧
    (Reads WriterSettings.entries WriterSettings.Describes fun text =>
      (parse? text).bind WriterSettings.ofDocument?) ∧
    (Reads Sqs.Settings.entries Sqs.Settings.Describes fun text =>
      (parse? text).bind Sqs.Settings.ofDocument?) :=
  ⟨fun _ _ => Schema.accepts_double,
    reads_of_governs (fun _ _ => RetrySettings.ofDocument?_eq_some_iff)
      RetrySettings.governs_ofDocument?,
    reads_of_governs (fun _ _ => WriterSettings.ofDocument?_eq_some_iff)
      WriterSettings.governs_ofDocument?,
    reads_of_governs (fun _ _ => Sqs.Settings.ofDocument?_eq_some_iff)
      Sqs.Settings.governs_ofDocument?⟩

/-- A member that is no field of the record must have a text for a name nevertheless. -/
theorem refuses_half_pair : ¬∀ (ms : List (Spelling × Document)) (text : String),
    (Document.object ms).Spells text →
    (∀ e ∈ RetrySettings.entries,
      ((Document.object ms).given RetrySettings.names e.1).length ≤ 1 ∧
        ∀ v ∈ (Document.object ms).given RetrySettings.names e.1, e.2.Accepts v) →
    ((parse? text).bind RetrySettings.ofDocument?).isSome := by
  intro h
  let half : Spelling := [.unit 0xD800]
  let one : Numeral := ⟨false, [1], none, none⟩
  have hspells : (Document.object [(half, .numeral one)]).Spells (String.ofList
      ['\x7b', '"', '\\', 'u', 'd', '8', '0', '0', '"', ':', '1', '\x7d']) := by
    have hhalf : half.Spelt ['\\', 'u', 'd', '8', '0', '0'] := .unit (by decide) .nil
    have hone : one.Spelt ['1'] := .positive (.mk (.digits (by decide)
      ⟨by decide, .cons (by decide) .nil⟩) .none .none)
    rw [Spells, String.toList_ofList]
    exact .token .leftBrace (.token (.string hhalf) (.token .colon (.token (.numeral hone)
      (.token .rightBrace .nil))))
  have hgiven (name : String) :
      (Document.object [(half, .numeral one)]).given RetrySettings.names name = [] := by
    simp [Document.given, valuesFor, show half.string? = none from rfl]
  -- the object gives no field at all, and yet nothing is read of it
  have hsome := h _ _ hspells fun e _ => by simp [hgiven]
  rw [parse?_eq_some_iff.2 hspells] at hsome
  exact absurd hsome Bool.false_ne_true

end Outbox
