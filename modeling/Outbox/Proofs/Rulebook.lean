import Outbox.Proofs.Sqs.Verdicts

/-!
# Rules that are added

A rulebook grows by rules behind those it has, one at a time
(`Rulebook.foldl_add`). What it says of a fault is then composed of what its
parts say (`Rulebook.composed_extend`): the rules it had before keep what they
decide, the others decide about the rest in their order, and a fault that is left
over is retryable. A rule decides only if no earlier one matches, be it by the code
or by the category of the fault (`Rulebook.Decides`).

What was decided stays so, whatever is added later. Hence nothing that is added to
the standard rules or to those of a queue makes them forgive what is grave, such as
a caller without permission (`Rulebook.Unforgiving`).
-/

namespace Outbox

/-- A pattern matches a fault by its code, of which there may be none, or by its
    category. -/
inductive Pattern.Matches (f : Fault) : Pattern → Prop
  | code {codes : List String} {code : String} : f.code = some code → code ∈ codes →
      Matches f (.anyCode codes)
  | category : Matches f (.ofCategory f.category)

variable {f : Fault} {r : Rule} {b : Rulebook} {rs : List Rule}

/-- A pattern applies to what it matches. -/
theorem Pattern.applies_iff {p : Pattern} : p.applies f = true ↔ p.Matches f := by
  constructor
  · intro h
    cases p with
    | anyCode codes =>
      obtain ⟨code, hcode, hmem⟩ := (Option.any_eq_true _ _).1 h
      exact .code hcode (List.contains_iff_mem.1 hmem)
    | ofCategory c =>
      obtain rfl : f.category = c := of_decide_eq_true h
      exact .category
  · rintro (⟨hcode, hmem⟩ | _)
    · exact (Option.any_eq_true _ _).2 ⟨_, hcode, List.contains_iff_mem.2 hmem⟩
    · exact decide_eq_true rfl

/-- What a rule says of a fault it decides about. -/
def Rule.opinion (r : Rule) (f : Fault) : Diagnosis where
  verdict := r.verdict
  message := match f.code with
    | none => r.message
    | some code => r.message ++ " (" ++ code ++ ")"
  cause := f

/-- What is said of a fault that no rule decides about. -/
def Fault.passed (f : Fault) : Diagnosis where
  verdict := .retryable
  message := "Encountered retryable exception: " ++ f.message
  cause := f

namespace Rulebook

/-- Some rule matches the fault. -/
def Covers (rs : List Rule) (f : Fault) : Prop := ∃ r ∈ rs, r.pattern.Matches f

/-- The rule matches the fault, and none before it does. -/
def Decides (rs : List Rule) (f : Fault) (r : Rule) : Prop :=
  ∃ before behind, rs = before ++ r :: behind ∧ r.pattern.Matches f ∧ ¬Covers before f

/-- The rule found is the one that decides. -/
theorem find?_eq_some_iff : rs.find? (·.pattern.applies f) = some r ↔ Decides rs f r := by
  simp only [List.find?_eq_some_iff_append, Decides, Covers, ← Pattern.applies_iff]
  constructor
  · rintro ⟨hr, before, behind, rfl, hbefore⟩
    refine ⟨before, behind, rfl, hr, fun ⟨x, hx, h⟩ => ?_⟩
    simpa [h] using hbefore x hx
  · rintro ⟨before, behind, rfl, hr, hbefore⟩
    refine ⟨hr, before, behind, rfl, fun x hx => ?_⟩
    simpa using fun h => hbefore ⟨x, hx, h⟩

/-- No rule is found where none matches. -/
theorem find?_eq_none_iff : rs.find? (·.pattern.applies f) = none ↔ ¬Covers rs f := by
  simp [List.find?_eq_none, Covers, ← Pattern.applies_iff]

/-- A rule is found where one matches. -/
theorem isSome_find?_iff : (rs.find? (·.pattern.applies f)).isSome = true ↔ Covers rs f := by
  simp [Covers, ← Pattern.applies_iff]

/-- It is the decisive rule alone that counts. -/
theorem diagnose_eq (b : Rulebook) (f : Fault) :
    b.diagnose f = ((b.decisive? f).map (·.opinion f)).getD f.passed := by
  unfold diagnose
  cases b.decisive? f with
  | none => rfl
  | some r =>
    rw [Option.map_some, Option.getD_some, Rule.opinion]
    cases f.code <;> rfl

/-- Rules can be added one at a time. -/
theorem foldl_add (b : Rulebook) (rs : List Rule) : rs.foldl add b = b.extend rs := by
  induction rs generalizing b with
  | nil => simp [extend]
  | cons r rs ih => simp [ih, add, extend]

/-- What is decided stays so, whatever is added. -/
theorem diagnose_extend_of_covers (h : Covers b.rules f) (rs : List Rule) :
    (b.extend rs).diagnose f = b.diagnose f := by
  obtain ⟨r, hr⟩ : ∃ r, b.decisive? f = some r :=
    Option.isSome_iff_exists.1 (isSome_find?_iff.2 h)
  rw [diagnose_eq, diagnose_eq, decisive?_extend, hr, Option.some_or]

/-- What is not decided is left to the rules that are added. -/
theorem diagnose_extend_of_not_covers (h : ¬Covers b.rules f) (rs : List Rule) :
    (b.extend rs).diagnose f =
      ((rs.find? (·.pattern.applies f)).map (·.opinion f)).getD f.passed := by
  have hb : b.decisive? f = none := find?_eq_none_iff.2 h
  rw [diagnose_eq, decisive?_extend, hb, Option.none_or]

/-- What a rulebook says of a fault after some rules were added. -/
structure Composed (b : Rulebook) (rs : List Rule) (f : Fault) : Prop where
  /-- The rules are added one at a time. -/
  extend_eq : rs.foldl add b = b.extend rs
  /-- If there was a rule for the fault, nothing changes. -/
  kept : Covers b.rules f → (b.extend rs).diagnose f = b.diagnose f
  /-- Otherwise the first of the new rules decides, -/
  decided : ¬Covers b.rules f → Covers rs f →
    ∃ r, Decides rs f r ∧ (b.extend rs).diagnose f = r.opinion f
  /-- and without one the fault is retryable. -/
  passed : ¬Covers b.rules f → ¬Covers rs f → (b.extend rs).diagnose f = f.passed
  /-- The diagnosis is of the fault as it is. -/
  cause : ((b.extend rs).diagnose f).cause = f
  /-- Once it is decided about, later rules do not matter. -/
  settled : ∀ later, Covers (b.rules ++ rs) f →
    ((b.extend rs).extend later).diagnose f = (b.extend rs).diagnose f

/-- What a rulebook says is composed of what its parts say. -/
theorem composed_extend (b : Rulebook) (rs : List Rule) (f : Fault) : Composed b rs f where
  extend_eq := foldl_add b rs
  kept h := diagnose_extend_of_covers h rs
  decided hb h := by
    obtain ⟨r, hr⟩ := Option.isSome_iff_exists.1 (isSome_find?_iff.2 h)
    refine ⟨r, find?_eq_some_iff.1 hr, ?_⟩
    rw [diagnose_extend_of_not_covers hb, hr]
    rfl
  passed hb h := by
    rw [diagnose_extend_of_not_covers hb, find?_eq_none_iff.2 h]
    rfl
  cause := cause_diagnose _ f
  settled later h := diagnose_extend_of_covers (b := b.extend rs) h later

/-! ## Faults that stay fatal -/

/-- The fault is one of missing permission, by its code, or of something that does
    not exist or cannot be sent. -/
def IsGrave (codes : List String) (f : Fault) : Prop :=
  (∃ code ∈ codes, f.code = some code) ∨ f.category = .resourceNotFound ∨
    f.category = .invalidEntry

/-- Whatever is added, grave faults stay fatal, in the words used before. -/
def Unforgiving (b : Rulebook) (codes : List String) : Prop :=
  ∀ (rs : List Rule) (f : Fault), IsGrave codes f →
    ((b.extend rs).diagnose f).verdict = .fatal ∧
      ((b.extend rs).diagnose f).message = (b.diagnose f).message

/-- It is enough that all rules are fatal, and that there is one for each grave
    fault. -/
theorem unforgiving_of_covers {codes : List String} (hb : ∀ r ∈ b.rules, r.verdict = .fatal)
    (h : ∀ f, IsGrave codes f → Covers b.rules f) : b.Unforgiving codes := by
  intro rs f hf
  rw [diagnose_extend_of_covers (h f hf)]
  exact ⟨(verdict_eq_fatal_iff hb).2 (isSome_find?_iff.2 (h f hf)), rfl⟩

/-- A rule on codes covers the faults that have one of them. -/
theorem covers_of_code {codes : List String} {code : String}
    (hr : r ∈ rs) (hp : r.pattern = .anyCode codes) (hcode : f.code = some code)
    (hmem : code ∈ codes) : Covers rs f :=
  ⟨r, hr, hp ▸ .code hcode hmem⟩

/-- A rule on a category covers the faults of it. -/
theorem covers_of_category (hr : r ∈ rs) (hp : r.pattern = .ofCategory f.category) :
    Covers rs f :=
  ⟨r, hr, hp ▸ .category⟩

/-- The standard rules cover what is grave. -/
theorem covers_standard (h : IsGrave authorizationCodes f) : Covers standard.rules f := by
  rcases h with ⟨code, hmem, hcode⟩ | hf | hf
  · exact covers_of_code (r := standard.rules[0]) (List.getElem_mem _) rfl hcode hmem
  · exact covers_of_category (r := standard.rules[1]) (List.getElem_mem _)
      (congrArg Pattern.ofCategory hf.symm)
  · exact covers_of_category (r := standard.rules[2]) (List.getElem_mem _)
      (congrArg Pattern.ofCategory hf.symm)

/-- The rules of a queue cover what is grave. -/
theorem covers_rules (h : IsGrave (authorizationCodes ++ Sqs.missingQueueCodes) f) :
    Covers Sqs.rules.rules f := by
  have standard_le (h : Covers standard.rules f) : Covers Sqs.rules.rules f :=
    h.imp fun _ => .imp_left (List.mem_append_left _)
  rcases h with ⟨code, hmem, hcode⟩ | h
  · rcases List.mem_append.1 hmem with hmem | hmem
    · exact standard_le (covers_standard (.inl ⟨code, hmem, hcode⟩))
    · exact covers_of_code (r := Sqs.rules.rules[3]) (List.getElem_mem _) rfl hcode hmem
  · exact standard_le (covers_standard (.inr h))

/-- Rulebooks are composed of their parts, and nothing makes the standard rules or
    those of a queue forgive a grave fault. -/
theorem composes : (∀ b rs f, Composed b rs f) ∧
    standard.Unforgiving ["NotAuthorized", "AccessDenied", "AccessDeniedException"] ∧
    Sqs.rules.Unforgiving ["NotAuthorized", "AccessDenied", "AccessDeniedException",
      "AWS.SimpleQueueService.NonExistentQueue", "QueueDoesNotExist"] :=
  ⟨composed_extend, unforgiving_of_covers (by decide) fun _ => covers_standard,
    unforgiving_of_covers Sqs.verdict_of_mem_rules fun _ => covers_rules⟩

/-- Two rules disagree on a code, and are added behind a rule on the category. The
    first of them decides, but for faults of the category. -/
example :
    let b : Rulebook := ⟨[⟨"transport", .ofCategory .transport, .retryable, "again"⟩]⟩
    let rs : List Rule := [⟨"denied", .anyCode ["A", "B"], .fatal, "no"⟩,
      ⟨"busy", .anyCode ["B"], .retryable, "later"⟩]
    ((b.extend rs).diagnose ⟨.service, some "B", "x", none⟩).message = "no (B)" ∧
      ((b.extend rs).diagnose ⟨.transport, some "B", "x", none⟩).message = "again (B)" := by
  decide

end Rulebook

end Outbox
