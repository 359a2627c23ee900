import Outbox.Sqs.CallError

/-!
# Verdicts on failed calls

Failed calls become faults, and rules give the verdict on them. Both look at the
code of the service: the fault of a missing queue is put into a category of its
own, and the rules have one on this category as well as one on the codes.

All rules are fatal, so that a call is not made again if and only if any of them
applies (`Rulebook.verdict_eq_fatal_iff`). Which one decides is read off the
code alone (`CallError.decisive?_rules`): it is never the rule on the codes of
missing queues, as that on the category comes first. A call is turned away for
good by the codes in `CallError.Permanent` only; `CallError.judged` puts together
what becomes of a failed call.
-/

namespace Outbox

namespace Rulebook

variable {b : Rulebook} {f : Fault} {r : Rule} {code : String}

/-- If all rules are fatal, the verdict is whether any of them applies. -/
theorem verdict_eq_fatal_iff (hb : ∀ r ∈ b.rules, r.verdict = .fatal) :
    (b.diagnose f).verdict = .fatal ↔ (b.decisive? f).isSome = true := by
  rw [verdict_diagnose]
  rcases h : b.decisive? f with _ | r
  · exact iff_of_false nofun nofun
  · exact iff_of_true (hb r (List.mem_of_find?_eq_some h)) rfl

/-- The code is put behind what the decisive rule says. -/
theorem message_diagnose (hr : b.decisive? f = some r) (hcode : f.code = some code) :
    (b.diagnose f).message = r.message ++ " (" ++ code ++ ")" := by
  simp only [diagnose, hr, hcode]
  rfl

end Rulebook

namespace Sqs

/-- All rules of a queue are fatal. -/
theorem verdict_of_mem_rules : ∀ r ∈ rules.rules, r.verdict = .fatal := by decide

namespace CallError

variable {e : CallError} {code : String}

/-- The call was turned away for good: the caller has no permission, or there is
    no such queue. -/
inductive Permanent : CallError → Prop
  | unauthorized (what : String) (code : String) (message : Option String) :
    code ∈ ["NotAuthorized", "AccessDenied", "AccessDeniedException"] →
      Permanent (.service what (some code) message)
  | missing (what : String) (code : String) (message : Option String) :
    code ∈ ["AWS.SimpleQueueService.NonExistentQueue", "QueueDoesNotExist"] →
      Permanent (.service what (some code) message)

/-- The code is one by which the service says that there is no such queue. -/
def missesQueue (e : CallError) : Bool := e.code?.any (missingQueueCodes.contains ·)

/-- The code is one by which the service turns away a caller without permission. -/
def lacksPermission (e : CallError) : Bool := e.code?.any (Rulebook.authorizationCodes.contains ·)

/-- Only the service itself gives a code. -/
theorem code?_eq_some_iff :
    e.code? = some code ↔ ∃ what message, e = .service what (some code) message := by
  refine ⟨fun h => ?_, fun ⟨_, _, h⟩ => h ▸ rfl⟩
  rcases e with what | what | ⟨connector, what⟩ | what | ⟨what, code', message⟩
  · cases h
  · cases h
  · cases h
  · cases h
  · obtain rfl : code' = some code := h
    exact ⟨what, message, rfl⟩

/-- The code is one of some when the service has said so. -/
theorem code?_any_iff (codes : List String) : e.code?.any (codes.contains ·) = true ↔
    ∃ what code message, e = .service what (some code) message ∧ code ∈ codes := by
  simp only [Option.any_eq_true, code?_eq_some_iff, List.contains_iff_mem]
  constructor
  · rintro ⟨code, ⟨what, message, h⟩, hcode⟩
    exact ⟨what, code, message, h, hcode⟩
  · rintro ⟨what, code, message, h, hcode⟩
    exact ⟨code, ⟨what, message, h⟩, hcode⟩

/-- An error of the service is put into a category by its code. -/
theorem category_service (what : String) (code message : Option String) :
    (service what code message).category =
      if (service what code message).missesQueue then .resourceNotFound else .service := rfl

/-- Calls that get no answer have no code, so that the category of missing queues
    is that of their codes. -/
theorem category_eq_resourceNotFound_iff :
    e.category = .resourceNotFound ↔ e.missesQueue = true := by
  rcases e with what | what | ⟨connector, what⟩ | what | ⟨what, code, message⟩
  · exact iff_of_false nofun nofun
  · exact iff_of_false nofun nofun
  · exact iff_of_false nofun nofun
  · exact iff_of_false nofun nofun
  · rw [category_service]
    split
    · exact iff_of_true rfl ‹_›
    · exact iff_of_false nofun ‹_›

/-- Time-outs and failed dispatches are failures of the transport. -/
theorem category_eq_transport_iff : e.category = .transport ↔
    (∃ what, e = .timeout what) ∨ ∃ connector what, e = .dispatch connector what := by
  rcases e with what | what | ⟨connector, what⟩ | what | ⟨what, code, message⟩
  · exact iff_of_false nofun (by simp)
  · exact iff_of_true rfl (.inl ⟨what, rfl⟩)
  · exact iff_of_true rfl (.inr ⟨connector, what, rfl⟩)
  · exact iff_of_false nofun (by simp)
  · rw [category_service]
    refine iff_of_false ?_ (by simp)
    split <;> nofun

/-- No failed call is put down to an entry. -/
theorem category_ne_invalidEntry (e : CallError) : e.category ≠ .invalidEntry := by
  rcases e with what | what | ⟨connector, what⟩ | what | ⟨what, code, message⟩
  · nofun
  · nofun
  · nofun
  · nofun
  · rw [category_service]
    split <;> nofun

/-- The rule that decides, by the code: the one on the codes of missing queues is
    always preceded by the one on the category. -/
theorem decisive?_rules (e : CallError) : rules.decisive? e.toFault =
    if e.lacksPermission then rules.rules[0]?
    else if e.missesQueue then rules.rules[1]?
    else none := by
  have hpermission : (Pattern.anyCode Rulebook.authorizationCodes).applies e.toFault =
      e.lacksPermission := rfl
  have hmissing : (Pattern.anyCode missingQueueCodes).applies e.toFault = e.missesQueue := rfl
  have hcategory : (Pattern.ofCategory .resourceNotFound).applies e.toFault = e.missesQueue :=
    Bool.eq_iff_iff.2 (decide_eq_true_iff.trans category_eq_resourceNotFound_iff)
  have hentry : (Pattern.ofCategory .invalidEntry).applies e.toFault = false :=
    decide_eq_false e.category_ne_invalidEntry
  simp only [Rulebook.decisive?, rules, Rulebook.standard, Rulebook.add, List.cons_append,
    List.nil_append, List.find?_cons, List.find?_nil, hpermission, hcategory, hentry, hmissing]
  cases e.lacksPermission <;> cases e.missesQueue <;> rfl

/-- Just the codes for a missing permission or queue are permanent. -/
theorem permanent_iff : e.Permanent ↔ e.lacksPermission = true ∨ e.missesQueue = true := by
  rw [lacksPermission, missesQueue, code?_any_iff, code?_any_iff]
  constructor
  · rintro (⟨what, code, message, hcode⟩ | ⟨what, code, message, hcode⟩)
    · exact .inl ⟨what, code, message, rfl, hcode⟩
    · exact .inr ⟨what, code, message, rfl, hcode⟩
  · rintro (⟨what, code, message, rfl, hcode⟩ | ⟨what, code, message, rfl, hcode⟩)
    · exact .unauthorized what code message hcode
    · exact .missing what code message hcode

/-- What becomes of a failed call: the fault it is, and the verdict on it. -/
structure Judged (e : CallError) : Prop where
  /-- A call is not made again if and only if it was turned away for good. -/
  fatal_iff : (rules.diagnose e.toFault).verdict = .fatal ↔ e.Permanent
  retryable_iff : (rules.diagnose e.toFault).verdict = .retryable ↔ ¬e.Permanent
  /-- The verdict is on the fault as it is. -/
  cause : (rules.diagnose e.toFault).cause = e.toFault
  /-- The code is the one of the service, and there is none without an answer. -/
  code_iff : ∀ code, e.toFault.code = some code ↔
    ∃ what message, e = .service what (some code) message
  /-- Failures of the transport are told by there being no answer at all, -/
  transport_iff : e.toFault.category = .transport ↔
    (∃ what, e = .timeout what) ∨ ∃ connector what, e = .dispatch connector what
  /-- and missing queues by the code. -/
  resourceNotFound_iff : e.toFault.category = .resourceNotFound ↔
    ∃ what code message, e = .service what (some code) message ∧
      code ∈ ["AWS.SimpleQueueService.NonExistentQueue", "QueueDoesNotExist"]
  /-- A message that the call will not be made again ends with the code. -/
  message : (rules.diagnose e.toFault).verdict = .fatal → ∃ text code,
    e.toFault.code = some code ∧ (rules.diagnose e.toFault).message = text ++ " (" ++ code ++ ")"
  /-- The rule on the codes of missing queues never decides. -/
  decisive : ∀ r, rules.decisive? e.toFault = some r →
    r.name = "authorization" ∨ r.name = "resource-not-found"
  /-- The one on missing resources decides about all of them. -/
  missing : e.toFault.category = .resourceNotFound →
    (rules.decisive? e.toFault).map (·.name) = some "resource-not-found"

/-- A failed call is fatal when it is permanent. -/
theorem fatal_iff : (rules.diagnose e.toFault).verdict = .fatal ↔ e.Permanent := by
  rw [Rulebook.verdict_eq_fatal_iff verdict_of_mem_rules, decisive?_rules, permanent_iff]
  cases e.lacksPermission <;> cases e.missesQueue <;> decide

/-- What becomes of any failed call. -/
theorem judged (e : CallError) : e.Judged where
  fatal_iff := fatal_iff
  retryable_iff := by
    rw [← fatal_iff]
    cases (rules.diagnose e.toFault).verdict <;> decide
  cause := Rulebook.cause_diagnose _ _
  code_iff _ := code?_eq_some_iff
  transport_iff := category_eq_transport_iff
  resourceNotFound_iff := category_eq_resourceNotFound_iff.trans (code?_any_iff _)
  message h := by
    obtain ⟨r, hr⟩ := Option.isSome_iff_exists.1
      ((Rulebook.verdict_eq_fatal_iff verdict_of_mem_rules).1 h)
    obtain ⟨code, hcode⟩ : ∃ code, e.toFault.code = some code := by
      rcases fatal_iff.1 h with ⟨what, code, message, -⟩ | ⟨what, code, message, -⟩ <;>
        exact ⟨code, rfl⟩
    exact ⟨r.message, code, hcode, Rulebook.message_diagnose hr hcode⟩
  decisive r hr := by
    rw [decisive?_rules] at hr
    revert hr
    cases e.lacksPermission <;> cases e.missesQueue <;> rintro ⟨⟩ <;> decide
  missing h := by
    have hmissing := category_eq_resourceNotFound_iff.1 h
    obtain ⟨what, code, message, rfl, hcode⟩ := (code?_any_iff _).1 hmissing
    -- no code is both of a missing queue and of a missing permission
    have hdisjoint : ∀ code ∈ missingQueueCodes,
        Rulebook.authorizationCodes.contains code = false := by decide
    have hpermission : (service what (some code) message).lacksPermission = false :=
      hdisjoint code hcode
    rw [decisive?_rules, hpermission, hmissing]
    rfl

end CallError

end Sqs

end Outbox
