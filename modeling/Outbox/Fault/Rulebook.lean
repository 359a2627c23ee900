import Outbox.Fault

/-!
# Rules on faults

A `Rulebook` is a list of rules, the first of which that applies to a fault
gives the verdict on it. A fault to which none applies is retryable.

* `Rulebook.decisive?`: the rule that decides;
* `Rulebook.diagnose`: the verdict, with a message for people;
* `Rulebook.standard`: missing permissions, missing resources and entries that
  cannot be sent are fatal.
-/

namespace Outbox

/-- What a rule looks at. -/
inductive Pattern where
  /-- The fault has one of the codes. -/
  | anyCode (codes : List String)
  /-- The fault is of the category. -/
  | ofCategory (category : Category)
deriving DecidableEq, Repr

/-- The pattern applies to the fault. -/
def Pattern.applies : Pattern → Fault → Bool
  | .anyCode codes, f => f.code.any (codes.contains ·)
  | .ofCategory c, f => f.category = c

/-- A verdict on the faults a pattern applies to. -/
structure Rule where
  name : String
  pattern : Pattern
  verdict : Verdict := .fatal
  message : String
deriving DecidableEq, Repr

/-- Rules in the order in which they are looked at. -/
structure Rulebook where
  rules : List Rule := []
deriving DecidableEq, Repr

namespace Rulebook

/-- Adds a rule behind all others. -/
def add (b : Rulebook) (r : Rule) : Rulebook := ⟨b.rules ++ [r]⟩

/-- Adds rules behind all others, in their order. -/
def extend (b : Rulebook) (rs : List Rule) : Rulebook := ⟨b.rules ++ rs⟩

/-- The first rule that applies. -/
def decisive? (b : Rulebook) (f : Fault) : Option Rule := b.rules.find? (·.pattern.applies f)

/-- Rules that are added count only where none of those before applies. -/
theorem decisive?_extend (b : Rulebook) (rs : List Rule) (f : Fault) :
    (b.extend rs).decisive? f = (b.decisive? f).or (rs.find? (·.pattern.applies f)) :=
  List.find?_append

/-- The verdict on a fault. -/
def diagnose (b : Rulebook) (f : Fault) : Diagnosis :=
  match b.decisive? f with
  | none => ⟨.retryable, s!"Encountered retryable exception: {f.message}", f⟩
  | some r =>
    match f.code with
    | none => ⟨r.verdict, r.message, f⟩
    | some code => ⟨r.verdict, s!"{r.message} ({code})", f⟩

theorem cause_diagnose (b : Rulebook) (f : Fault) : (b.diagnose f).cause = f := by
  unfold diagnose
  split
  · rfl
  · split <;> rfl

theorem verdict_diagnose (b : Rulebook) (f : Fault) :
    (b.diagnose f).verdict = ((b.decisive? f).map (·.verdict)).getD .retryable := by
  unfold diagnose
  split <;> rename_i h
  · simp [h]
  · split <;> simp [h]

/-- The codes by which services turn away a caller without permission. -/
def authorizationCodes : List String := ["NotAuthorized", "AccessDenied", "AccessDeniedException"]

/-- Callers without permission, missing resources and entries that cannot be
    sent will not be better next time. -/
def standard : Rulebook where
  rules := [
    { name := "authorization"
      pattern := .anyCode authorizationCodes
      message := "Encountered non-recoverable exception: the caller is not authorized" },
    { name := "resource-not-found"
      pattern := .ofCategory .resourceNotFound
      message := "Encountered non-recoverable exception relating to " ++
        "not being able to find the specified resources" },
    { name := "invalid-entry"
      pattern := .ofCategory .invalidEntry
      message := "Encountered non-recoverable exception: " ++
        "a record could not be converted into a batch entry" }]

end Rulebook

end Outbox
