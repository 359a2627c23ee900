import Outbox.Rehearsal.Stage

/-!
# Rehearsing calls

Calls on one writer, begun one by one. After each instruction, all calls run
until each of them is done or waits for something that is yet to be instructed
(`Calls.play`).
-/

namespace Outbox.Rehearsal

open Dispatch

/-- What can be instructed. -/
inductive Instruction where
  | submit (entries : List Entry)
  | close
  /-- A request gets its permit. -/
  | permit (request : Nat)
  /-- The client gets its permit to be done with releasing. -/
  | permitRelease
  /-- The call begun by an earlier instruction is given up. -/
  | cancel (instruction : Nat)
  | look

/-- How a call ended. -/
inductive Ending where
  | submission (r : Reply)
  | closing

/-- A call under way: its lane, and the instruction that began it. -/
structure Running where
  lane : Nat
  origin : Nat

/-- Calls on a writer. -/
structure Calls (σ : Type) where
  stage : Stage σ
  /-- The number of instructions followed. -/
  count : Nat := 0
  /-- The calls that have not ended, in the order in which they began. -/
  running : List Running := []
  /-- The lanes of calls that have ended. -/
  free : List Nat := []

/-- What shows after an instruction. -/
structure Calls.Report (ρ : Type) where
  /-- The calls that have ended since the last one, by the instructions that
      began them. -/
  ended : List (Nat × Ending)
  inFlight : Nat
  closed : Bool
  requests : List ρ

/-- How a call ended, unless it is under way or was given up. -/
def ending? : Call → Option Ending
  | .submission (.finished (some r)) => some (.submission r)
  | .closing .finished => some .closing
  | _ => none

namespace Calls

variable {σ ρ : Type} [Client σ ρ]

/-- All calls run until each is done or held up, in at most `fuel` steps. Time
    passes when there is nothing to do before. -/
def settle : (fuel : Nat) → Stage σ → Stage σ
  | 0, s => s
  | fuel + 1, s =>
    match s.goAny with
    | some s => settle fuel s
    | none =>
      match s.deadline? with
      | some t => if s.now < t then settle fuel { s with now := t } else s
      | none => s

/-- Enough steps to settle: each call takes some, and may be woken by each other
    one. -/
def enough (s : Stage σ) : Nat := 16 * (s.traffic.lanes.length + 1) * (s.traffic.lanes.length + 1)

/-- A call begins in a lane that is free, or else in a new one. -/
def begin (c : Calls σ) (event : Nat → Event) : Calls σ :=
  let (lane, free) := match c.free with
    | [] => (c.stage.traffic.lanes.length, [])
    | lane :: free => (lane, free)
  { c with
    stage := c.stage.enter (event lane)
    running := c.running ++ [⟨lane, c.count⟩]
    free }

/-- Follows an instruction, before the calls run. -/
def follow (c : Calls σ) : Instruction → Calls σ
  | .submit es => c.begin (.submit · es)
  | .close => c.begin .close
  | .permit n => { c with stage := c.stage.permit n }
  | .permitRelease => { c with stage := { c.stage with holdsRelease := false } }
  | .cancel n =>
    match c.running.find? (·.origin = n) with
    | some r => { c with stage := c.stage.drop r.lane }
    | none => c
  | .look => c

/-- Follows an instruction, and lets all calls run. -/
def play (c : Calls σ) (i : Instruction) : Calls.Report ρ × Calls σ :=
  let c := c.follow i
  let stage := settle (enough c.stage) c.stage
  let lanes := stage.traffic.lanes.toArray
  let (ended, running) := c.running.partition fun r => lanes[r.lane]?.all (·.isFinished)
  let report : Calls.Report ρ := {
    ended := ended.filterMap fun r => (lanes[r.lane]?.bind ending?).map (r.origin, ·)
    inFlight := stage.traffic.gate.inFlight
    closed := stage.traffic.gate.closed
    requests := Client.requests stage.client }
  (report, {
    stage := { stage with client := Client.forget stage.client }
    count := c.count + 1
    running
    free := ended.map (·.lane) ++ c.free })

end Calls

end Outbox.Rehearsal
