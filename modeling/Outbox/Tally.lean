/-!
# Tallies

What a writer counts: entries delivered and their bytes, entries that failed for
good, and entries put back for another attempt. Counters hold 64 bits and start
over at zero when they overflow. `Tally.exposition` is the page a monitoring
system reads them from.
-/

namespace Outbox

/-- The counters. -/
inductive Counter where
  /-- Entries the service has accepted. -/
  | recordsOut
  /-- Entries that failed for good. -/
  | recordErrors
  /-- Entries whose sending failed and was not retried. -/
  | sendErrors
  /-- Bytes of the entries the service has accepted. -/
  | bytesOut
  /-- Entries put back for another attempt, each time. -/
  | retries
deriving DecidableEq, Repr

namespace Counter

/-- All counters in the order of the page. -/
def all : List Counter := [recordsOut, recordErrors, sendErrors, bytesOut, retries]

/-- The name of a counter. -/
def name : Counter → String
  | recordsOut => "records_out"
  | recordErrors => "records_out_errors"
  | sendErrors => "send_errors"
  | bytesOut => "bytes_out"
  | retries => "retries"

/-- What a counter says. -/
def help : Counter → String
  | recordsOut => "A Counter to keep track of the total number of records written to the sink"
  | recordErrors =>
    "A Counter to keep track of the total number of records that could not be written to the sink"
  | sendErrors =>
    "A Counter to keep track of the total number of records " ++
      "whose send attempt failed without a retry"
  | bytesOut =>
    "A Counter to keep track of the total number of payload bytes written to the sink"
  | retries =>
    "A Counter to keep track of the total number of records handed back for another attempt"

end Counter

/-- The values of the counters. -/
structure Tally where
  recordsOut : UInt64 := 0
  recordErrors : UInt64 := 0
  sendErrors : UInt64 := 0
  bytesOut : UInt64 := 0
  retries : UInt64 := 0
deriving DecidableEq, Repr

namespace Tally

/-- The value of a counter. -/
def get (t : Tally) : Counter → UInt64
  | .recordsOut => t.recordsOut
  | .recordErrors => t.recordErrors
  | .sendErrors => t.sendErrors
  | .bytesOut => t.bytesOut
  | .retries => t.retries

/-- Adds to a counter. -/
def add (t : Tally) (c : Counter) (n : UInt64) : Tally :=
  match c with
  | .recordsOut => { t with recordsOut := t.recordsOut + n }
  | .recordErrors => { t with recordErrors := t.recordErrors + n }
  | .sendErrors => { t with sendErrors := t.sendErrors + n }
  | .bytesOut => { t with bytesOut := t.bytesOut + n }
  | .retries => { t with retries := t.retries + n }

@[simp] theorem get_add (t : Tally) (c d : Counter) (n : UInt64) :
    (t.add c n).get d = if c = d then t.get d + n else t.get d := by
  cases c <;> cases d <;> rfl

/-- The lines on a counter, under a name that may start with the name of the
    registry it belongs to. -/
def lines (t : Tally) (registry : Option String) (c : Counter) : String :=
  let name := (registry.elim "" (· ++ "_")) ++ "sink_" ++ c.name
  s!"# HELP {name} {c.help}.\n# TYPE {name} counter\n{name}_total {(t.get c).toNat}\n"

/-- The page of all counters. -/
def exposition (t : Tally) (registry : Option String) : String :=
  String.join (Counter.all.map (t.lines registry)) ++ "# EOF\n"

end Tally

end Outbox
