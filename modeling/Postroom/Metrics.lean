import Postroom.Count
import Postroom.Table
import Postroom.Traffic

/-!
# Metrics

Counters of what the office does, for a collector outside. Some of them can be read here as well.

* `Metrics.labelFor`: the name under which a domain is counted. Only so many domains get a name of
  their own, the rest are counted together; domains of high priority always keep theirs.
* `Metrics.batchEnded`, `Metrics.delivered`, and so on: what is counted.
* `Metrics.exported`: all that was counted, sorted.
-/

namespace Postroom

/-- What is counted. -/
inductive Instrument where
  | batches
  | recipientsDelivered
  | recipientsFailed
  | retries
  | sessionFailures
  | inFlight
  deriving DecidableEq

/-- The public name of an instrument. -/
def Instrument.name : Instrument → String
  | batches => "courier.dispatch.batches.total"
  | recipientsDelivered => "courier.dispatch.recipients.delivered.total"
  | recipientsFailed => "courier.dispatch.recipients.failed.total"
  | retries => "courier.dispatch.retries.total"
  | sessionFailures => "courier.dispatch.session.failures.total"
  | inFlight => "courier.dispatch.in_flight"

/-- One count: an instrument with its labels. -/
structure Series where
  instrument : Instrument
  labels : List (String × String)
  deriving DecidableEq

/-- The latencies of one step. -/
structure Latency where
  count : Nat := 0
  /-- Their sum in milliseconds. -/
  sum : Float := 0.0

/-- The settings of the collector. -/
structure LabelConfig where
  /-- How many domains get a label of their own. -/
  cardinality : Nat := 1000
  /-- Domains that always do. -/
  priority : List String := []

/-- What was counted. -/
structure Metrics where
  labels : LabelConfig := {}
  /-- The domains that got a label of their own, in the order in which they got it. -/
  tracked : List String := []
  /-- What was handed to each instrument under the same labels, summed up. How the collector outside adds it up is its
  own affair, also when more labels come than it tells apart. -/
  counts : Table Series Int := .empty
  latencies : Table String Latency := .empty
  completed : Nat := 0
  failed : Nat := 0
  retried : Nat := 0
  /-- Attempts started less attempts finished. -/
  inFlight : Int := 0
  depths : PerLane Nat := .const 0

namespace Metrics

/-- The label of all domains without one of their own. -/
def otherDomain : String := "other"

/-- The label of a domain, which may claim one of the free labels for it. -/
def labelFor (m : Metrics) (domain : String) : String × Metrics :=
  if m.labels.priority.contains domain || m.tracked.contains domain then (domain, m)
  else if m.tracked.length < m.labels.cardinality then
    (domain, { m with tracked := m.tracked ++ [domain] })
  else (otherDomain, m)

/-- An amount is handed to an instrument under some labels: the sum of all that was handed to it under them grows by
so much. -/
def add (m : Metrics) (i : Instrument) (labels : List (String × String)) (n : Int) : Metrics :=
  { m with counts := m.counts.modify ⟨i, labels⟩ 0 (· + n) }

/-- A batch ended. -/
def batchEnded (m : Metrics) (t : TrafficClass) (completed : Bool) : Metrics :=
  let outcome := if completed then "completed" else "failed"
  let m := m.add .batches [("class", t.label), ("outcome", outcome)] 1
  if completed then { m with completed := m.completed + 1 } else { m with failed := m.failed + 1 }

/-- Recipients were delivered. -/
def delivered (m : Metrics) (domain : String) (n : Nat) : Metrics :=
  if n = 0 then m
  else
    let (label, m) := m.labelFor domain
    m.add .recipientsDelivered [("domain", label)] n

/-- A recipient failed. -/
def recipientFailed (m : Metrics) (domain : String) (code : Nat) : Metrics :=
  let (label, m) := m.labelFor domain
  m.add .recipientsFailed [("code", toString code), ("domain", label)] 1

/-- A session failed to open or broke. -/
def sessionFailed (m : Metrics) (domain : String) (code : Nat) : Metrics :=
  let (label, m) := m.labelFor domain
  m.add .sessionFailures [("code", toString code), ("domain", label)] 1

/-- A retry was scheduled. -/
def retryScheduled (m : Metrics) (lane : Lane) : Metrics :=
  { m.add .retries [("lane", lane.label)] 1 with retried := m.retried + 1 }

/-- A step of a session took so many milliseconds. -/
def stepTook (m : Metrics) (step : String) (ms : Float) : Metrics :=
  { m with latencies := m.latencies.modify step {} fun l => ⟨l.count + 1, l.sum + ms⟩ }

def attemptStarted (m : Metrics) : Metrics :=
  { m.add .inFlight [] 1 with inFlight := m.inFlight + 1 }

def attemptFinished (m : Metrics) : Metrics :=
  { m.add .inFlight [] (-1) with inFlight := m.inFlight - 1 }

/-- The attempts in flight as an unsigned word, which wraps below zero. -/
def inFlightWord (m : Metrics) : Nat := (m.inFlight % twoTo 64).toNat

/-- A lane holds so many tasks. -/
def setDepth (m : Metrics) (lane : Lane) (n : Nat) : Metrics :=
  { m with depths := m.depths.set lane n }

/-! ## Export -/

/-- What an exported row shows. -/
inductive Reading where
  | count (n : Int)
  | histogram (count : Nat) (sum : Float)

/-- An exported row. -/
structure Row where
  instrument : String
  /-- Each as name, equals sign, value; sorted. -/
  labels : List String
  reading : Reading

/-- Labels as text. -/
def labelTexts (labels : List (String × String)) : List String :=
  labels.map fun l => l.1 ++ "=" ++ l.2

/-- Whether one list of texts comes before another, text by text. -/
def textsBefore : List String → List String → Bool
  | [], _ => true
  | _ :: _, [] => false
  | a :: as, b :: bs =>
    match compare a b with
    | .lt => true
    | .gt => false
    | .eq => textsBefore as bs

/-- The order of exported rows: by instrument, then by labels. -/
def rowBefore (a b : Row) : Bool := textsBefore (a.instrument :: a.labels) (b.instrument :: b.labels)

/-- What is shown of a count. All but the attempts in flight are words of 64 bits. -/
def shownCount (i : Instrument) (n : Int) : Int := if i = .inFlight then n else n % twoTo 64

/-- All that was counted. The depth of each lane is always there. -/
def exported (m : Metrics) : List Row :=
  let counts := m.counts.entries.map fun e =>
    ⟨e.1.instrument.name, labelTexts e.1.labels, .count (shownCount e.1.instrument e.2)⟩
  let latencies := m.latencies.entries.map fun e =>
    ⟨"courier.dispatch.response.latency.ms", labelTexts [("step", e.1)],
      .histogram e.2.count e.2.sum⟩
  let depths := Lane.serviceOrder.map fun l =>
    ⟨"courier.dispatch.queue.depth", labelTexts [("lane", l.label)], .count (m.depths.get l)⟩
  (counts ++ latencies ++ depths).mergeSort rowBefore

end Metrics

end Postroom
