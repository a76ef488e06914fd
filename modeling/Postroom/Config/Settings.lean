import Postroom.Count
import Postroom.Policy.Backoff
import Postroom.Policy.BulkHold
import Postroom.Pool.AddressPool
import Postroom.Session.Outcome
import Postroom.Slots

/-!
# Settings

All settings of an office. Every one has a default.

* `Config`: the groups. `WorkerConfig`, `WaitConfig`: workers and ticks, and waiting for resources.
* `MetricsConfig`: the settings of the collector of metrics.
-/

namespace Postroom

/-- Workers and ticks. -/
structure WorkerConfig where
  /-- The number of workers; where absent, it depends on the machine. -/
  maxWorkers : Option Nat := none
  /-- The time from tick to tick in milliseconds. -/
  tickInterval : Nat := 100
  /-- The most batches that one tick starts; where absent, no bound. -/
  maxDispatchPerTick : Option Nat := none
  /-- How long running attempts may take to end at shutdown, in seconds. -/
  shutdownTimeoutSeconds : Nat := 30

/-- The time from tick to tick, never less than a millisecond. -/
def WorkerConfig.tick (c : WorkerConfig) : Nat := max c.tickInterval 1

/-- Waiting for resources. Times are in milliseconds. -/
structure WaitConfig where
  /-- How long a batch waits before it gives up. -/
  timeout : Nat := 30000
  /-- How long a batch stays away from its lane after a shortage. -/
  requeueBase : Nat := 200
  /-- The bound of a random time added to that; an office draws none. -/
  requeueJitter : Nat := 300
  /-- The code of recipients that never got resources. -/
  timeoutCode : Nat := 451

/-- Whether a wait is shorter than the timeout. A timeout beyond the range of the clock is never
reached. -/
def WaitConfig.lastsFor (c : WaitConfig) (waited : Int) : Bool :=
  twoTo 63 ≤ c.timeout || waited < c.timeout

/-- The settings of an office. -/
structure Config where
  workers : WorkerConfig := {}
  hold : HoldConfig := {}
  retry : Backoff := {}
  quota : RetryQuota := {}
  wait : WaitConfig := {}
  addresses : AddressConfig := {}
  slots : SlotConfig := {}
  recipients : RecipientPolicy := {}

/-- The longest hold of bulk work. -/
def Config.longestHold (c : Config) : Nat := c.hold.longest c.workers.tick

/-- The settings of the collector of metrics. -/
structure MetricsConfig where
  enabled : Bool := true
  endpoint : String := "http://localhost:4318/v1/metrics"
  exportIntervalSeconds : Nat := 15
  exportTimeoutSeconds : Nat := 10
  domainCardinality : Nat := 1000
  priorityDomains : List String := []

/-- What comes of setting up a collector where there is one already: nothing where collecting is
off, else this text of an error. -/
def MetricsConfig.secondSetup (c : MetricsConfig) : Except String Unit :=
  if c.enabled then .error "Metrics system already initialized" else .ok ()

end Postroom
