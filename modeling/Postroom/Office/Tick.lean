import Postroom.Office.Attempting

/-!
# Ticks

A tick takes tasks from the lanes in their order and starts them, until no worker is free, enough were
started, or no lane has a task that may go. A lane of bulk work yields to the bulk hold, a retry lane
to the retry quota, and a domain that met a shortage is passed over for the rest of the tick.

* `Office.nextTask?`: the task that goes next. `Office.retryAdmits`: the quota of a retry lane.
* `Office.tick`: the whole tick, with a report.
-/

namespace Postroom

/-- What a tick did. -/
structure TickReport where
  dispatched : Nat := 0
  /-- Tasks of runs that are not valid. -/
  dropped : Nat := 0
  /-- Tasks that met a shortage. -/
  deferred : Nat := 0
  deriving DecidableEq

def TickReport.isIdle (r : TickReport) : Bool := r = {}

/-- What a tick set going in the background. -/
inductive Launch where
  | attempt (number : Nat)
  | expiry (number : Nat)
  deriving DecidableEq

/-- The state of a tick. -/
structure Ticking where
  office : Office
  report : TickReport := {}
  /-- The bulk batches started. -/
  bulkStarted : Nat := 0
  /-- The domains that met a shortage. -/
  excluded : List Domain := []
  launched : List Launch := []

namespace Office

variable (o : Office)

/-- How long the oldest eligible task of a lane has waited; none if there is none or the clock was
set back. -/
def oldestWait (l : Lane) (excluded : List Domain) : Option Nat := do
  let since ← (o.lanes.line l).oldest? excluded
  if since ≤ o.now then some (o.now - since).toNat else none

/-- Whether the quota lets another retry of a lane start. -/
def retryAdmits (l : Lane) (excluded : List Domain) : Bool :=
  let capacity := o.workers.size - o.inFlightOf l.traffic.other
  let freshPending := (o.lanes.line l.traffic.freshLane).hasAvailable excluded
  o.config.quota.admits (o.inFlight.get l) capacity freshPending (o.oldestWait l excluded)

/-- Whether a lane may be served. -/
def isServed (bulk : BulkBudget) (bulkStarted : Nat) (excluded : List Domain) (l : Lane) : Bool :=
  (l.traffic = .realtime || bulk.allows bulkStarted) && (!l.isRetry || o.retryAdmits l excluded)

/-- The next task of the first lane that may be served and has one. -/
def nextTask? (bulk : BulkBudget) (bulkStarted : Nat) (excluded : List Domain) :
    Option (Task × Office) :=
  Lane.serviceOrder.findSome? fun l =>
    if o.isServed bulk bulkStarted excluded l then o.poll? l excluded else none

end Office

namespace Ticking

/-- Whether the tick may start another batch. -/
def mayStart (s : Ticking) : Bool :=
  (match s.office.config.workers.maxDispatchPerTick with
    | some cap => s.report.dispatched < cap
    | none => true) && s.office.workers.hasCapacity

/-- A task of a run that is not valid ends. -/
def dropped (s : Ticking) (o : Office) (t : Task) (r : Rejection) : Ticking :=
  { s with
    office := o.fail t r.cause
    report := { s.report with dropped := s.report.dropped + 1 } }

/-- An attempt at `t` was started. -/
def started (s : Ticking) (o : Office) (t : Task) (number : Nat) : Ticking :=
  { s with
    office := o
    report := { s.report with dispatched := s.report.dispatched + 1 }
    bulkStarted := if t.traffic = .bulk then s.bulkStarted + 1 else s.bulkStarted
    launched := s.launched ++ [.attempt number] }

/-- `t` met a shortage. -/
def deferred (s : Ticking) (o : Office) (t : Task) (expiry : Option Nat) : Ticking :=
  { s with
    office := o
    report := { s.report with deferred := s.report.deferred + 1 }
    excluded := t.domain :: s.excluded
    launched := s.launched ++ expiry.toList.map .expiry }

/-- Serve tasks, at most as many as the first argument says. -/
def serve (bulk : BulkBudget) : Nat → Ticking → Ticking
  | 0, s => s
  | n + 1, s =>
    if s.mayStart then
      match s.office.nextTask? bulk s.bulkStarted s.excluded with
      | none => s
      | some (t, o) =>
        match o.registry.validate t with
        | .error r => serve bulk n (s.dropped o t r)
        | .ok () =>
          match o.execute t with
          | (.started number, o) => serve bulk n (s.started o t number)
          | (.deferred expiry, o) => serve bulk n (s.deferred o t expiry)
          | (.refused _, o) => { s with office := o }
    else s

end Ticking

namespace Office

/-- The bulk budget of the tick that begins now. -/
def bulkBudget (o : Office) : BulkBudget × BulkHold :=
  o.hold.next o.config.hold o.clock.uptime ((o.lanes.line .realtimeFresh).hasAvailable [])
    o.config.longestHold o.workers.size

/-- One tick. Every task that it serves was queued when it began, so their number bounds it. -/
def tick (o : Office) : Ticking :=
  let (bulk, hold) := o.bulkBudget
  Ticking.serve bulk o.lanes.total { office := { o with hold := hold } }

end Office

end Postroom
