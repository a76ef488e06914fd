import Postroom.Config.Settings
import Postroom.Count
import Postroom.Ledger
import Postroom.Metrics
import Postroom.Queue.Lanes
import Postroom.Registry
import Postroom.Session.Conversation
import Postroom.Stats.Daily
import Postroom.Stats.DomainWindow
import Postroom.Timers
import Postroom.WaitTable

/-!
# The office

All that a dispatch office holds at one moment. Whatever happens to an office, a submission, a tick, a
timer, the end of a send, a record kept or refused by a sink, is a function from one office to the
next, so that a history of an office is a list of such steps in any order.

* `Office`: the state. A task of an open batch is in one place: a lane, a sleeper, an attempt, an
  expiry, a settlement, or with a caller that took it out.
* `Attempt`: a send under way. `Settlement`: final results on their way to the sink.
-/

namespace Postroom

/-- The two clocks, in milliseconds. -/
structure Clock where
  /-- The time of day since the beginning of 1970, which can be set. -/
  wall : Calendar.Moment := 0
  /-- The time since the start, which only grows. -/
  uptime : Nat := 0

namespace Clock

/-- So many milliseconds pass. -/
def pass (c : Clock) (ms : Nat) : Clock := ⟨c.wall.move ms, c.uptime + ms⟩

/-- The time of day is set forwards or back. -/
def shift (c : Clock) (ms : Int) : Clock := { c with wall := c.wall.move ms }

end Clock

/-- The workers, each of which runs one send at a time, and beside them the waiters, each of which waits for the report
of a send and sees to what follows from it, or fails what waited too long. -/
structure Workers where
  size : Nat
  /-- The sends that occupy a worker, by number. -/
  running : List Nat := []
  /-- Nothing new is started. -/
  closed : Bool := false
  /-- The sends begun since the last drain, without some that have ended. -/
  sends : List Nat := []
  /-- The waiters begun since the last drain, without some that have ended. -/
  waiters : List Nat := []

namespace Workers

/-- The number of workers that run a send. -/
def busy (w : Workers) : Nat := w.running.length

def isSending (w : Workers) (number : Nat) : Bool := number ∈ w.running

def hasCapacity (w : Workers) : Bool := !w.closed && w.busy < w.size

/-- A worker starts on a send; or why none does. -/
def start (w : Workers) (number : Nat) : Except Fault Workers :=
  if w.closed then .error .shutdown
  else if w.size ≤ w.busy then .error Fault.workersBusy
  else .ok { w with
    running := w.running ++ [number]
    sends := w.sends.filter w.isSending ++ [number] }

/-- The worker of a send is free again. -/
def finish (w : Workers) (number : Nat) : Workers := { w with running := w.running.filter (· ≠ number) }

/-- A waiter begins beside those that go on. -/
def await (w : Workers) (goesOn : Nat → Bool) (number : Nat) : Workers :=
  { w with waiters := w.waiters.filter goesOn ++ [number] }

end Workers

/-- What an attempt holds while it lasts. -/
structure Permit where
  lease : Lease
  /-- The class of the attachment slot, if one is held. -/
  slot : Option TrafficClass
  deriving DecidableEq

/-- What a worker reports at the end of a send. -/
abbrev Report := Except Fault Outcome

/-- A send under way, from its start until its report is taken. -/
structure Attempt where
  number : Nat
  task : Task
  permit : Permit
  /-- The report, once the worker has made it. -/
  report : Option Report := none

/-- A task whose wait for resources ran out, until that is taken up. -/
structure Expiry where
  number : Nat
  task : Task

/-- Where the results of a settlement come from. -/
inductive Purpose where
  /-- From an attempt, which leaves some recipients for a retry. -/
  | attempt (kept : List Recipient)
  /-- From a wait for resources that ran out. -/
  | expiry
  /-- From a submission for a domain that is not known. -/
  | unroutable
  deriving DecidableEq

/-- Final results on their way to the sink. -/
structure Settlement where
  number : Nat
  task : Task
  purpose : Purpose
  /-- The results that the sink has accepted. -/
  written : List RecipientResult
  /-- The results still to be recorded. -/
  left : List RecipientResult

/-- A dispatch office. -/
structure Office where
  config : Config
  clock : Clock := {}
  /-- Submissions are taken. -/
  accepting : Bool := true
  lanes : Lanes := {}
  registry : Registry := {}
  waits : WaitTable := {}
  slots : SlotGroups
  pool : AddressPool
  workers : Workers
  /-- The attempts in flight of each lane. -/
  inFlight : PerLane Nat := .const 0
  hold : BulkHold := {}
  daily : Daily := {}
  window : DomainWindow
  metrics : Metrics := {}
  ledger : Ledger := {}
  timers : Timers := {}
  attempts : List Attempt := []
  expiries : List Expiry := []
  settlements : List Settlement := []
  /-- What the next delays after a shortage add to the shortest one. -/
  draws : List Nat := []
  /-- The next number for a sleeper, an attempt, an expiry or a settlement. -/
  nextNumber : Nat := 0

namespace Office

/-- How long samples of attempts are kept: an hour. -/
def windowHorizon : Int := 3600000

/-- A new office, with `workers` workers where the settings name no number. -/
def ofConfig (config : Config) (workers : Nat) (wall : Calendar.Moment) : Office where
  config := config
  clock := { wall := wall }
  slots := { config := config.slots }
  pool := .ofConfig config.addresses
  workers := { size := max (config.workers.maxWorkers.getD workers) 1 }
  window := { horizon := windowHorizon }

variable (o : Office)

/-- The time of day. -/
def now : Int := o.clock.wall.time

/-- The attempts in flight of a class. -/
def inFlightOf (t : TrafficClass) : Nat := o.inFlight.get t.freshLane + o.inFlight.get t.retryLane

/-- The attempts in flight of all lanes. -/
def totalInFlight : Nat := sumOf o.inFlight.toList

/-- Whether a settlement belongs to a worker's attempt or to an expiry. -/
def isBackground (s : Settlement) : Bool := s.purpose ≠ .unroutable

/-- The numbers of the waiters that go on: each has an attempt, an expiry or a settlement. -/
def waiting : List Nat :=
  o.attempts.map (·.number) ++ o.expiries.map (·.number) ++ (o.settlements.filter isBackground).map (·.number)

def isWaiting (number : Nat) : Bool := number ∈ o.waiting

def attempt? (number : Nat) : Option Attempt := o.attempts.find? (·.number = number)

def settlement? (number : Nat) : Option Settlement := o.settlements.find? (·.number = number)

/-- So many milliseconds pass. -/
def pass (ms : Nat) : Office := { o with clock := o.clock.pass ms }

/-- The counts of the days kept, and the office without older days. -/
def dailyTotals : DayCounts × Office :=
  (o.daily.totals o.now, { o with daily := o.daily.prune o.now })

/-- The days kept, oldest first, and the office without older days. -/
def dailyHistory : List (Int × DayCounts) × Office :=
  (o.daily.history o.now, { o with daily := o.daily.prune o.now })

/-- What each domain's attempts add up to over a window that the calendar can hold, and the office without old
samples. -/
def snapshot (window : Int) : Option (List DomainActivity) × Office :=
  let (rows, w) := o.window.snapshot o.now window
  (rows, { o with window := w })

end Office

end Postroom
