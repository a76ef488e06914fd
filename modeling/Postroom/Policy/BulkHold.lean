import Postroom.Policy.RetryQuota

/-!
# Bulk hold

While realtime work waits, bulk work is held back, though not for ever. When the hold ends, bulk work
comes back slowly: for some ticks each tick may start only a few batches of it.

* `BulkBudget`: how many bulk batches a tick may start.
* `BulkHold.next`: the budget of the next tick, and the state after it.
-/

namespace Postroom

/-- The bulk hold's settings. -/
structure HoldConfig where
  /-- The longest hold in milliseconds; where absent, two ticks. -/
  maxHold : Option Nat := none
  /-- The budget of a smoothing tick, in percent of the workers. -/
  smoothingPercent : Nat := 20
  /-- The number of smoothing ticks. -/
  smoothingTicks : Nat := 5

namespace HoldConfig

/-- The longest hold where a tick takes `tick` milliseconds. -/
def longest (c : HoldConfig) (tick : Nat) : Nat := c.maxHold.getD (tick * 2)

/-- The budget of a smoothing tick. -/
def smoothingBudget (c : HoldConfig) (workers : Nat) : Nat :=
  max (percentOf c.smoothingPercent workers) 1

end HoldConfig

/-- How many bulk batches one tick may start. -/
inductive BulkBudget where
  | unlimited
  | limited (n : Nat)
  deriving DecidableEq

/-- Whether another bulk batch fits after `started` in this tick. -/
def BulkBudget.allows : BulkBudget → Nat → Bool
  | unlimited, _ => true
  | limited n, started => started < n

/-- What is carried from tick to tick. -/
structure BulkHold where
  /-- When the present stretch of waiting realtime work began, on the monotonic clock. -/
  since : Option Nat := none
  /-- Smoothing ticks still to come. -/
  smoothingLeft : Nat := 0

namespace BulkHold

/-- A tick that is not held: one of the smoothing ticks, or free. -/
def smooth (h : BulkHold) (c : HoldConfig) (workers : Nat) : BulkBudget × BulkHold :=
  if h.smoothingLeft = 0 then (.unlimited, h)
  else (.limited (c.smoothingBudget workers), { h with smoothingLeft := h.smoothingLeft - 1 })

/-- The budget of a tick at `now`, and the state after it. -/
def next (h : BulkHold) (c : HoldConfig) (now : Nat) (realtimePending : Bool) (longest workers : Nat) :
    BulkBudget × BulkHold :=
  if realtimePending then
    let start := h.since.getD now
    if now - start < longest then
      (.limited 0, { since := some start, smoothingLeft := c.smoothingTicks })
    else smooth { h with since := some start } c workers
  else if h.since.isSome then smooth { since := none, smoothingLeft := c.smoothingTicks } c workers
  else smooth h c workers

def isHolding (h : BulkHold) : Bool := h.since.isSome

end BulkHold

end Postroom
