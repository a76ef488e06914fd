import Postroom.Count

/-!
# Retry quota

Retries share the workers with fresh work of their class. While fresh work waits, they get a share of
the class's capacity only, and a larger share once the oldest of them has waited long enough; a few
workers are always kept from them.

* `RetryQuota.limit`: how many retries of a class may be in flight.
* `RetryQuota.admits`: whether one more may start.
-/

namespace Postroom

/-- The retry quota's settings. -/
structure RetryQuota where
  /-- The share of the capacity while fresh work waits, in percent. -/
  capPercent : Nat := 30
  /-- That share once the oldest retry has aged. -/
  agedPercent : Nat := 70
  /-- The wait in milliseconds at which a retry has aged. -/
  agingThreshold : Nat := 30000
  /-- The workers kept from retries. -/
  freshReserve : Nat := 1

/-- `part` percent of `whole`, the product taken in 64 bits. -/
def percentOf (part whole : Nat) : Nat := whole * part % twoTo 64 / 100

namespace RetryQuota

/-- Whether a wait is long enough for the larger share. -/
def isAged (q : RetryQuota) (oldestWait : Option Nat) : Bool :=
  match oldestWait with
  | some wait => q.agingThreshold ≤ wait
  | none => false

/-- How many retries may be in flight at once. Never none where there is any capacity. -/
def limit (q : RetryQuota) (capacity : Nat) (freshPending : Bool) (oldestWait : Option Nat) : Nat :=
  if capacity = 0 then 0
  else
    let unreserved := capacity - q.freshReserve
    let allowed :=
      if freshPending then
        let share := if q.isAged oldestWait then q.agedPercent else q.capPercent
        min (percentOf share capacity) unreserved
      else unreserved
    max allowed 1

/-- Whether one more retry may start beside `inFlight` others. -/
def admits (q : RetryQuota) (inFlight capacity : Nat) (freshPending : Bool)
    (oldestWait : Option Nat) : Bool :=
  inFlight < q.limit capacity freshPending oldestWait

end RetryQuota

end Postroom
