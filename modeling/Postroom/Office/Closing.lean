import Postroom.Office.Attempting

/-!
# Closing

The steps by which an office shuts down: no more submissions, no new attempts, then a drain of what runs, and once
that is over or its time is up, all that sleeps and all that is queued ends as well.

* `Office.stopAccepting`, `Office.closeWorkers`, `Office.closeTimers`, `Office.emptyLanes`.
* `Drain`: a drain under way. It takes the sends out of the office and waits for them, then takes the waiters and waits
  for these, until none are left to take. Whatever it took is no other drain's concern.
* `Drain.poll`: a drain goes on as far as it can. `Drain.abort`: its time is up. `Drain.letGo`: nobody wants it any
  more.
* `Office.finishShutdown`: after the drain, the last two steps in this order.
-/

namespace Postroom

namespace Office

variable (o : Office)

/-- Take no more submissions. -/
def stopAccepting : Office := { o with accepting := false }

/-- Start no more attempts. -/
def closeWorkers : Office := { o with workers := { o.workers with closed := true } }

/-! ## Sends and waiters -/

/-- The sends begun since the last drain are in other hands. -/
def takeSends : Office := { o with workers := { o.workers with sends := [] } }

/-- The waiters begun since the last drain are in other hands. -/
def takeWaiters : Office := { o with workers := { o.workers with waiters := [] } }

/-- Sends are broken off; their waiters learn that no report will come. -/
def abortSends (numbers : List Nat) : Office :=
  (numbers.filter o.workers.isSending).foldl (fun o n => o.sendEnded n (.error Fault.workerLost)) o

end Office

/-- A drain under way. -/
inductive Drain where
  /-- It waits for these sends. -/
  | sends (taken : List Nat)
  /-- It waits for these waiters, before it looks for more. -/
  | waiters (taken : List Nat)
  deriving DecidableEq

namespace Drain

variable (o : Office)

/-- A drain begins with the sends. -/
def begin : Drain × Office := (.sends o.workers.sends, o.takeSends)

/-- Something that a drain took goes on. -/
def isBlocked : Drain → Bool
  | .sends taken => taken.any o.workers.isSending
  | .waiters taken => taken.any o.isWaiting

/-- Take the waiters that began meanwhile. Where all of them have ended, a further look finds none to take, and the
drain is over. -/
def look : Option Drain × Office :=
  (if o.workers.waiters.any o.isWaiting then some (.waiters o.workers.waiters) else none, o.takeWaiters)

/-- A drain goes on as far as it can; nothing is left of it when it is over. -/
def poll (d : Drain) : Option Drain × Office := if d.isBlocked o then (some d, o) else look o

/-- What a drain took is broken off when it is let go of. -/
def letGo : Drain → Office
  | .sends taken => o.abortSends taken
  | .waiters taken => o.abandon taken

/-- The time of a drain is up: what it took is broken off, and so are all waiters that nobody took. -/
def abort (d : Drain) : Office := (d.letGo o).abandon o.workers.waiters

end Drain

namespace Office

variable (o : Office)

/-! ## What sleeps and what is queued -/

/-- Close the timers; all that sleeps ends. -/
def closeTimers : Office :=
  let (sleepers, timers) := o.timers.close
  failAll { o with timers := timers } (sleepers.map (·.task)) .shutdown

/-- Empty the lanes; all that is queued ends. How many tasks there were. -/
def emptyLanes : Nat × Office :=
  let (queued, o) := o.withdraw fun _ => true
  (queued.length, o.failAll queued .shutdown)

/-- After the attempts: end all that sleeps, then all that is queued. -/
def finishShutdown : Nat × Office := o.closeTimers.emptyLanes

end Office

end Postroom
