import Postroom.Office.Closing
import Postroom.Office.Submission
import Postroom.Office.Tick
import Postroom.Rehearsal.Script

/-!
# Rehearsals

A rehearsal is an office with scripted other sides and a clock that moves only when told. It shows
how an office runs when nothing is left to chance: each job that can go on does so at once, in the
order in which they became able to.

* `Rehearsal`: the office with all that surrounds it.
* `Entry`: what is noted in the log.
-/

namespace Postroom

/-- A sink, which may refuse records after a number of them, or never answer. -/
structure ScriptedSink where
  /-- The records it accepts before it refuses. -/
  accepts : Option Nat := none
  /-- The text of its refusals. -/
  message : String := "refused"
  stalls : Bool := false
  /-- The records it was asked to keep. -/
  records : Nat := 0

/-- What is noted in the log. -/
inductive Entry where
  /-- A send of a batch has begun. -/
  | sent (id : BatchId) (source : IpAddress)
  | act (a : Act)
  /-- A sink was asked to keep a result. -/
  | record (sink : String) (task : Task) (result : RecipientResult)
  /-- A piece of other work is done. -/
  | worked (name : String)

/-- A piece of other work given to a worker. -/
inductive Work where
  /-- Under way, with the number under which it was given. -/
  | running (number : Nat)
  /-- Done, with an output that has not been asked for. -/
  | done (output : Nat)
  /-- Asked for, or let go of. -/
  | gone

/-- What waits to be let go on. -/
inductive Parked where
  /-- The send of an attempt. -/
  | send (number : Nat)
  /-- A piece of other work. -/
  | work (name : String) (number : Nat)

/-- A handle and its name. -/
structure NamedHandle where
  name : String
  handle : Handle
  /-- Its end has been told. -/
  told : Bool := false

/-- A send that waits for its session to begin. -/
structure DelayedSend where
  due : Nat
  number : Nat

/-- An office with all that surrounds it. -/
structure Rehearsal where
  office : Office
  /-- The time of day at the beginning. -/
  start : Int
  script : Script := {}
  sinks : Table String ScriptedSink := .empty
  /-- The time of day stands still, and sends begin with their sessions. -/
  plain : Bool := false
  /-- The log since the last look, the newest first. -/
  log : List Entry := []
  delayed : List DelayedSend := []
  /-- By the name under which each is let go on. -/
  parked : List (String × Parked) := []
  /-- How many may go on under each name without waiting. -/
  passes : Table String Nat := .empty
  /-- When the next tick of the background comes, on the monotonic clock. -/
  nextTick : Option Nat := none
  handles : List NamedHandle := []
  /-- The tasks outside the office. -/
  held : Table String Task := .empty
  permits : Table String Permit := .empty
  works : Table String Work := .empty

namespace Rehearsal

variable (b : Rehearsal)

/-- A rehearsal of an office with these settings. -/
def ofConfig (config : Config) (start : Calendar.Moment) : Rehearsal where
  office := .ofConfig config 4 start
  start := start.time

def note (e : Entry) : Rehearsal := { b with log := e :: b.log }

/-- Change the office. -/
def withOffice (f : Office → Office) : Rehearsal := { b with office := f b.office }

/-- A time of day, counted from the beginning. -/
def sinceStart (time : Int) : Int := time - b.start

/-- The log since the last look, and a rehearsal with an empty one. -/
def takeLog : List Entry × Rehearsal := (b.log.reverse, { b with log := [] })

/-- The handles that ended since the last look, in the order of submission. -/
def takeEnded : List (String × Verdict) × Rehearsal :=
  let ended := b.handles.filterMap fun h =>
    if h.told then none else (b.office.verdict? h.handle).map fun v => (h.name, v)
  let handles := b.handles.map fun h =>
    { h with told := h.told || (b.office.verdict? h.handle).isSome }
  (ended, { b with handles := handles })

end Rehearsal

end Postroom
