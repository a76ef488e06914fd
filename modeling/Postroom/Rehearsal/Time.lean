import Postroom.Rehearsal.Running

/-!
# Time

How time passes in a rehearsal. It jumps from one due time to the next; what is due at a moment
happens then: delays end, the background ticks, sleepers wake.

* `Rehearsal.advance`: so many milliseconds pass.
* `Rehearsal.drain`: time passes until nothing runs any more, but not for ever. `Rehearsal.abort`: what follows then.
* `Rehearsal.serve`, `Rehearsal.shutdown`: background ticks, and the end of all.
-/

namespace Postroom.Rehearsal

variable (b : Rehearsal)

/-- So many milliseconds pass without anything happening. -/
def elapse (ms : Nat) : Rehearsal :=
  b.withOffice fun o =>
    if b.plain then { o with clock := { o.clock with uptime := o.clock.uptime + ms } } else o.pass ms

/-- The next tick of the background is due at `now`. -/
def tickAt (now : Nat) : Rehearsal :=
  if b.nextTick = some now then
    { b.cycle.2 with nextTick := some (now + b.office.config.workers.tick) }
  else b

/-- What is due at `now` happens. -/
def moment (now : Nat) : Rehearsal :=
  let ended := (b.delayed.filter (·.due ≤ now)).mergeSort fun x y => x.due ≤ y.due
  let b := { b with delayed := b.delayed.filter (now < ·.due) }
  ((b.settle (ended.map fun d => .afterDelay d.number)).tickAt now).settle []

/-- The first time after `now` at which something is due. -/
def nextDue (now : Nat) : Option Nat :=
  ((b.delayed.map (·.due) ++ b.office.timers.sleepers.map (·.due) ++ b.nextTick.toList).filter
    (now < ·)).min?

/-- Time passes from `now` to `target`. -/
def advanceFrom (b : Rehearsal) (now target : Nat) : Rehearsal :=
  match b.nextDue now with
  | some due =>
    if now < due ∧ due ≤ target then advanceFrom ((b.elapse (due - now)).moment due) due target
    else b.elapse (target - now)
  | none => b.elapse (target - now)
termination_by target - now

/-- So many milliseconds pass. -/
def advance (ms : Nat) : Rehearsal :=
  advanceFrom b b.office.clock.uptime (b.office.clock.uptime + ms)

/-- The time of day is set forwards or back. -/
def setWall (ms : Int) : Rehearsal :=
  if b.plain then b else b.withOffice fun o => { o with clock := o.clock.shift ms }

/-! ## Background -/

/-- Begin to tick in the background, unless this is done already. -/
def serve : Rehearsal :=
  if b.nextTick.isSome then b
  else { b with nextTick := some (b.office.clock.uptime + b.office.config.workers.tick) }

/-! ## The end -/

/-- Time passes from `now` until a drain is over, at most until `deadline`; what is left of the drain. -/
def drainFrom (d : Drain) (b : Rehearsal) (now deadline : Nat) : Option Drain × Rehearsal :=
  match d.poll b.office with
  | (none, o) => (none, { b with office := o })
  | (some d, o) =>
    let b := { b with office := o }
    match b.nextDue now with
    | some due =>
      if now < due ∧ due ≤ deadline then
        drainFrom d ((b.elapse (due - now)).moment due) due deadline
      else (some d, b.elapse (deadline - now))
    | none => (some d, b.elapse (deadline - now))
termination_by deadline - now

/-- The time of a drain is up. The sends and the pieces of work that it broke off go on no more. -/
def abort (d : Drain) : Rehearsal :=
  let b := b.withOffice (Drain.abort · d)
  let workers := b.office.workers
  { b with
    works := ⟨b.works.entries.map fun e => match e.2 with
      | .running n => (e.1, if workers.isSending n then e.2 else .gone)
      | w => (e.1, w)⟩
    delayed := b.delayed.filter fun s => workers.isSending s.number
    parked := b.parked.filter fun e => match e.2 with
      | .send n | .work _ n => workers.isSending n }

/-- Drain the office in at most so many milliseconds; whether that was enough. -/
def drain (ms : Nat) : Bool × Rehearsal :=
  let (d, o) := Drain.begin b.office
  match drainFrom d { b with office := o } b.office.clock.uptime (b.office.clock.uptime + ms) with
  | (none, b) => (true, b)
  | (some d, b) => (false, b.abort d)

/-- Shut down: start nothing more, wait for what runs, end all that sleeps or is queued. How many
tasks were queued. -/
def shutdown : Nat × Rehearsal :=
  let b := { b.withOffice (·.closeWorkers) with nextTick := none }
  let (_, b) := b.drain (b.office.config.workers.shutdownTimeoutSeconds * 1000)
  let (queued, o) := b.office.finishShutdown
  (queued, { b with office := o })

end Postroom.Rehearsal
