import Postroom.Office.Queueing

/-!
# Delays, permits and shortages

Tasks that sleep before they go back into a lane, and the resources without which no attempt starts.

* `Office.sleep`, `Office.wake`: put a task to sleep, put it back into its lane.
* `Office.scheduleRetry`: the retry of some recipients, after the backoff.
* `Office.tryAcquire`, `Office.releasePermit`: take all resources of a task or none, and give them back.
  `Office.acquire?` is the same in one step.
* `Office.shortage`: what becomes of a task that got none. `Office.requeueDelay`: how long it sleeps.
-/

namespace Postroom.Office

variable (o : Office)

/-- Put a task to sleep for so many milliseconds, unless the timers are closed. -/
def sleep (delay : Nat) (t : Task) : Office :=
  if o.timers.closed then o.fail t .shutdown
  else
    { o with
      timers := o.timers.add ⟨o.nextNumber, o.clock.uptime + delay, t⟩
      nextNumber := o.nextNumber + 1 }

/-- A sleeper whose time has come wakes: its task goes back into its lane. -/
def wake (number : Nat) : Office :=
  match o.timers.take? number with
  | none => o
  | some (s, timers) =>
    if s.due ≤ o.clock.uptime then requeue { o with timers := timers } s.task else o

/-- Schedule a retry of `t` for `recipients`, each of which is retried once more. -/
def scheduleRetry (t : Task) (recipients : List Recipient) : Office :=
  let retry := t.retry (recipients.map fun r => { r with retries := r.retries + 1 })
  let o := { o with
    waits := o.waits.clear t.id
    metrics := o.metrics.retryScheduled retry.lane }
  o.sleep (o.config.retry.delay retry.retries) retry

/-! ## Permits -/

/-- Take the slot that `t` needs, if it needs one; none where it needs one and none is free. -/
def acquireSlot? (t : Task) : Option (Option TrafficClass × SlotGroups) :=
  if t.batch.message.hasAttachment && o.slots.isLimited t.traffic then
    (o.slots.acquire? t.traffic).map fun g => (some t.traffic, g)
  else some (none, o.slots)

/-- Take every resource that `t` needs, one after the other. Where no address can be leased, the slot goes
back. -/
def tryAcquire (t : Task) : Option Permit × Office :=
  match o.acquireSlot? t with
  | none => (none, o)
  | some (slot, slots) =>
    match o.pool.acquire? o.now t.domain with
    | none => (none, { o with slots := slot.elim slots slots.release })
    | some (lease, pool) =>
      (some ⟨lease, slot⟩, { o with slots := slots, pool := pool, waits := o.waits.clear t.id })

/-- Take every resource that `t` needs, or none of them. -/
def acquire? (t : Task) : Option (Permit × Office) := do
  let (slot, slots) ← o.acquireSlot? t
  let (lease, pool) ← o.pool.acquire? o.now t.domain
  some (⟨lease, slot⟩, { o with slots := slots, pool := pool, waits := o.waits.clear t.id })

/-- A slot that was taken and goes back leaves the slots as they were. -/
theorem slots_of_acquireSlot? {t : Task} {slot : Option TrafficClass} {slots : SlotGroups}
    (h : o.acquireSlot? t = some (slot, slots)) : slot.elim slots slots.release = o.slots := by
  unfold acquireSlot? at h
  split at h
  · obtain ⟨g, taken, same⟩ := Option.map_eq_some_iff.1 h
    cases same
    exact SlotGroups.release_of_acquire? taken
  · cases h
    rfl

/-- Either all is taken, or all is as it was. -/
theorem tryAcquire_eq (t : Task) : o.tryAcquire t = match o.acquire? t with
    | none => (none, o)
    | some (permit, o) => (some permit, o) := by
  unfold tryAcquire acquire?
  cases slot : o.acquireSlot? t with
  | none => rfl
  | some taken =>
    cases lease : o.pool.acquire? o.now t.domain with
    | none =>
      have back : ({ o with slots := taken.1.elim taken.2 taken.2.release } : Office) = o :=
        congrArg (fun g => { o with slots := g }) (o.slots_of_acquireSlot? slot)
      exact congrArg (Prod.mk none) back
    | some leased => rfl

/-- Give back all that a permit holds. -/
def releasePermit (p : Permit) : Office :=
  { o with
    pool := o.pool.release p.lease
    slots := match p.slot with
      | some t => o.slots.release t
      | none => o.slots }

/-! ## Shortages -/

/-- What becomes of a task that got no permit. -/
inductive Shortage where
  /-- It goes back into its lane after so many milliseconds. -/
  | requeued (delay : Nat)
  /-- It waited too long and is retried. -/
  | retried
  /-- It waited too long and may not be retried any more. -/
  | expired (task : Task)

/-- When the wait of `t` began, which is now if it had not begun. -/
def waitSince (t : Task) : Int × Office :=
  let (start, waits) := o.waits.since t.id t.runnerId o.now
  (start, { o with waits := waits })

/-- How long a task waits before it goes back into its lane, where `draw` is what was drawn for it. Delays have 64
bits. -/
def requeueDelay (c : WaitConfig) (draw : Nat) : Nat := min (c.requeueBase + min draw c.requeueJitter) (twoTo 64 - 1)

/-- What is drawn for the next delay, and the office with one draw less before it. -/
def draw : Nat × Office := (o.draws.headD 0, { o with draws := o.draws.tail })

/-- Decide about a task that got no permit. -/
def shortage (t : Task) : Shortage × Office :=
  let (start, o) := o.waitSince t
  if o.config.wait.lastsFor (o.now - start) then
    let delay := requeueDelay o.config.wait o.draw.1
    (.requeued delay, o.draw.2.sleep delay t)
  else
    let o := { o with waits := o.waits.clear t.id }
    if o.config.retry.hasBudget t.retries then (.retried, o.scheduleRetry t t.recipients)
    else (.expired t, o)

end Postroom.Office
