import Mathlib.Data.List.Basic
import Postroom.Office.Closing
import Postroom.Office.Tick
import Postroom.Proofs.Runs.Records

/-!
# What moving tasks leaves alone

Putting tasks into lanes, taking them out, sending them to sleep and ending their batches changes lanes,
timers, ledger, waits, draws, statistics and metrics. All the rest of an office, its attempts and settlements, its
resources and its runs, stays as it is.

- `Office.frame`: an office without the parts that such operations change.
- `Office.frame_fail` and the like: each of these operations leaves the frame as it is.
- `Office.frame_abortRun` and the like: of the frame, the end of a run changes the registry alone.
-/

namespace Postroom.Office

variable {o o' : Office}

/-- An office without lanes, timers, ledger, waits, draws, statistics and metrics. -/
def frame (o : Office) : Office :=
  { o with
    lanes := {}
    waits := {}
    daily := {}
    window := { horizon := 0 }
    metrics := {}
    ledger := {}
    timers := {}
    draws := []
    nextNumber := 0 }

theorem frame_conclude (t : Task) (v : Verdict) : (o.conclude t v).frame = o.frame := by
  unfold conclude
  dsimp only
  split <;> rfl

theorem frame_complete (t : Task) : (o.complete t).frame = o.frame := frame_conclude t _

theorem frame_fail (t : Task) (cause : Fault) : (o.fail t cause).frame = o.frame := frame_conclude t _

theorem frame_failAll (ts : List Task) (cause : Fault) : (o.failAll ts cause).frame = o.frame := by
  induction ts generalizing o with
  | nil => rfl
  | cons t ts ih => exact (ih (o := o.fail t cause)).trans (frame_fail t cause)

theorem frame_publishDepths (ls : List Lane) : (ls.foldl publishDepth o).frame = o.frame := by
  induction ls generalizing o with
  | nil => rfl
  | cons l ls ih => exact ih (o := o.publishDepth l)

theorem frame_poll? {l : Lane} {excluded : List Domain} {t : Task}
    (h : o.poll? l excluded = some (t, o')) : o'.frame = o.frame := by
  obtain ⟨_, _, he⟩ := Option.map_eq_some_iff.1 h
  cases he
  rfl

theorem frame_nextTask? {bulk : BulkBudget} {n : Nat} {excluded : List Domain} {t : Task}
    (h : o.nextTask? bulk n excluded = some (t, o')) : o'.frame = o.frame := by
  obtain ⟨l, -, hl⟩ := List.exists_of_findSome?_eq_some h
  split at hl
  · exact frame_poll? hl
  · cases hl

theorem frame_withdraw (p : Task → Bool) : (o.withdraw p).2.frame = o.frame := frame_publishDepths _

theorem frame_requeue (t : Task) : (o.requeue t).frame = o.frame := by
  unfold requeue
  split
  · rfl
  · exact frame_fail t _

theorem frame_sleep (delay : Nat) (t : Task) : (o.sleep delay t).frame = o.frame := by
  unfold sleep
  split
  · exact frame_fail t _
  · rfl

theorem frame_wake (n : Nat) : (o.wake n).frame = o.frame := by
  unfold wake
  split
  · rfl
  · split
    · exact frame_requeue _
    · rfl

theorem frame_scheduleRetry (t : Task) (kept : List Recipient) :
    (o.scheduleRetry t kept).frame = o.frame := frame_sleep _ _

theorem frame_shortage (t : Task) : (o.shortage t).2.frame = o.frame := by
  unfold shortage
  dsimp only
  split
  · exact frame_sleep (o := (o.waitSince t).2.draw.2) _ _
  · split
    · exact frame_scheduleRetry _ _
    · rfl

theorem frame_conclusionOfAttempt (t : Task) (kept : List Recipient) :
    (o.conclusionOfAttempt t kept).frame = o.frame := by
  unfold conclusionOfAttempt
  split
  · exact frame_fail t _
  · split
    · exact frame_complete t
    · exact frame_scheduleRetry t kept

theorem frame_dropAll (ts : List Task) : (ts.foldl drop o).frame = o.frame := by
  rw [foldl_drop]
  rfl

/-- Of the frame, waiters that are let go of take what they waited for, and nothing else. -/
theorem frame_abandon (o : Office) (numbers : List Nat) : (o.abandon numbers).frame = frame { o with
    attempts := o.attempts.filter (·.number ∉ numbers)
    expiries := o.expiries.filter (·.number ∉ numbers)
    settlements := o.settlements.filter fun s => !(s.number ∈ numbers && isBackground s) } := by
  unfold abandon
  rw [foldl_drop]
  rfl

theorem frame_closeTimers : o.closeTimers.frame = o.frame := frame_failAll _ _

theorem frame_emptyLanes : o.emptyLanes.2.frame = o.frame :=
  (frame_failAll _ _).trans (frame_withdraw _)

/-! ### The end of a run -/

theorem frame_abortRun (t : Task) (cause : Fault) : (o.abortRun t cause).2.frame =
    frame { o with registry := o.registry.noteEnd (t.runner.map (·, cause)) } := by
  unfold abortRun
  split
  · next none => rw [none]; rfl
  · next runner hr =>
    rw [hr, Option.map_some, Registry.noteEnd]
    split
    · next done => rw [done]; rfl
    · next registry noted =>
      rw [noted]
      exact (frame_failAll _ _).trans (frame_withdraw _)

theorem frame_abortAndFail (t : Task) (cause : Fault) : (o.abortAndFail t cause).frame =
    frame { o with registry := o.registry.noteEnd (t.runner.map (·, cause)) } :=
  (frame_fail t _).trans (frame_abortRun t cause)

/-- The run that a failed send ends, and why. -/
def endedByFault (t : Task) (cause : Fault) : Option (Runner × Fault) :=
  if cause.isPersistence then t.runner.map (·, cause) else none

theorem frame_failAttempt (t : Task) (cause : Fault) : (o.failAttempt t cause).frame =
    frame { o with registry := o.registry.noteEnd (endedByFault t cause) } := by
  unfold failAttempt endedByFault
  split
  · exact frame_abortAndFail t cause
  · split
    · exact frame_fail t _
    · split
      · exact frame_scheduleRetry t _
      · exact frame_fail t _

/-! ### Permits -/

/-- Of the frame, a permit takes from the slots and the pool alone. -/
theorem frame_acquire? {t : Task} {p : Permit} (h : o.acquire? t = some (p, o')) :
    o'.frame = frame { o with slots := o'.slots, pool := o'.pool } := by
  obtain ⟨⟨slot, slots⟩, -, h⟩ := Option.bind_eq_some_iff.1 h
  obtain ⟨⟨lease, pool⟩, -, h⟩ := Option.bind_eq_some_iff.1 h
  cases h
  rfl

end Postroom.Office
