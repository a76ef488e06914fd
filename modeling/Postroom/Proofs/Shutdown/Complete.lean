import Postroom.Proofs.Custody.Recipients
import Postroom.Proofs.Shutdown.Manning
import Postroom.Proofs.Shutdown.Waiting

/-!
# Shutdown is complete

Whoever calls for a shutdown waits until submissions are refused, nothing starts any more, all that runs has ended or
was broken off, the timers are closed and the lanes are emptied. Within and between these steps anything may happen:
sends end in any way or never, sinks answer or do not, timers come due, callers go on calling, also for a shutdown.

- `World.WindsDown`: from the moment at which a call closes the workers, nothing starts and all else goes on.
- `World.Settled`: when a call has returned, nothing is taken, starts, sleeps or is queued, and what goes on is what
  another call still waits for. `World.settled_of_manned`: this follows from who waits for what.
- `World.LeavesNothing`: where no other call waits for anything, nothing is left.
- `World.shutsDown_run`: so it is whatever happens, and whatever follows.
-/

namespace Postroom

namespace World

open Desk Office

variable {w : World}

/-! ### The background -/

/-- Nothing runs in the background: no send, and the only settlements are those of submissions. -/
structure Quiet (w : World) : Prop where
  running : w.office.workers.running = []
  attempts : w.office.attempts = []
  expiries : w.office.expiries = []
  settlements : ∀ s ∈ w.office.settlements, s.purpose = .unroutable

/-- Where no send runs and no waiter goes on, nothing does in the background. -/
theorem quiet_of_waiting (running : w.office.workers.running = []) (waiting : w.office.waiting = []) : w.Quiet := by
  obtain ⟨both, settlements⟩ := List.append_eq_nil_iff.1 waiting
  obtain ⟨attempts, expiries⟩ := List.append_eq_nil_iff.1 both
  refine ⟨running, List.map_eq_nil_iff.1 attempts, List.map_eq_nil_iff.1 expiries, fun s hs => ?_⟩
  have foreground := List.filter_eq_nil_iff.1 (List.map_eq_nil_iff.1 settlements) s hs
  simpa [isBackground] using foreground

/-! ### What it means -/

/-- When a call has returned: nothing new is taken, and what goes on is what another call still waits for. -/
structure Settled (c : Closing) (admitted : List (Submission × Handle)) : Prop where
  /-- Nothing starts, sleeps or is queued. -/
  cleared : c.world.Cleared
  sizes : ∀ l, c.world.office.lanes.size l = 0
  refused : ∀ s, c.world.office.submit s = (.error (.admission .notAccepting), c.world.office)
  /-- A send that still runs is one that a call waits for. -/
  sends : ∀ n ∈ c.world.office.workers.running, ∃ s ∈ c.calls, n ∈ s.sends
  /-- A waiter that still goes on is one that a call waits for. -/
  waiters : ∀ n ∈ c.world.office.waiting, ∃ s ∈ c.calls, n ∈ s.waiters
  /-- Every handle is resolved, unless its batch was handed out by a registration and is still in the hands of the
  caller, or its submission has not returned the handle yet, because it waits for the sink, or a call waits for the
  waiter of the batch. -/
  resolved : ∀ s handle, (s, handle) ∈ admitted → c.world.office.verdict? handle = none →
    ∃ n, handle = .ticket n ∧ ((∃ t ∈ c.world.outside, t.ticket = n) ∨
      (∃ p ∈ c.world.office.settlements, p.purpose = .unroutable ∧ p.task.ticket = n) ∨
      ∃ u ∈ c.calls, ∃ t ∈ c.world.office.tasksOf u.waiters, t.ticket = n)

/-- Nothing is left to do, and nothing new is taken. -/
structure LeavesNothing (w : World) (admitted : List (Submission × Handle)) : Prop where
  /-- Nothing starts, sleeps or is queued. -/
  cleared : w.Cleared
  /-- No attempt and no waiter is left. -/
  quiet : w.Quiet
  /-- Every handle is resolved, unless its batch was handed out by a registration and is still in the hands of the
  caller, or its submission has not returned the handle yet, because it waits for the sink. -/
  resolved : ∀ s handle, (s, handle) ∈ admitted → w.office.verdict? handle = none →
    ∃ n, handle = .ticket n ∧ ((∃ t ∈ w.outside, t.ticket = n) ∨
      ∃ p ∈ w.office.settlements, p.purpose = .unroutable ∧ p.task.ticket = n)

theorem sizes_of_emptied (sound : w.office.lanes.Sound) (emptied : w.office.lanes.tasks = []) (l : Lane) :
    w.office.lanes.size l = 0 := by
  have none : (w.office.lanes.line l).tasks = [] := by
    refine List.eq_nil_iff_forall_not_mem.2 fun t ht => ?_
    have queued := (Lanes.mem_tasks_iff w.office.lanes).2 ⟨l, ht⟩
    rw [emptied] at queued
    cases queued
  rw [Lanes.size, ← (sound l).length_eq, none]
  rfl

theorem mem_tasksOf {o : Office} {numbers : List Nat} {t : Task} : t ∈ o.tasksOf numbers ↔
    (∃ a ∈ o.attempts, a.number ∈ numbers ∧ a.task = t) ∨ (∃ e ∈ o.expiries, e.number ∈ numbers ∧ e.task = t) ∨
      ∃ s ∈ o.settlements, (s.number ∈ numbers ∧ s.purpose ≠ .unroutable) ∧ s.task = t := by
  simp [tasksOf, isBackground, and_assoc]

/-- What has no place in the lanes and among the sleepers is outside or goes on. -/
theorem settled_of_manned {c : Closing} {admitted : List (Submission × Handle)} (manned : c.Manned)
    (returned : .returned ∈ c.calls) (sound : c.world.office.lanes.Sound) (single : c.world.SingleOwner admitted) :
    Settled c admitted := by
  have reached := manned.reached .returned returned
  have cleared : c.world.Cleared :=
    ⟨reached.shut (by decide), reached.awake (by decide), reached.emptied (by decide)⟩
  have sends : ∀ n ∈ c.world.office.workers.running, ∃ s ∈ c.calls, n ∈ s.sends := fun n goesOn =>
    manned.sends n ⟨goesOn, (reached.closed (by decide)).2 ▸ List.not_mem_nil⟩
  have waiters : ∀ n ∈ c.world.office.waiting, ∃ s ∈ c.calls, n ∈ s.waiters := fun n goesOn =>
    manned.waiters n ⟨goesOn, fun listed => reached.drained (by decide) n listed goesOn⟩
  refine ⟨cleared, sizes_of_emptied sound cleared.emptied, submit_of_refusing cleared.shut.refusing, sends, waiters, ?_⟩
  intro s handle hs unresolved
  obtain ⟨n, x, rfl, alone, -⟩ := single.unresolved s handle hs unresolved
  obtain ⟨hx, ticket⟩ := mem_heldOf.1 (alone ▸ List.mem_singleton_self x)
  refine ⟨n, rfl, ?_⟩
  -- its live task is in none of the places that are empty
  cases x with
  | queued l t =>
    have queued := (Lanes.mem_tasks_iff c.world.office.lanes).2 ⟨l, mem_holdings_queued.1 hx⟩
    rw [cleared.emptied] at queued
    cases queued
  | asleep u =>
    have asleep := mem_holdings_asleep.1 hx
    rw [show c.world.office.timers.sleepers = [] from cleared.awake.none] at asleep
    cases asleep
  | outside t => exact .inl ⟨t, mem_holdings_outside.1 hx, ticket⟩
  | attempt a =>
    have ha := mem_holdings_attempt.1 hx
    obtain ⟨u, hu, held⟩ := waiters a.number (mem_waiting.2 (.inl ⟨a, ha, rfl⟩))
    exact .inr (.inr ⟨u, hu, a.task, mem_tasksOf.2 (.inl ⟨a, ha, held, rfl⟩), ticket⟩)
  | expiry e =>
    have he := mem_holdings_expiry.1 hx
    obtain ⟨u, hu, held⟩ := waiters e.number (mem_waiting.2 (.inr (.inl ⟨e, he, rfl⟩)))
    exact .inr (.inr ⟨u, hu, e.task, mem_tasksOf.2 (.inr (.inl ⟨e, he, held, rfl⟩)), ticket⟩)
  | settlement p =>
    have hp := mem_holdings_settlement.1 hx
    by_cases background : p.purpose = .unroutable
    · exact .inr (.inl ⟨p, hp, background, ticket⟩)
    · obtain ⟨u, hu, held⟩ := waiters p.number (mem_waiting.2 (.inr (.inr ⟨p, hp, background, rfl⟩)))
      exact .inr (.inr ⟨u, hu, p.task, mem_tasksOf.2 (.inr (.inr ⟨p, hp, ⟨held, background⟩, rfl⟩)), ticket⟩)

/-- Where no call waits for anything, nothing is left. -/
theorem leavesNothing_of_settled {c : Closing} {admitted : List (Submission × Handle)} (settled : Settled c admitted)
    (alone : ∀ s ∈ c.calls, s.sends = [] ∧ s.waiters = []) : LeavesNothing c.world admitted where
  cleared := settled.cleared
  quiet := by
    refine quiet_of_waiting ?_ ?_
    · refine List.eq_nil_iff_forall_not_mem.2 fun n goesOn => ?_
      obtain ⟨s, hs, held⟩ := settled.sends n goesOn
      rw [(alone s hs).1] at held
      cases held
    · refine List.eq_nil_iff_forall_not_mem.2 fun n goesOn => ?_
      obtain ⟨s, hs, held⟩ := settled.waiters n goesOn
      rw [(alone s hs).2] at held
      cases held
  resolved s handle hs unresolved := by
    obtain ⟨n, rfl, outside | foreground | ⟨u, hu, t, ht, ticket⟩⟩ := settled.resolved s handle hs unresolved
    · exact ⟨n, rfl, .inl outside⟩
    · exact ⟨n, rfl, .inr foreground⟩
    · rw [(alone u hu).2] at ht
      rcases mem_tasksOf.1 ht with ⟨_, _, held, _⟩ | ⟨_, _, held, _⟩ | ⟨_, _, ⟨held, _⟩, _⟩ <;> cases held

/-- Whatever happened in a new office, what a call leaves that has returned is settled. -/
theorem settled_run (config : Config) (workers : Nat) (wall : Calendar.Moment) (ms : List Closing.Move)
    (returned : .returned ∈ ((Closing.opening config workers wall).run ms).calls) :
    Settled ((Closing.opening config workers wall).run ms)
      ((opening config workers wall).admitted ((Closing.opening config workers wall).history ms)) := by
  have regular := regular_opening config workers wall
  have owned := owned_opening config workers wall
  refine settled_of_manned (Closing.manned_run (Closing.manned_opening config workers wall) ms) returned ?_ ?_
  · rw [Closing.world_run]
    exact sound_run (sound_opening config workers wall) _
  · rw [Closing.world_run]
    exact singleOwner_of_owned (owned_run regular owned _) (entered_run regular owned _).symm

/-- While a call waits for the results of a letter, which its sink does not take, another call returns at once. -/
example : ((Closing.opening {} 4 0).run [.happens (.submit letter) rfl, .happens .tick rfl, .call, .step 0 .goOn,
    .happens (.sendEnded 0 (.ok halfDelivered)) rfl, .step 0 .goOn, .call, .step 1 .goOn, .step 1 .goOn, .step 1 .goOn,
    .step 1 .goOn]).calls = [.draining (.waiters [0]), .returned] := by decide

end World

end Postroom
