import Postroom.Proofs.Desk.Course
import Postroom.Proofs.Shutdown.Crew

/-!
# What stays empty

Behind closed gates nothing is taken and nothing starts, and once the timers are closed nothing sleeps. So empty
lanes stay empty where both is the case, which is why an office is shut down in this order.

- `Desk.Awake`, `World.awake_after`: the timers are closed and nobody sleeps, and it stays so.
- `World.emptied_after`: behind closed gates, where nobody sleeps, empty lanes stay empty.
- `World.Cleared`, `World.cleared_run`: the gates are closed, and the timers and the lanes empty, after every history.
- `Shutdown`, `World.cleared_of_shutdown`: so it is at the end of every course of a shutdown.
-/

namespace Postroom

/-! ### Timers and lanes -/

namespace Desk

variable {d : Desk}

/-- The timers are closed, and nobody sleeps. -/
structure Awake (d : Desk) : Prop where
  closed : d.timers.closed = true
  none : d.timers.sleepers = []

theorem awake_after (awake : d.Awake) (x : Deed) : (d.after x).Awake := by
  have same : ∀ e : Desk, e.timers = d.timers → e.Awake := fun e he => ⟨he ▸ awake.closed, he ▸ awake.none⟩
  cases x with
  | conclude n v => exact same _ (timers_conclude d n v)
  | sleep s => exact same _ (if_pos awake.closed)
  | purge p cause => exact same _ (timers_concludeAll ..)
  | rouse n =>
    refine same _ ?_
    rw [after, Timers.take?, awake.none]
    rfl
  | close =>
    have timers := timers_concludeAll (d.timers.close.1.map Sleeper.task) { d with timers := d.timers.close.2 }
      (.error .shutdown)
    exact ⟨congrArg (·.closed) timers, congrArg (·.sleepers) timers⟩
  | _ => exact same _ rfl

/-- Only an offer puts a task into the lanes. -/
theorem emptied_after (emptied : d.lanes.tasks = []) {x : Deed} (none : ∀ t, x ≠ .offer t) :
    (d.after x).lanes.tasks = [] := by
  have shifts := d.shifts_after x
  generalize (d.after x).lanes = q at shifts ⊢
  cases shifts with
  | still => exact emptied
  | offer t offers => exact absurd offers (none t)
  | poll polled =>
    have all := Lanes.coe_poll? polled
    rw [emptied] at all
    cases Multiset.cons_ne_zero all.symm
  | withdraw p =>
    have all := d.lanes.coe_withdraw p
    rw [emptied, Multiset.coe_add, Multiset.coe_eq_coe] at all
    exact (List.append_eq_nil_iff.1 (List.nil_perm.1 all)).2

end Desk

namespace World

open Desk Office

variable {w : World}

/-- Once the timers are closed, nobody sleeps. -/
theorem awake_after (awake : w.office.desk.Awake) (h : Happening) : (w.after h).office.desk.Awake :=
  (w.does_after h).keeps (I := Desk.Awake) (fun _ x _ awake => Desk.awake_after awake x) awake

theorem wake_of_awake (awake : w.office.desk.Awake) (n : Nat) : w.after (.wake n) = w := by
  have none : w.office.timers.take? n = none := by
    rw [Timers.take?, show w.office.timers.sleepers = [] from awake.none]
    rfl
  show w.withOffice (·.wake n) = w
  rw [withOffice, wake, none]

/-- Behind closed gates, with nobody to wake, nothing comes into the lanes. -/
theorem emptied_after (shut : w.Shut) (awake : w.office.desk.Awake) (h : Happening)
    (emptied : w.office.lanes.tasks = []) : (w.after h).office.lanes.tasks = [] := by
  by_cases submits : ∃ s, h = .submit s
  · obtain ⟨s, rfl⟩ := submits
    rw [shut.submit]
    exact emptied
  by_cases wakes : ∃ n, h = .wake n
  · obtain ⟨n, rfl⟩ := wakes
    rw [wake_of_awake awake]
    exact emptied
  refine (w.does_after h).keeps (I := fun d => d.lanes.tasks = []) (fun d x permitted emptied => ?_) emptied
  refine Desk.emptied_after emptied ?_
  rintro t rfl
  cases permitted with
  | offer _ queues => exact queues.elim submits wakes

/-- Nothing is taken, nothing starts, and nothing sleeps or waits in a lane. -/
structure Cleared (w : World) : Prop where
  shut : w.Shut
  awake : w.office.desk.Awake
  emptied : w.office.lanes.tasks = []

/-- It stays so whatever happens. -/
theorem cleared_run (cleared : w.Cleared) (hs : List Happening) : (w.run hs).Cleared := by
  refine run_of_step (P := fun _ _ => True) (I := Cleared) (fun w h _ cleared => ?_)
    (along_of_forall (fun _ _ => trivial) w hs) cleared
  exact ⟨cleared.shut.after h, awake_after cleared.awake h, emptied_after cleared.shut cleared.awake h cleared.emptied⟩

end World

/-! ### Courses of a shutdown -/

/-- One course of a shutdown, with all that happens between its steps. -/
structure Shutdown where
  /-- What happens when submissions are refused and the workers still start attempts. -/
  winding : List Happening
  /-- What happens when nothing starts any more. -/
  draining : List Happening
  /-- What happens when the timers are closed. -/
  ending : List Happening

/-- All that happens, up to the last step. -/
def Shutdown.course (s : Shutdown) : List Happening :=
  .stopAccepting :: s.winding ++ .closeWorkers :: s.draining ++ .closeTimers :: s.ending ++ [.emptyLanes]

namespace World

open Desk Office

variable {w : World}

theorem refusing_run (refusing : w.office.accepting = false) (hs : List Happening) :
    (w.run hs).office.accepting = false :=
  run_of_step (P := fun _ _ => True) (I := fun w => w.office.accepting = false)
    (fun _ h _ refusing => refusing_after h refusing) (along_of_forall (fun _ _ => trivial) w hs) refusing

theorem awake_run (awake : w.office.desk.Awake) (hs : List Happening) : (w.run hs).office.desk.Awake :=
  run_of_step (P := fun _ _ => True) (I := fun w => w.office.desk.Awake) (fun _ h _ awake => awake_after awake h)
    (along_of_forall (fun _ _ => trivial) w hs) awake

theorem awake_closeTimers (w : World) : (w.after .closeTimers).office.desk.Awake := by
  have same := congrArg Desk.timers (desk_failAll (o := { w.office with timers := w.office.timers.close.2 })
    (w.office.timers.sleepers.map Sleeper.task) .shutdown)
  rw [timers_concludeAll] at same
  exact ⟨congrArg (·.closed) same, congrArg (·.sleepers) same⟩

theorem emptied_emptyLanes (w : World) : (w.after .emptyLanes).office.lanes.tasks = [] := by
  have same := congrArg Desk.lanes (desk_failAll (o := (w.office.withdraw fun _ => true).2)
    (w.office.withdraw fun _ => true).1 .shutdown)
  rw [lanes_concludeAll, desk_withdraw] at same
  have lanes : (w.after .emptyLanes).office.lanes = (w.office.lanes.withdraw fun _ => true).2 := same
  rw [lanes, List.eq_nil_iff_forall_not_mem]
  exact fun t ht => ((Lanes.mem_left_of_withdraw ..).1 ht).2 rfl

/-- At the end of a shutdown no attempt can start any more, and nothing sleeps or is queued, whatever still runs. -/
theorem cleared_of_shutdown (s : Shutdown) (w : World) : (w.run s.course).Cleared := by
  rw [Shutdown.course, run_append, run_append, run_append]
  have refusing : ((w.after .stopAccepting).run s.winding).office.accepting = false := refusing_run rfl s.winding
  have shut : (((w.after .stopAccepting).run s.winding).after .closeWorkers).Shut := ⟨refusing, rfl⟩
  have shut := (shut.run s.draining).run (.closeTimers :: s.ending)
  have awake := awake_run (awake_closeTimers
    ((((w.after .stopAccepting).run s.winding).after .closeWorkers).run s.draining)) s.ending
  exact ⟨shut.after .emptyLanes, awake_after awake .emptyLanes, emptied_emptyLanes _⟩

end World

end Postroom
