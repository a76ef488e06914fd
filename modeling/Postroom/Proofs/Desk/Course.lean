import Postroom.Proofs.Desk.Deeds
import Postroom.Proofs.Queue.Turnover
import Postroom.Proofs.Resources.Accounts

/-!
# Deeds along a history

Whatever happens is a chain of deeds at the desk of the office, and what happens says which ones: it works on a
task of a few batches at most, it may end a run, and only a few happenings touch anything besides.

- `World.WorksOn`: the batches on whose tasks a happening works. `World.LetsGo`: it may let go of them.
- `World.Permits`: the deeds that a happening may consist of. `World.does_after`: it consists of such.
- `Desk.Shifts`: what a deed can do to the lanes. `World.sound_run`: they are sound after every history.
-/

namespace Postroom

namespace World

open Desk Office

variable {w : World} {h : Happening}

/-- The happening works on a task of the batch with ticket `n`. -/
def WorksOn (w : World) : Happening → Nat → Prop
  | .submit _, n => n = w.office.ledger.accounts.length
  | .tick, _ | .turns .., _ => True
  | .wake k, n => ∃ s timers, w.office.timers.take? k = some (s, timers) ∧ s.task.ticket = n
  | .collect k, n => ∃ a, w.office.attempt? k = some a ∧ a.task.ticket = n
  | .beginExpiry k, n => ∃ e, w.office.expiries.find? (·.number = k) = some e ∧ e.task.ticket = n
  | .recordAccepted k, n | .recordRefused k _, n =>
    ∃ s, w.office.settlement? k = some s ∧ s.task.ticket = n
  | .failOutside place _, n | .dropOutside place, n =>
    ∃ t, w.outside[place]? = some t ∧ t.ticket = n
  | .abandon numbers, n => ∃ t ∈ w.office.tasksOf numbers, t.ticket = n
  | _, _ => False

/-- The happening may let go of a batch that has not ended. -/
def LetsGo (w : World) (h : Happening) : Prop := (∃ place, h = .dropOutside place) ∨ ¬ w.LosesNothing h

/-- The deeds that a happening may consist of. -/
inductive Permits (w : World) (h : Happening) : Deed → Prop where
  | conclude {n : Nat} (works : w.WorksOn h n) (v : Verdict) : Permits w h (.conclude n v)
  | drop {n : Nat} (works : w.WorksOn h n) (lets : w.LetsGo h) : Permits w h (.drop n)
  /-- The first task of a submission, or one that wakes, is put into its lane. -/
  | offer {t : Task} (works : w.WorksOn h t.ticket)
      (queues : (∃ s, h = .submit s) ∨ ∃ k, h = .wake k) : Permits w h (.offer t)
  | sleep {s : Sleeper} (works : w.WorksOn h s.task.ticket) : Permits w h (.sleep s)
  /-- A run is ended with all its queued tasks. -/
  | purge {u : Runner} {c : Fault} (ends : w.aborts? h = some (u, c)) :
      Permits w h (.purge (·.ownedBy u) (.abortedBy u.id c))
  /-- In ticks, tasks are taken from the lanes. -/
  | poll (l : Lane) (excluded : List Domain) (ticks : ∀ n, w.WorksOn h n) :
      Permits w h (.poll l excluded)
  | handOut {u : Runner} (registers : h = .register u) :
      Permits w h (.handOut fun t => t.ownedByJob u.id && !t.ownedBy u)
  | rouse {k : Nat} (wakes : h = .wake k) : Permits w h (.rouse k)
  | close (closes : h = .closeTimers) : Permits w h .close
  | empty (empties : h = .emptyLanes) : Permits w h (.purge (fun _ => true) .shutdown)
  | enter {s : Submission} (submits : h = .submit s) : Permits w h .enter
  /-- Time passes, or is set. -/
  | clock (moves : (∃ ms, h = .pass ms) ∨ ∃ ms, h = .shift ms) : Permits w h (.clock (w.after h).office.now)
  | prune (reads : h = .readDaily) : Permits w h .prune

theorem works_of {n : Nat} (works : w.WorksOn h n) : Deed.Works (w.Permits h) n where
  conclude := .conclude works
  sleep s same := .sleep (by rwa [same])

theorem offers_of {n : Nat} (works : w.WorksOn h n) (queues : (∃ s, h = .submit s) ∨ ∃ k, h = .wake k) :
    Deed.Offers (w.Permits h) n := fun t same => .offer (by rwa [same]) queues

theorem purges_of : Deed.Purges (w.Permits h) (w.aborts? h) := fun _ _ ends => .purge ends

/-- A task that was taken out is used up by a deed, or there is none. -/
theorem does_useOutside {ok : Deed → Prop} {f : Office → Task → Office} (place : Nat)
    (uses : ∀ t, w.outside[place]? = some t → Does ok w.office.desk (f w.office t).desk) :
    Does ok w.office.desk (w.useOutside place f).office.desk := by
  unfold useOutside
  split
  · next t found => exact uses t found
  · exact .refl _

/-- What happens is a chain of the deeds that it permits. -/
theorem does_after (w : World) (h : Happening) :
    Does (w.Permits h) w.office.desk (w.after h).office.desk := by
  cases h with
  | submit s =>
    rw [after, office_submit]
    exact does_submit s (works_of rfl) (offers_of rfl (.inl ⟨s, rfl⟩)) (.enter rfl)
  | tick =>
    have all : ∀ n, w.WorksOn .tick n := fun _ => trivial
    exact does_serve (fun n => works_of (all n)) (fun l excluded => .poll l excluded all)
      w.office.bulkBudget.1 w.office.lanes.total { office := { w.office with hold := w.office.bulkBudget.2 } }
  | turns bulk n report bulkStarted excluded =>
    have all : ∀ m, w.WorksOn (.turns bulk n report bulkStarted excluded) m := fun _ => trivial
    exact does_serve (fun m => works_of (all m)) (fun l excluded => .poll l excluded all) bulk n
      { office := w.office, report := report, bulkStarted := bulkStarted, excluded := excluded }
  | wake k =>
    refine does_wake k (.rouse rfl) fun s timers taken => ?_
    have works : w.WorksOn (.wake k) s.task.ticket := ⟨s, timers, taken, rfl⟩
    exact ⟨works_of works, offers_of works (.inr ⟨k, rfl⟩)⟩
  | sendEnded k report => exact .of_eq rfl
  | collect k =>
    refine does_collect k (fun a found => works_of ⟨a, found, rfl⟩) ?_ purges_of
    intro a outcome found reported lost
    refine .drop ⟨a, found, rfl⟩ (.inr fun kept => ?_)
    rw [kept a outcome found reported] at lost
    cases lost
  | beginExpiry k => exact does_beginExpiry k fun e found => works_of ⟨e, found, rfl⟩
  | recordAccepted k => exact does_recordAccepted k fun s found => works_of ⟨s, found, rfl⟩
  | recordRefused k message =>
    exact does_recordRefused k message (fun s found => works_of ⟨s, found, rfl⟩) purges_of
  | register u => exact .one (.handOut rfl) (desk_withdraw (o := { w.office with
      registry := w.office.registry.register u }) _)
  | abortRun t cause => exact does_abortRun cause purges_of
  | failOutside place cause =>
    refine does_useOutside place fun t found => does_fail ?_ cause
    exact works_of (h := .failOutside place cause) ⟨t, found, rfl⟩
  | dropOutside place =>
    refine does_useOutside place fun t found => ?_
    exact .one (.drop ⟨t, found, rfl⟩ (.inl ⟨place, rfl⟩)) (desk_drop t)
  | pass ms => exact .one (.clock (.inl ⟨ms, rfl⟩)) rfl
  | shift ms => exact .one (.clock (.inr ⟨ms, rfl⟩)) rfl
  | readDaily => exact .one (.prune rfl) rfl
  | closeTimers => exact does_closeTimers (.close rfl)
  | emptyLanes => exact does_emptyLanes (.empty rfl)
  | abandon numbers => exact does_abandon fun t ht => .drop ⟨t, ht, rfl⟩ (.inr fun kept => kept)
  | beginTick | unregister | readWindow | stopAccepting | closeWorkers | takeSends | takeWaiters | sessionFailed | draw =>
    exact .of_eq rfl

end World

/-! ### The lanes -/

namespace Desk

/-- What a deed can do to the lanes. -/
inductive Shifts (d : Desk) (x : Deed) : Lanes → Prop where
  | still : Shifts d x d.lanes
  | offer (t : Task) (offers : x = .offer t) : Shifts d x (d.lanes.offer { t with enqueuedAt := d.now })
  | poll {l : Lane} {excluded : List Domain} {t : Task} {q : Lanes} (polled : d.lanes.poll? l excluded = some (t, q)) :
      Shifts d x q
  | withdraw (p : Task → Bool) : Shifts d x (d.lanes.withdraw p).2

theorem shifts_after (d : Desk) (x : Deed) : d.Shifts x (d.after x).lanes := by
  cases x with
  | conclude n v =>
    rw [after, lanes_conclude]
    exact .still
  | offer t => exact .offer t rfl
  | purge p cause =>
    rw [after, lanes_concludeAll]
    exact .withdraw p
  | poll l excluded =>
    show d.Shifts _ (((d.lanes.poll? l excluded).map (·.2)).getD d.lanes)
    cases polled : d.lanes.poll? l excluded with
    | none => exact .still
    | some next => exact .poll polled
  | handOut p => exact .withdraw p
  | close =>
    rw [after, lanes_concludeAll]
    exact .still
  | _ => exact .still

/-- Every deed keeps the lanes sound. -/
theorem sound_after (d : Desk) (x : Deed) (h : d.lanes.Sound) : (d.after x).lanes.Sound := by
  have shifts := d.shifts_after x
  generalize (d.after x).lanes = q at shifts ⊢
  cases shifts with
  | still => exact h
  | offer t => exact h.offer _
  | poll polled => exact h.poll? polled
  | withdraw p => exact h.withdraw p

end Desk

namespace World

theorem sound_opening (config : Config) (workers : Nat) (wall : Calendar.Moment) :
    (opening config workers wall).office.lanes.Sound := Lanes.sound_empty

theorem sound_after {w : World} (h : Happening) (sound : w.office.lanes.Sound) :
    (w.after h).office.lanes.Sound :=
  (w.does_after h).keeps (I := fun d => d.lanes.Sound) (fun d x _ => d.sound_after x) sound

/-- The lanes are sound after every history. -/
theorem sound_run {w : World} (sound : w.office.lanes.Sound) (hs : List Happening) :
    (w.run hs).office.lanes.Sound :=
  run_of_step (P := fun _ _ => True) (I := fun w => w.office.lanes.Sound)
    (fun _ h _ => sound_after h) (along_of_forall (fun _ _ => trivial) w hs) sound

end World

end Postroom
