import Postroom.Proofs.Panel.Settling
import Postroom.Proofs.Retries.Perseverance
import Postroom.Proofs.Waits.Attended

/-!
# The metrics along a history

Whatever happens, the metrics show each lane as deep as it is, as many attempts in flight as there are, and every retry
that was scheduled. They show every batch that ended as long as nothing is let go of: a batch whose last task is let go
of ends for its submitter without being counted.

- `World.scheduled`: the retries that are handed to the scheduler when something happens.
- `World.Schedules`: as long as the timers are open, they fall asleep, and nothing else does but what waits for
  resources.
- `World.Lossless`: nothing is let go of.
- `World.follows_after`, `World.keeps_run`: what a happening, and what a history, does to the panel.
- `World.MetricsAgree`, `World.EndsShown`, `World.metricsAgree_run`: what this means for what the metrics show.
-/

namespace Postroom

open Panel

namespace World

open Custody Office

variable {w : World} {h : Happening}

/-- The retries that are handed to the scheduler when something happens: after waits that ran out, for what a
settlement leaves, and after sends that failed as a whole. -/
def scheduled (w : World) (h : Happening) : List Task :=
  ((w.executed h).filter fun p => p.1.escalates p.2).map (·.2.next) ++ w.office.again (w.settles? h) ++ w.resent h

/-- The retries that are handed to the scheduler along a history. -/
def scheduledAlong : World → List Happening → List Task
  | _, [] => []
  | w, h :: hs => w.scheduled h ++ scheduledAlong (w.after h) hs

/-- The timers without those whom a happening wakes. -/
def undisturbed (w : World) : Happening → Timers
  | .wake n => w.office.roused n
  | .closeTimers => w.office.timers.close.2
  | _ => w.office.timers

/-- The tasks that sleep afterwards slept before and were not woken, or wait for resources, or are the retries that the
happening hands to the scheduler. Once the timers are closed, no retry falls asleep. -/
def Schedules (w : World) (h : Happening) : Prop :=
  ((w.after h).office.timers.sleepers.map (·.task)).Perm
    ((w.undisturbed h).sleepers.map (·.task) ++ (w.shelved h).map (·.task) ++
      if (w.undisturbed h).closed then [] else w.scheduled h)

/-- Nothing is let go of: no task by its caller, no attempt, and nothing that follows from an answer. -/
structure Lossless (w : World) (h : Happening) : Prop where
  held : HoldsOn w h
  kept : w.LosesNothing h

theorem resent_collect (w : World) (n : Nat) : w.resent (.collect n) =
    ((w.office.attempt? n).filter w.office.sendsAgain).toList.map (·.task.next) := by
  rw [resent]
  cases w.office.attempt? n with
  | none => rfl
  | some a =>
    rw [Option.filter_some, Option.filter_some, sendsAgain]
    rcases a.report with _ | _ | _ <;> rfl

theorem follows_useOutside {lossless : Prop} {f : Office → Task → Office} (place : Nat)
    (uses : ∀ t, Follows lossless 0 0 w.office.panel (f w.office t).panel) :
    Follows lossless 0 0 w.office.panel (w.useOutside place f).office.panel := by
  unfold useOutside
  split
  · exact uses _
  · exact .refl _

/-- Where no task is executed and no send failed, nothing falls asleep but what a settlement leaves. -/
theorem follows_of_idle {lossless : Prop} {p q : Panel} (idle : w.executed h = []) (unsent : w.resent h = [])
    (follows : Follows lossless 0 ↑(w.office.again (w.settles? h)) p q) :
    Follows lossless ↑((w.shelved h).map (·.task)) ↑(w.scheduled h) p q := by
  have settled : w.scheduled h = w.office.again (w.settles? h) := by
    rw [scheduled, idle, unsent, List.append_nil]
    rfl
  rw [settled, shelved, idle]
  exact follows

/-- In the turns of a tick, retries are scheduled for tasks that have waited too long. -/
theorem follows_of_serves {lossless : Prop} {o o' : Office} (unsettled : w.settles? h = none) (unsent : w.resent h = [])
    (serves : Ticking.Serves o (w.executed h) o') :
    Follows lossless ↑((w.shelved h).map (·.task)) ↑(w.scheduled h) o.panel o'.panel := by
  have waited : w.scheduled h = ((w.executed h).filter fun p => p.1.escalates p.2).map (·.2.next) := by
    rw [scheduled, unsettled, unsent, List.append_nil]
    exact List.append_nil _
  rw [waited]
  exact serves.follows

/-- What happens keeps the panel true, and puts to sleep the retries that it schedules. -/
theorem follows_after (w : World) (h : Happening) :
    Follows (Lossless w h) ↑((w.shelved h).map (·.task)) ↑(w.scheduled h)
      { w.office.panel with timers := w.undisturbed h } (w.after h).office.panel := by
  cases h with
  | submit s =>
    rw [after, office_submit]
    exact follows_of_idle rfl rfl (follows_submit s)
  | tick =>
    exact follows_of_serves (o := { w.office with hold := w.office.bulkBudget.2 }) rfl rfl
      (Ticking.serves w.office.bulkBudget.1 w.office.lanes.total
        { office := { w.office with hold := w.office.bulkBudget.2 } })
  | turns bulk n report bulkStarted excluded =>
    exact follows_of_serves rfl rfl (Ticking.serves bulk n
      { office := w.office, report := report, bulkStarted := bulkStarted, excluded := excluded })
  | wake n => exact follows_of_idle rfl rfl (follows_wake n)
  | sendEnded n report => exact follows_of_idle rfl rfl (.of_eq rfl)
  | collect n =>
    have collected : Follows (Lossless w (.collect n)) 0 _ w.office.panel (w.office.collect n).panel :=
      follows_collect n fun lossless => lossless.kept
    rw [← resent_collect, Multiset.coe_add] at collected
    exact collected
  | beginExpiry n => exact follows_of_idle rfl rfl (follows_beginExpiry n)
  | recordAccepted n => exact follows_of_idle rfl rfl (follows_recordAccepted n)
  | recordRefused n message => exact follows_of_idle rfl rfl (follows_recordRefused n message)
  | register u =>
    exact follows_of_idle rfl rfl
      (follows_withdraw (o := { w.office with registry := w.office.registry.register u }) _)
  | abortRun t cause => exact follows_of_idle rfl rfl (follows_abortRun t cause)
  | failOutside place cause => exact follows_of_idle rfl rfl (follows_useOutside place fun t => follows_fail t cause)
  | dropOutside place =>
    exact follows_of_idle rfl rfl
      (follows_useOutside place fun t => follows_drop (fun lossless => lossless.held place rfl) t)
  | closeTimers => exact follows_of_idle rfl rfl follows_closeTimers
  | emptyLanes => exact follows_of_idle rfl rfl follows_emptyLanes
  | abandon numbers => exact follows_of_idle rfl rfl (follows_abandon (fun lossless => lossless.kept) numbers)
  | sessionFailed domain code =>
    refine follows_of_idle rfl rfl (.of_eq ?_)
    exact congrArg (fun g => { w.office.panel with gauges := g }) (Metrics.gauges_sessionFailed ..)
  | beginTick | unregister | pass | shift | readDaily | readWindow | stopAccepting | closeWorkers | takeSends
    | takeWaiters | draw =>
    exact follows_of_idle rfl rfl (.of_eq rfl)

theorem schedules (w : World) (h : Happening) : w.Schedules h := by
  have asleep := (w.follows_after h).asleep
  refine Multiset.coe_eq_coe.1 (asleep.trans ?_)
  rw [← Multiset.coe_add, ← Multiset.coe_add]
  congr 1
  show (if (w.undisturbed h).closed then _ else _) = _
  split <;> rfl

theorem schedules_along (w : World) (hs : List Happening) : Along Schedules w hs := by
  induction hs generalizing w with
  | nil => trivial
  | cons h hs ih => exact ⟨w.schedules h, ih (w.after h)⟩

theorem keeps_after (w : World) (h : Happening) :
    Keeps (Lossless w h) (w.scheduled h).length w.office.panel (w.after h).office.panel := by
  have keeps := (w.follows_after h).toKeeps
  exact ⟨fun current => keeps.current ⟨current.sound, current.depths, current.inFlight⟩, keeps.tallied, keeps.retried⟩

/-- A history keeps the panel true, and counts all retries that are scheduled along it. -/
theorem keeps_run (w : World) (hs : List Happening) :
    Keeps (Along Lossless w hs) (w.scheduledAlong hs).length w.office.panel (w.run hs).office.panel := by
  induction hs generalizing w with
  | nil => exact .refl _
  | cons h hs ih =>
    rw [scheduledAlong, List.length_append]
    have first := (w.keeps_after h).mono (And.left (b := Along Lossless (w.after h) hs))
    exact first.trans ((ih (w.after h)).mono And.right)

theorem current_opening (config : Config) (workers : Nat) (wall : Calendar.Moment) :
    (opening config workers wall).office.panel.Current where
  sound := Lanes.sound_empty
  depths l := by cases l <;> rfl
  inFlight := rfl

theorem tallied_opening (config : Config) (workers : Nat) (wall : Calendar.Moment) :
    (opening config workers wall).office.panel.Tallied := by
  intro well
  cases well <;> rfl

/-- The metrics show the lanes, the attempts and the retries as they are. -/
structure MetricsAgree (w : World) (scheduled : List Task) : Prop where
  /-- The depth of each lane is the number of its tasks. -/
  depths : ∀ l, w.office.metrics.depths.get l = (w.office.lanes.line l).tasks.length
  /-- As many attempts are shown in flight as there are, and so never less than none. -/
  inFlight : w.office.metrics.inFlight = w.office.totalInFlight
  /-- The word that shows them has not wrapped. -/
  word : w.office.totalInFlight < twoTo 64 → w.office.metrics.inFlightWord = w.office.totalInFlight
  /-- Every retry that was handed to the scheduler is counted, and nothing else is. -/
  retried : w.office.metrics.retried = scheduled.length

/-- The metrics show how many batches ended well, and how many did not. -/
structure EndsShown (w : World) (admitted : List (Submission × Handle)) : Prop where
  completed : w.office.metrics.completed = admitted.countP (w.endedFor true)
  failed : w.office.metrics.failed = admitted.countP (w.endedFor false)

theorem metricsAgree_of_current {scheduled : List Task} (current : w.office.panel.Current)
    (retried : w.office.metrics.retried = scheduled.length) : MetricsAgree w scheduled where
  depths l := (current.depths l).trans (current.sound l).length_eq.symm
  inFlight := current.inFlight
  word small := by
    have shown : w.office.metrics.inFlight = w.office.totalInFlight := current.inFlight
    rw [Metrics.inFlightWord, shown, Int.emod_eq_of_lt (Int.natCast_nonneg _) (Int.ofNat_lt.2 small)]
    rfl
  retried := retried

/-- After every history of a new office the metrics agree with it and with the retries that fell asleep on the way, and
with the ends of its batches as long as nothing is let go of. -/
theorem metricsAgree_run (config : Config) (workers : Nat) (wall : Calendar.Moment) (hs : List Happening) :
    MetricsAgree ((opening config workers wall).run hs) ((opening config workers wall).scheduledAlong hs) ∧
      Along Schedules (opening config workers wall) hs ∧
      (Along Lossless (opening config workers wall) hs →
        EndsShown ((opening config workers wall).run hs) ((opening config workers wall).admitted hs)) := by
  have keeps := (opening config workers wall).keeps_run hs
  refine ⟨?_, schedules_along _ hs, ?_⟩
  · refine metricsAgree_of_current (keeps.current (current_opening config workers wall)) ?_
    exact keeps.retried.trans (Nat.zero_add _)
  · intro lossless
    have regular := regular_opening config workers wall
    have start := owned_opening config workers wall
    have tallied := keeps.tallied lossless (tallied_opening config workers wall)
    have ends := countP_verdicts (owned_run regular start hs) (entered_run regular start hs)
    exact ⟨(tallied true).trans (ends true), (tallied false).trans (ends false)⟩

/-- A letter is retried and ends well, and a parcel is handed out by a newer run of its job and fails. -/
def retriedAndFailed : List Happening :=
  letterTwice ++ [.register ⟨⟨"job"⟩, 1⟩, .submit parcel, .register ⟨⟨"job"⟩, 2⟩, .failOutside 0 .shutdown]

/-- One batch is shown as completed, one as failed, and one retry. -/
theorem metricsAgree_retriedAndFailed :
    Along Lossless (opening oneRetry 4 0) retriedAndFailed ∧
      MetricsAgree ((opening oneRetry 4 0).run retriedAndFailed)
        ((opening oneRetry 4 0).scheduledAlong retriedAndFailed) ∧
      Along Schedules (opening oneRetry 4 0) retriedAndFailed ∧
      EndsShown ((opening oneRetry 4 0).run retriedAndFailed) ((opening oneRetry 4 0).admitted retriedAndFailed) ∧
      ((opening oneRetry 4 0).scheduledAlong retriedAndFailed).map (·.recipients.map (·.address)) =
        [["b@example.org"]] ∧
      ((opening oneRetry 4 0).run retriedAndFailed).office.metrics.completed = 1 ∧
      ((opening oneRetry 4 0).run retriedAndFailed).office.metrics.failed = 1 := by
  have first : LosesNothing ((opening oneRetry 4 0).run (letterTwice.take 3)) (.collect 0) := by
    intro a outcome found reported
    cases found
    cases reported
    decide
  have second : LosesNothing ((opening oneRetry 4 0).run (letterTwice.take 8)) (.collect 2) := by
    intro a outcome found reported
    cases found
    cases reported
    decide
  have lossless : Along Lossless (opening oneRetry 4 0) retriedAndFailed :=
    ⟨⟨nofun, trivial⟩, ⟨nofun, trivial⟩, ⟨nofun, trivial⟩, ⟨nofun, first⟩, ⟨nofun, trivial⟩, ⟨nofun, trivial⟩,
      ⟨nofun, trivial⟩, ⟨nofun, trivial⟩, ⟨nofun, second⟩, ⟨nofun, trivial⟩, ⟨nofun, trivial⟩, ⟨nofun, trivial⟩,
      ⟨nofun, trivial⟩, trivial⟩
  obtain ⟨agree, schedules, ends⟩ := metricsAgree_run oneRetry 4 0 retriedAndFailed
  exact ⟨lossless, agree, schedules, ends lossless, by decide, by decide, by decide⟩

/-- A parcel is handed out by a newer run of its job, and dropped. -/
def parcelLetGo : List Happening :=
  [.register ⟨⟨"job"⟩, 1⟩, .submit parcel, .register ⟨⟨"job"⟩, 2⟩, .dropOutside 0]

/-- It has not ended well, though nothing was aborted by force, and it is not shown as failed. -/
theorem dropped_uncounted :
    ¬ ∀ (config : Config) (workers : Nat) (wall : Calendar.Moment) (hs : List Happening),
      Along (fun _ h => ∀ numbers, h ≠ .abandon numbers) (opening config workers wall) hs →
      ((opening config workers wall).run hs).office.metrics.failed =
        ((opening config workers wall).admitted hs).countP (((opening config workers wall).run hs).endedFor false) := by
  intro all
  have forced : Along (fun _ h => ∀ numbers, h ≠ .abandon numbers) (opening {} 4 0) parcelLetGo :=
    ⟨nofun, nofun, nofun, nofun, trivial⟩
  have shown : ((opening {} 4 0).run parcelLetGo).office.metrics.failed = 0 := by decide
  have ended : ((opening {} 4 0).admitted parcelLetGo).countP
      (((opening {} 4 0).run parcelLetGo).endedFor false) = 1 := by decide
  have agree := all {} 4 0 parcelLetGo forced
  rw [shown, ended] at agree
  cases agree

end World

end Postroom
