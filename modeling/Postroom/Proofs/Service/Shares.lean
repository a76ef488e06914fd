import Postroom.Proofs.Custody.Recipients
import Postroom.Proofs.Desk.Times
import Postroom.Proofs.Service.Order

/-!
# The share of the retries

While fresh work of a class waits, its retries get a share of the workers, and a larger share where a retry has waited
long enough. How long they have waited is asked of the heads of the stands alone. As long as the clock is not set back
that is the wait of the oldest retry that may be taken, and so the larger share is given exactly where some retry that
may be taken has stood in its lane for as long as the settings say.

- `RetryQuota.beside`: how many retries may be in flight beside fresh work, with some share of the capacity.
- `Office.isAged_oldestWait`: when the quota takes the oldest wait to be long enough.
- `World.InTick`: the states of a tick. `Ticking.Goes`: what a tick leaves as it is, kept by every turn.
- `World.HasAged`: a retry that may be taken has stood in its lane for long enough.
- `World.SharesByAge`, `World.sharesByAge_run`: the oldest wait and the share that goes with it.
-/

namespace Postroom

namespace RetryQuota

/-- How many retries may be in flight beside fresh work, with a share of the capacity in percent. -/
def beside (q : RetryQuota) (capacity percent : Nat) : Nat :=
  if capacity = 0 then 0 else max (min (percentOf percent capacity) (capacity - q.freshReserve)) 1

theorem limit_of_fresh (q : RetryQuota) (capacity : Nat) (wait : Option Nat) :
    q.limit capacity true wait = q.beside capacity (if q.isAged wait then q.agedPercent else q.capPercent) := rfl

end RetryQuota

namespace Office

variable {o : Office} {l : Lane} {c : TrafficClass} {excluded : List Domain}

/-- The workers that the other class leaves to a class. -/
def capacityFor (o : Office) (c : TrafficClass) : Nat := o.workers.size - o.inFlightOf c.other

theorem isAged_oldestWait : o.config.quota.isAged (o.oldestWait l excluded) ↔
    ∃ since ∈ (o.lanes.line l).oldest? excluded, since ≤ o.now - o.config.quota.agingThreshold := by
  unfold oldestWait
  cases (o.lanes.line l).oldest? excluded with
  | none => exact ⟨nofun, nofun⟩
  | some since =>
    have one : (∃ time ∈ some since, time ≤ o.now - o.config.quota.agingThreshold) ↔
        since ≤ o.now - o.config.quota.agingThreshold := by simp
    rw [one, Option.bind_eq_bind, Option.bind_some]
    split
    · rw [RetryQuota.isAged, decide_eq_true_iff]
      omega
    · next ahead => exact ⟨nofun, fun le => absurd le (by omega)⟩

/-- Beside fresh work, the limit on the retries of a class goes by whether the oldest wait is long enough. -/
theorem retryLimit_of_fresh (fresh : (o.lanes.line c.freshLane).hasAvailable excluded) :
    o.retryLimit c.retryLane excluded = o.config.quota.beside (o.capacityFor c)
      (if o.config.quota.isAged (o.oldestWait c.retryLane excluded) then o.config.quota.agedPercent
        else o.config.quota.capPercent) := by
  rw [retryLimit, Lane.traffic_retryLane, fresh]
  exact RetryQuota.limit_of_fresh ..

end Office

namespace Ticking

variable {bulk : BulkBudget} {s s' : Ticking} {p : Pick} {o : Office}

theorem before_of_turns (turn : Turns bulk s p s') : p.before = s := by cases turn <;> rfl

theorem now_of_turns (turn : Turns bulk s p s') : s'.office.now = s.office.now :=
  view_of_turns (·.now) (fun _ => rfl) Office.now_execute turn

/-- A tick of `o` goes on: it has put nothing into a lane, and the lanes are in the order of time. -/
structure Goes (o : Office) (s : Ticking) : Prop where
  now : s.office.now = o.now
  sound : s.office.lanes.Sound
  timed : s.office.lanes.Timed o.now
  fewer : ∀ l, ∀ t ∈ (s.office.lanes.line l).tasks, t ∈ (o.lanes.line l).tasks

theorem Goes.turn (goes : Goes o s) (turn : Turns bulk s p s') : Goes o s' where
  now := (now_of_turns turn).trans goes.now
  sound := (leaves_of_turns goes.sound turn).sound
  timed := goes.timed.poll? goes.sound (poll?_of_turns turn)
  fewer l t ht := goes.fewer l t ((leaves_of_turns goes.sound turn).fewer l t ht)

end Ticking

namespace World

open Ticking

variable {w : World} {hs : List Happening} {bulk : BulkBudget} {s : Ticking} {c : TrafficClass}
  {config : Config} {workers : Nat} {wall : Calendar.Moment}

/-- The states of a tick in `w`, as it begins there or goes on after something else has happened. -/
inductive InTick (w : World) : BulkBudget → Ticking → Prop where
  | begins : InTick w w.office.bulkBudget.1 { office := (w.after .beginTick).office }
  | resumes (bulk : BulkBudget) (report : TickReport) (bulkStarted : Nat) (excluded : List Domain) :
      InTick w bulk { office := w.office, report := report, bulkStarted := bulkStarted, excluded := excluded }
  | turn {bulk : BulkBudget} {s s' : Ticking} {p : Pick} (earlier : InTick w bulk s) (turn : Turns bulk s p s') :
      InTick w bulk s'

theorem InTick.goes (tick : InTick w bulk s) (sound : w.office.lanes.Sound)
    (timed : w.office.lanes.Timed w.office.now) : Goes w.office s := by
  induction tick with
  | begins => exact ⟨rfl, sound, timed, fun _ _ => id⟩
  | resumes => exact ⟨rfl, sound, timed, fun _ _ => id⟩
  | turn _ turn ih => exact ih.turn turn

/-- A tick picks its tasks in its states, and ends in one. -/
theorem InTick.picks {s' : Ticking} {ps : List Pick} (tick : InTick w bulk s) (picks : Picks bulk s ps s') :
    (∀ p ∈ ps, InTick w bulk p.before) ∧ InTick w bulk s' := by
  induction picks with
  | stop => exact ⟨List.forall_mem_nil _, tick⟩
  | turn turn rest ih =>
    obtain ⟨later, last⟩ := ih (tick.turn turn)
    refine ⟨fun q hq => ?_, last⟩
    rcases List.mem_cons.1 hq with rfl | hq
    · rw [before_of_turns turn]
      exact tick
    · exact later q hq

/-- A retry of a class that may be taken has stood in its lane for as long as the settings say. -/
def HasAged (w : World) (hs : List Happening) (s : Ticking) (c : TrafficClass) : Prop :=
  ∃ t ∈ (s.office.lanes.line c.retryLane).tasks, t.domain ∉ s.excluded ∧
    w.StoodFor hs c.retryLane t s.office.config.quota.agingThreshold

/-- In a state of a tick after `hs`, the retries of a class are limited by how long they have stood in their lane. -/
structure SharesByAge (w : World) (hs : List Happening) (s : Ticking) (c : TrafficClass) : Prop where
  /-- The wait that counts is that of the oldest of all retries that may be taken. -/
  oldest : (s.office.lanes.line c.retryLane).oldest? s.excluded =
    (s.office.lanes.line c.retryLane).earliest? s.excluded
  /-- While fresh work may be taken, they have the larger share where one of them has aged. -/
  aged : (∃ t ∈ (s.office.lanes.line c.freshLane).tasks, t.domain ∉ s.excluded) → w.HasAged hs s c →
    s.office.retryLimit c.retryLane s.excluded =
      s.office.config.quota.beside (s.office.capacityFor c) s.office.config.quota.agedPercent
  /-- They have the smaller share where none has. -/
  young : (∃ t ∈ (s.office.lanes.line c.freshLane).tasks, t.domain ∉ s.excluded) → ¬ w.HasAged hs s c →
    s.office.retryLimit c.retryLane s.excluded =
      s.office.config.quota.beside (s.office.capacityFor c) s.office.config.quota.capPercent

/-- In a tick, the oldest wait is long enough where a retry that may be taken has aged. -/
theorem isAged_iff (forward : Along Forward (opening config workers wall) hs)
    (goes : Goes ((opening config workers wall).run hs).office s) :
    s.office.config.quota.isAged (s.office.oldestWait c.retryLane s.excluded) ↔
      HasAged (opening config workers wall) hs s c := by
  rw [Office.isAged_oldestWait, (goes.timed _).oldest?_eq (goes.sound _), Line.exists_earliest?_iff]
  refine exists_congr fun t => and_congr_right fun ht => and_congr_right fun _ => ?_
  rw [stoodFor_iff forward (goes.fewer _ t ht), ← goes.now]
  omega

/-- Where the clock is not set back, an oldest wait is that of the oldest task: in lanes of which anything is asked in
any order, and in every state of a tick, so wherever a tick picks a task and where it ends. There the retries of a class
have the larger share beside fresh work where one of them that may be taken has stood in its lane for long enough, and
only there. -/
theorem sharesByAge_run (rs : List Lanes.Request) (ordered : (rs.filterMap (·.offeredAt)).Pairwise (· ≤ ·))
    (config : Config) (workers : Nat) (wall : Calendar.Moment) (hs : List Happening)
    (forward : Along Forward (opening config workers wall) hs) :
    (∀ l excluded, ((Turnover.run rs).lanes.line l).oldest? excluded =
      ((Turnover.run rs).lanes.line l).earliest? excluded) ∧
    (∀ bulk s c, InTick ((opening config workers wall).run hs) bulk s →
      SharesByAge (opening config workers wall) hs s c) ∧
    let w := (opening config workers wall).run hs
    ∃ ps, Picks w.office.bulkBudget.1 { office := (w.after .beginTick).office } ps w.office.tick ∧
      (∀ p ∈ ps, InTick w w.office.bulkBudget.1 p.before) ∧ InTick w w.office.bulkBudget.1 w.office.tick := by
  have sound := sound_run (sound_opening config workers wall) hs
  obtain ⟨ps, picks⟩ := picks_tick _ sound
  refine ⟨Turnover.oldest?_run rs ordered, fun bulk s c tick => ?_, ps, picks, InTick.begins.picks picks⟩
  have goes := tick.goes sound (timed_run forward)
  have limit (fresh : ∃ t ∈ (s.office.lanes.line c.freshLane).tasks, t.domain ∉ s.excluded) :=
    Office.retryLimit_of_fresh ((goes.sound _).hasAvailable_iff.2 fresh)
  refine ⟨(goes.timed _).oldest?_eq (goes.sound _) _, fun fresh aged => ?_, fun fresh young => ?_⟩
  · rw [limit fresh, if_pos ((isAged_iff forward goes).2 aged)]
  · rw [limit fresh, if_neg fun aged => young ((isAged_iff forward goes).1 aged)]

/-- Two tasks of one domain go into a lane, one is taken, and one goes back in. -/
def backAndForth : List Lanes.Request :=
  let t := ((opening {} 4 0).office.enter letter).1
  [.offer t 10, .offer { t with retries := 1 } 20, .poll .realtimeFresh [], .offer t 20]

/-- The retry of a letter has stood in its lane for half a minute when another letter is submitted. -/
def letterAged : List Happening :=
  [.submit letter, .tick, .sendEnded 0 (.ok halfDelivered), .collect 0, .pass 1000, .wake 1, .pass 30000,
    .submit { letter with id := "b2" }]

/-- Of four workers, two may be busy with retries then. -/
theorem sharesByAge_letterAged :
    (backAndForth.filterMap (·.offeredAt)).Pairwise (· ≤ ·) ∧
      Along Forward (opening {} 4 0) letterAged ∧
      SharesByAge (opening {} 4 0) letterAged
        { office := (((opening {} 4 0).run letterAged).after .beginTick).office } .realtime ∧
      HasAged (opening {} 4 0) letterAged
        { office := (((opening {} 4 0).run letterAged).after .beginTick).office } .realtime ∧
      (((opening {} 4 0).run letterAged).after .beginTick).office.retryLimit .realtimeRetry [] = 2 := by
  have ordered : (backAndForth.filterMap (·.offeredAt)).Pairwise (· ≤ ·) := by decide
  have forward : Along Forward (opening {} 4 0) letterAged := by decide
  have shares := (sharesByAge_run backAndForth ordered {} 4 0 letterAged forward).2.1 _ _ .realtime .begins
  obtain ⟨t, ht, eligible, long⟩ : ∃ t ∈ (((opening {} 4 0).run letterAged).office.lanes.line .realtimeRetry).tasks,
      t.domain ∉ [] ∧ 30000 ≤ ((opening {} 4 0).run letterAged).office.now - t.enqueuedAt := by decide
  have aged := (stoodFor_iff forward ht).2 long
  exact ⟨ordered, forward, shares, ⟨t, ht, eligible, aged⟩,
    (shares.aged (by decide) ⟨t, ht, eligible, aged⟩).trans (by decide)⟩

/-- A task that is put in after the clock was set back stands behind one that seems to have come later. -/
example :
    let t := ((opening {} 4 0).office.enter letter).1
    let line := (Turnover.run [.offer t 20, .offer t 10]).lanes.line .realtimeFresh
    line.oldest? [] = some 20 ∧ line.earliest? [] = some 10 := by decide

end World

end Postroom
