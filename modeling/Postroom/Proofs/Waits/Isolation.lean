import Postroom.Proofs.Runs.EndsAborted
import Postroom.Proofs.Waits.Attended

/-!
# Every wait has its own clock

How long a task has waited is counted from its first shortage. What happens to others does not set that back: the
start of a wait stays on record until the task gets its resources, has waited too long or ends, or until its job is
unregistered or a run of its job is ended. The end of a run clears the waits of the whole job, also those of the
tasks of a newer run.

- `Bench.wait?_of_step`, `Bench.wait?_of_step_of_none`: what one step leaves of the wait of a task.
- `World.Apart`: no other task has the name of a live task. `World.EndsWait`: how a wait comes to its end.
- `World.StartsStay`, `World.ClocksKept`: what a happening leaves on record. `World.clocksKept_after`,
  `World.start?_run`: it holds of every happening, and so a start stays along a history.
- `World.clock_set_back`: the end of a run sets back the clocks of a newer run of the job.
-/

namespace Postroom

namespace WaitTable

variable {w : WaitTable} {id : BatchId} {wait : Wait}

/-- A wait that has begun does not begin again. -/
theorem wait?_since_of_some (found : w.wait? id = some wait) (name : BatchId) (runner : Option RunnerId) (now : Int) :
    (w.since name runner now).2.wait? id = some wait := by
  unfold since
  split
  · exact found
  · next none =>
    have other : name ≠ id := by
      rintro rfl
      cases none.symm.trans found
    rw [wait?, Table.find?_insert, if_neg other]
    exact found

theorem wait?_clear_of_ne {name : BatchId} (other : name ≠ id) : (w.clear name).wait? id = w.wait? id := by
  rw [wait?, clear, Table.find?_erase, if_neg other, wait?]

/-- The waits of another job stay. -/
theorem wait?_clearJob_of_some {job : RunnerId} (found : w.wait? id = some wait) (other : wait.runner ≠ some job) :
    (w.clearJob job).wait? id = some wait := by
  obtain ⟨e, first, rfl⟩ := Option.map_eq_some_iff.1 found
  rw [wait?, clearJob, Table.filter, Table.find?, List.find?_filter, Option.map_eq_some_iff]
  refine ⟨e, ?_, rfl⟩
  rw [List.find?_eq_some_iff_append] at first ⊢
  obtain ⟨name, before, later, same, others⟩ := first
  refine ⟨?_, before, later, same, fun a ha => ?_⟩
  · simp [name, other]
  · have unlike := others a ha
    rw [Bool.not_eq_true'] at unlike ⊢
    simp [unlike]

theorem wait?_eq_none : w.wait? id = none ↔ ∀ e ∈ w.waits.entries, e.1 ≠ id := by
  rw [wait?, Table.find?, Option.map_eq_none_iff, List.find?_eq_none]
  simp only [decide_eq_true_eq]

end WaitTable

namespace Bench

variable {ok : Effect → Prop} {b c : Bench} {id : BatchId} {wait : Wait}

/-- A step that does not end the wait of a task leaves it as it began. -/
theorem wait?_of_step (clear : ¬ ok (.clear id)) (job : ∀ j, ok (.clearJob j) → wait.runner ≠ some j)
    (step : Step ok b c) (found : b.waits.wait? id = some wait) : c.waits.wait? id = some wait := by
  cases step with
  | lack t now _ => exact WaitTable.wait?_since_of_some found t.id t.runnerId now
  | leave t permitted =>
    have other : t.id ≠ id := by
      rintro rfl
      exact clear permitted
    exact (WaitTable.wait?_clear_of_ne other).trans found
  | clearJob j permitted => exact WaitTable.wait?_clearJob_of_some found (job j permitted)
  | _ => exact found

/-- No wait begins but that of a task that finds no resources. -/
theorem wait?_of_step_of_none (lack : ∀ t, ok (.lack t) → t.id ≠ id) (step : Step ok b c)
    (absent : b.waits.wait? id = none) : c.waits.wait? id = none := by
  rw [WaitTable.wait?_eq_none] at absent ⊢
  cases step with
  | lack t now permitted =>
    intro e he
    rcases WaitTable.mem_of_since he with rfl | old
    · exact lack t permitted
    · exact absent e old
  | leave t _ => exact fun e he => absent e (WaitTable.mem_clear.1 he).1
  | clearJob j _ => exact fun e he => absent e (WaitTable.mem_of_clearJob he)
  | _ => exact absent

end Bench

namespace World

open Bench Office Custody

variable {w : World} {h : Happening} {short : List Sleeper}

/-- No two live tasks have one name, and what is made has the name of no task of another batch. -/
structure Apart (w : World) (h : Happening) : Prop where
  distinct : w.Distinct
  made : ∀ t ∈ w.made h, ∀ x ∈ w.holdings, x.task.ticket ≠ t.ticket → x.task.id ≠ t.id

instance : Decidable (w.Apart h) :=
  decidable_of_iff (w.Distinct ∧ ∀ t ∈ w.made h, ∀ x ∈ w.holdings, x.task.ticket ≠ t.ticket → x.task.id ≠ t.id)
    ⟨fun both => ⟨both.1, both.2⟩, fun apart => ⟨apart.distinct, apart.made⟩⟩

/-- How the wait of `t` can come to its end: with what happens to the task itself, with its job, or with a run that
counts as its own. -/
inductive EndsWait (own : Task → Runner → Bool) (w : World) (h : Happening) (t : Task) : Prop where
  | relieved (relieves : w.Relieves h t)
  | unregistered {id : RunnerId} (job : t.runnerId = some id) (same : h = .unregister id)
  | aborted {u : Runner} {c : Fault} (ends : w.aborts? h = some (u, c)) (run : own t u)

/-- The start of a wait stays on record when something happens, unless the wait comes to its end. -/
def StartsStay (own : Task → Runner → Bool) (w : World) (h : Happening) : Prop :=
  ∀ x ∈ w.holdings, ∀ start, w.office.waits.start? x.task.id = some start →
    (w.after h).office.waits.start? x.task.id = some start ∨ EndsWait own w h x.task

/-- The record of when waits began, before and after a happening. -/
structure ClocksKept (own : Task → Runner → Bool) (w : World) (h : Happening) : Prop where
  kept : StartsStay own w h
  /-- No wait begins but that of a task that is executed and finds no resources. -/
  begun : ∀ x ∈ w.holdings, w.office.waits.start? x.task.id = none →
    (w.after h).office.waits.start? x.task.id = none ∨ ∃ o, (o, x.task) ∈ w.executed h ∧ o.acquire? x.task = none

/-- A run counts as a task's own if it is of the task's job. -/
def ofJob (t : Task) (u : Runner) : Bool := t.ownedByJob u.id

/-- What is made of a batch with a task on the bench puts an end to that task's wait. -/
theorem relieves_of_made (owned : w.custody.Owned) {t : Task} (ht : t ∈ w.made h) {x : Holding}
    (hx : x ∈ w.holdings) (bench : x.onBench) (same : x.task.ticket = t.ticket) : w.Relieves h x.task := by
  rcases made_cases ht with new | ⟨o, u, executed, escalates, ticket⟩ | ⟨y, hy, away, ticket⟩
  · have known := Ledger.lt_of_isOpen (isOpen_of_live owned hx)
    rw [same, new] at known
    exact absurd known (lt_irrefl _)
  · obtain ⟨l, hl⟩ := live_of_executed executed
    obtain rfl := eq_of_ticket owned hx hl (same.trans ticket.symm)
    obtain ⟨none, retried⟩ := Bool.and_eq_true_iff.1 escalates
    refine .escalated executed (Option.isNone_iff_eq_none.1 none) fun delay requeued => ?_
    have requeued : (o.shortage u).1 = .requeued delay := requeued
    rw [requeued] at retried
    cases retried
  · obtain rfl := eq_of_ticket owned hx hy (same.trans ticket.symm)
    rw [away] at bench
    cases bench

/-- A wait that a happening may clear comes to its end with it. -/
theorem endsWait_of_clear (owned : w.custody.Owned) (apart : w.Apart h) {x : Holding} (hx : x ∈ w.holdings)
    (bench : x.onBench) (clear : w.Affects h (.clear x.task.id)) : EndsWait ofJob w h x.task := by
  generalize same : x.task.id = id at clear
  cases clear with
  | live hy relieves =>
    obtain rfl := eq_of_id apart.distinct hx hy same
    exact .relieved (relieves bench)
  | @made t ht =>
    have ticket : x.task.ticket = t.ticket := not_not.1 fun other => apart.made t ht x hx other same
    exact .relieved (relieves_of_made owned ht hx bench ticket)
  | @withRun u c t ends queued run =>
    obtain ⟨l, hl⟩ := (Lanes.mem_tasks_iff _).1 queued
    obtain rfl := eq_of_id apart.distinct hx (mem_holdings_queued.2 hl) same
    have runner : t.runner = some u := of_decide_eq_true run
    refine .aborted ends (decide_eq_true ?_)
    show t.runner.map (·.id) = some u.id
    rw [runner, Option.map_some]

/-- Whatever happens, the clock of a wait goes on until the wait comes to its end. -/
theorem clocksKept_after (regular : w.custody.Regular) (owned : w.custody.Owned)
    (attended : w.bench.Attended (· ∈ short)) (apart : w.Apart h) : ClocksKept ofJob w h where
  kept x hx start recorded := by
    obtain ⟨wait, found, began⟩ := Option.map_eq_some_iff.1 recorded
    -- the wait is that of this task and of its job, so it can be cleared as theirs only
    obtain ⟨awaits, job⟩ := awaits_of_wait? attended apart.distinct hx found
    by_cases ends : EndsWait ofJob w h x.task
    · exact .inr ends
    have still : (w.after h).bench.waits.wait? x.task.id = some wait := by
      refine (affects_after regular owned h).keeps (I := fun b => b.waits.wait? x.task.id = some wait)
        (fun b c => wait?_of_step ?_ ?_) found
      · exact fun clear => ends (endsWait_of_clear owned apart hx (Holding.onBench_of_awaits awaits) clear)
      · intro j clear same
        rw [← job] at same
        cases clear with
        | ends aborts => exact ends (.aborted aborts (decide_eq_true same))
        | unregisters unregister => exact ends (.unregistered same unregister)
    exact .inl (Option.map_eq_some_iff.2 ⟨wait, still, began⟩)
  begun x hx absent := by
    by_cases lacks : ∃ o, (o, x.task) ∈ w.executed h ∧ o.acquire? x.task = none
    · exact .inr lacks
    have still : (w.after h).bench.waits.wait? x.task.id = none := by
      refine (affects_after regular owned h).keeps (I := fun b => b.waits.wait? x.task.id = none)
        (fun b c => wait?_of_step_of_none ?_) (Option.map_eq_none_iff.1 absent)
      intro t lack same
      cases lack with
      | lacks executed unavailable =>
        obtain ⟨l, hl⟩ := live_of_executed executed
        obtain rfl := eq_of_id apart.distinct hl hx same
        exact lacks ⟨_, executed, unavailable⟩
    exact .inl (Option.map_eq_none_iff.2 still)

/-! ### Histories -/

/-- Nothing puts an end to the wait of the task with the name `id`. -/
structure LetsWait (id : BatchId) (w : World) (h : Happening) : Prop where
  holds : HoldsOn w h
  apart : w.Apart h
  goesOn : ∀ x ∈ w.holdings, x.task.id = id → ¬ EndsWait ofJob w h x.task

/-- As long as nothing puts an end to a wait, it has begun when it began, however many shortages there are. -/
theorem start?_run (regular : w.custody.Regular) (owned : w.custody.Owned)
    (attended : w.bench.Attended (· ∈ short)) {id : BatchId} {start : Int} {hs : List Happening}
    (shelved : ∀ s ∈ w.shelvedAlong hs, s ∈ short) (lets : Along (LetsWait id) w hs)
    (began : w.office.waits.start? id = some start) : (w.run hs).office.waits.start? id = some start := by
  induction hs generalizing w with
  | nil => exact began
  | cons h hs ih =>
    obtain ⟨wait, found, -⟩ := Option.map_eq_some_iff.1 began
    obtain ⟨t, name, -, seats⟩ := attended _ (WaitTable.mem_of_wait? found)
    obtain ⟨x, hx, rfl, -⟩ := exists_awaiting seats
    obtain rfl : x.task.id = id := name
    have still := ((clocksKept_after regular owned attended lets.1.apart).kept x hx start began).resolve_right
      (lets.1.goesOn x hx rfl)
    refine ih (regular_after regular h) (owned_after regular owned h) ?_
      (fun s hs => shelved s (List.mem_append_right _ hs)) lets.2 still
    exact attended_after regular owned lets.1.holds (fun s hs => shelved s (List.mem_append_left _ hs)) attended

/-- After every history in which callers end or keep what they took out, every happening keeps the clocks of the
waits, and so a wait that nothing puts an end to has begun when it began. -/
theorem clocksKept_run (config : Config) (workers : Nat) (wall : Calendar.Moment) (hs : List Happening)
    (holds : Along HoldsOn (opening config workers wall) hs) :
    (∀ h, Apart ((opening config workers wall).run hs) h →
        ClocksKept ofJob ((opening config workers wall).run hs) h) ∧
      ∀ id start ks, Along (LetsWait id) ((opening config workers wall).run hs) ks →
        ((opening config workers wall).run hs).office.waits.start? id = some start →
        ((opening config workers wall).run (hs ++ ks)).office.waits.start? id = some start := by
  have regular := regular_opening config workers wall
  have owned := owned_opening config workers wall
  have regular' : ((opening config workers wall).run hs).custody.Regular := regular_run regular hs
  have owned' : ((opening config workers wall).run hs).custody.Owned := owned_run regular owned hs
  constructor
  · intro h apart
    have attended := attended_run regular owned holds (fun s hs => hs) (attended_opening config workers wall)
    exact clocksKept_after regular' owned' attended apart
  · intro id start ks lets began
    have shelved : ∀ s ∈ (opening config workers wall).shelvedAlong hs,
        s ∈ (opening config workers wall).shelvedAlong (hs ++ ks) := by
      intro s hs
      rw [shelvedAlong_append]
      exact List.mem_append_left _ hs
    have attended := attended_run regular owned holds shelved (attended_opening config workers wall)
    rw [run_append]
    refine start?_run regular' owned' attended (fun s hs => ?_) lets began
    rw [shelvedAlong_append]
    exact List.mem_append_right _ hs

/-- A letter finds no resources, and is queued again when its time has come. -/
def letterQueued : List Happening := [.submit letter, .tick, .pass 200, .wake 0]

/-- When it finds none again, its wait has still begun with the first shortage. -/
theorem clocksKept_letterQueued :
    Along HoldsOn (opening noSessions 4 0) letterQueued ∧
      ClocksKept ofJob ((opening noSessions 4 0).run letterQueued) .tick ∧
      ((opening noSessions 4 0).run letterQueued).office.now = 200 ∧
      ((opening noSessions 4 0).run (letterQueued ++ [.tick])).office.waits.start? ⟨"b1"⟩ = some 0 := by
  have holds : Along HoldsOn (opening noSessions 4 0) letterQueued := by simp [letterQueued, Along, HoldsOn]
  exact ⟨holds, (clocksKept_run noSessions 4 0 letterQueued holds).1 _ (by decide), by decide, by decide⟩

/-! ### Other runs of a job -/

/-- A parcel of a run. -/
def parcelOf (id : String) (domain : String) (u : Runner) : Submission :=
  { parcel with id := id, domain := ⟨domain⟩, runner := some u, sink := some "book" }

/-- A parcel of a run that was replaced is delivered, while one of the new run has found no resources. -/
def runReplaced : List Happening :=
  [.register ⟨⟨"job"⟩, 1⟩, .submit (parcelOf "b1" "example.net" ⟨⟨"job"⟩, 1⟩), .tick,
    .register ⟨⟨"job"⟩, 2⟩, .submit (parcelOf "b2" "example.org" ⟨⟨"job"⟩, 2⟩), .tick,
    .sendEnded 0 (.ok parcelDelivered), .collect 0]

/-- A parcel is dropped that has found no resources, and its name is taken for one of another job. -/
def nameReused : List Happening :=
  parcelDropped ++
    [.register ⟨⟨"other"⟩, 1⟩, .submit (parcelOf "b1" "example.org" ⟨⟨"other"⟩, 1⟩), .tick]

/-- Where nothing is executed, a task is relieved by the end of its batch only. -/
theorem not_relieves_of_idle {t : Task} (idle : w.executed h = [])
    (unended : (w.after h).office.ledger.verdict? t.ticket = none) : ¬ w.Relieves h t := by
  rintro (⟨executed, -⟩ | ⟨executed, -, -⟩ | ended)
  · rw [idle] at executed
    cases executed
  · rw [idle] at executed
    cases executed
  · rw [unended] at ended
    cases ended

/-- The end of a run sets back the clocks of a newer run of its job; and where a dropped task has left its wait to
another task of its name, what happens to the one job sets back the clock of the other. -/
theorem clock_set_back :
    (¬ ∀ (config : Config) (workers : Nat) (wall : Calendar.Moment) (hs : List Happening) (h : Happening),
      Along HoldsOn (opening config workers wall) hs → Apart ((opening config workers wall).run hs) h →
      StartsStay Task.ownedBy ((opening config workers wall).run hs) h) ∧
    ¬ ∀ (config : Config) (workers : Nat) (wall : Calendar.Moment) (hs : List Happening) (h : Happening),
      Apart ((opening config workers wall).run hs) h → StartsStay ofJob ((opening config workers wall).run hs) h := by
  constructor
  · intro all
    let w := (opening noSessions 4 0).run runReplaced
    have holds : Along HoldsOn (opening noSessions 4 0) runReplaced := by simp [runReplaced, Along, HoldsOn]
    have stay := all noSessions 4 0 runReplaced (.recordRefused 0 "full") holds (by decide)
    obtain ⟨x, hx, name, ticket, runner⟩ : ∃ x ∈ w.holdings,
        x.task.id = ⟨"b2"⟩ ∧ x.task.ticket = 1 ∧ x.task.runner = some ⟨⟨"job"⟩, 2⟩ := by decide
    have began : w.office.waits.start? ⟨"b2"⟩ = some 0 := by decide
    have cleared : (w.after (.recordRefused 0 "full")).office.waits.start? ⟨"b2"⟩ = none := by decide
    have unended : (w.after (.recordRefused 0 "full")).office.ledger.verdict? 1 = none := by decide
    have abort : w.aborts? (.recordRefused 0 "full") = some (⟨⟨"job"⟩, 1⟩, .persistence "full") := by decide
    rcases stay x hx 0 (name ▸ began) with still | relieves | ⟨-, same⟩ | ⟨aborts, own⟩
    · rw [name, cleared] at still
      cases still
    · exact not_relieves_of_idle rfl (ticket ▸ unended) relieves
    · cases same
    · rw [abort] at aborts
      cases aborts
      rw [Task.ownedBy, runner] at own
      exact absurd own (by decide)
  · intro all
    let w := (opening noSessions 4 0).run nameReused
    have stay := all noSessions 4 0 nameReused (.unregister ⟨"job"⟩) (by decide)
    obtain ⟨x, hx, name, ticket, job⟩ : ∃ x ∈ w.holdings,
        x.task.id = ⟨"b1"⟩ ∧ x.task.ticket = 1 ∧ x.task.runnerId = some ⟨"other"⟩ := by decide
    have began : w.office.waits.start? ⟨"b1"⟩ = some 0 := by decide
    have cleared : (w.after (.unregister ⟨"job"⟩)).office.waits.start? ⟨"b1"⟩ = none := by decide
    have unended : (w.after (.unregister ⟨"job"⟩)).office.ledger.verdict? 1 = none := by decide
    rcases stay x hx 0 (name ▸ began) with still | relieves | ⟨own, same⟩ | ⟨aborts, -⟩
    · rw [name, cleared] at still
      cases still
    · exact not_relieves_of_idle rfl (ticket ▸ unended) relieves
    · cases same
      rw [job] at own
      exact absurd own (by decide)
    · cases aborts

end World

end Postroom
