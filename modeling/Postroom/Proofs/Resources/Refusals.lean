import Postroom.Proofs.Desk.Counts
import Postroom.Proofs.Resources.Permits
import Postroom.Proofs.Waits.Shortages

/-!
# Tasks that are executed in vain

A task that gets its permit may still find no worker. Then all that was taken for it goes back, and its batch ends: but
for that end, the office is as it was. A task that gets no permit sleeps or is given up, and its batch goes on, unless
the timers are closed.

- `Daily.count_totals_record`: a batch that is counted is one more in the totals.
- `Office.Reverted`: all that is left of a task that no worker took. `Office.execute_of_refused`: why.
- `Office.Shelved`: what becomes of a task that got no permit.
- `Office.InVain`, `World.inVain_run`: both, for whatever task is at hand after a history.
-/

namespace Postroom

/-! ### Counts of the days -/

namespace Daily

theorem since_prune (d : Daily) (now : Int) : (d.prune now).Since (Calendar.dayOf now - (retention - 1)) :=
  fun _ kept => of_decide_eq_true (List.mem_filter.1 kept).2

theorem inWeek_self (now : Int) : InWeek (Calendar.dayOf now - (retention - 1)) now := by
  unfold InWeek retention
  omega

/-- A batch that is counted is one more in the totals, under how it ended. -/
theorem count_totals_record (d : Daily) (now : Int) (ended well : Bool) :
    ((d.record now ended).totals now).count well =
      (d.totals now).count well + if ended = well then 1 else 0 := by
  have since := d.since_prune now
  have week := inWeek_self now
  -- days that are forgotten when the batch is counted are not in the totals either
  have pruned : d.record now ended = (d.prune now).record now ended := by
    rw [record_eq, record_eq, update, update, prune_of_since since week]
  rw [count_totals, count_totals, pruned, prune_of_since (since_record since week ended) week,
    sum_record since week]

/-- One failed batch more. -/
theorem totals_recordFailed (d : Daily) (now : Int) : (d.recordFailed now).totals now =
    { d.totals now with failed := (d.totals now).failed + 1 } := by
  have completed : ((d.recordFailed now).totals now).completed = (d.totals now).completed :=
    d.count_totals_record now false true
  have failed : ((d.recordFailed now).totals now).failed = (d.totals now).failed + 1 :=
    d.count_totals_record now false false
  exact congrArg₂ DayCounts.mk completed failed

end Daily

namespace Office

variable {o o' : Office} {t : Task} {p : Permit} {cause : Fault}

/-! ### No worker -/

/-- An attempt that is counted as started and as ended again is in no count. -/
theorem countEnd_countStart (o : Office) (l : Lane) : (o.countStart l).countEnd l =
    { o with metrics := o.metrics.attemptStarted.attemptFinished } := by
  have back : (o.inFlight.modify l (· + 1)).modify l (· - 1) = o.inFlight := by
    refine PerLane.ext_get fun l' => ?_
    rw [PerLane.get_modify, PerLane.get_modify]
    split <;> rfl
  have some : (o.countStart l).inFlight.get l ≠ 0 := by
    rw [countStart, PerLane.get_modify, if_pos rfl]
    exact Nat.succ_ne_zero _
  rw [countEnd, if_neg some]
  simp only [countStart, back]

/-- A batch that has not ended ends with a fault, and is counted. -/
theorem fail_of_isOpen (unended : o.ledger.isOpen t.ticket) : o.fail t cause = { o with
    waits := o.waits.clear t.id
    ledger := o.ledger.resolve t.ticket (.error cause)
    daily := o.daily.recordFailed o.now
    metrics := o.metrics.batchEnded t.traffic false } := if_pos unended

/-- What is left of an execution that no worker took: the batch has ended with `cause`, and that was counted. -/
structure Reverted (o : Office) (t : Task) (cause : Fault) (o' : Office) : Prop where
  /-- The attempts in flight, the running attempts of jobs, the lanes and the timers are as before, and so are the
  workers and all that runs. -/
  rest : o' = { o with
    pool := o'.pool
    slots := o'.slots
    waits := o'.waits
    daily := o'.daily
    metrics := o'.metrics
    ledger := o'.ledger }
  leases : o'.pool.leasesAt = o.pool.leasesAt
  total : o'.pool.totalAt = o.pool.totalAt
  slots : o'.slots.inUse = o.slots.inUse
  gauge : o'.metrics.inFlight = o.metrics.inFlight
  /-- Its batch has ended. -/
  verdict : o'.ledger.verdict? t.ticket = some (.error cause)
  /-- It is counted as failed, and once. -/
  daily : o'.dailyTotals.1 = { o.dailyTotals.1 with failed := o.dailyTotals.1.failed + 1 }
  failed : o'.metrics.failed = o.metrics.failed + 1 ∧ o'.metrics.completed = o.metrics.completed
  /-- No other batch has ended or has other results, and no other wait is over. -/
  accounts : ∀ n, t.ticket ≠ n → o'.ledger.account? n = o.ledger.account? n
  waits : ∀ id, t.id ≠ id → o'.waits.start? id = o.waits.start? id

/-- A task that gets its permit and no worker. -/
theorem execute_of_refused (taken : o.acquire? t = some (p, o')) (refused : o.workers.start o.nextNumber = .error cause)
    (unended : o.ledger.isOpen t.ticket) : o.execute t = (.refused cause, { o with
      pool := (o'.releasePermit p).pool
      slots := (o'.releasePermit p).slots
      waits := (o.waits.clear t.id).clear t.id
      ledger := o.ledger.resolve t.ticket (.error cause)
      daily := o.daily.recordFailed o.now
      metrics := o.metrics.attemptStarted.attemptFinished.batchEnded t.traffic false }) := by
  obtain ⟨pool, slots, same⟩ : ∃ pool slots, o' = { o with
      pool := pool
      slots := slots
      waits := o.waits.clear t.id } := ⟨_, _, (grants_of_acquire? taken).rest⟩
  subst same
  have none : (countStart { o with
      pool := pool
      slots := slots
      waits := o.waits.clear t.id } t.lane).workers.start o.nextNumber = .error cause := refused
  simp only [execute_eq, taken]
  rw [show (countStart { o with
      pool := pool
      slots := slots
      waits := o.waits.clear t.id } t.lane).nextNumber = o.nextNumber from rfl, none]
  dsimp only
  rw [countEnd_countStart]
  exact congrArg (Prod.mk _) (fail_of_isOpen unended)

theorem reverted_of_refused (taken : o.acquire? t = some (p, o')) (refused : o.workers.start o.nextNumber = .error cause)
    (unended : o.ledger.isOpen t.ticket) : o.Reverted t cause (o.execute t).2 := by
  have back := usage_refused (S := 0) (granted_of_acquire? taken)
  rw [countEnd_countStart] at back
  rw [execute_of_refused taken refused unended]
  constructor
  case rest => rfl
  case leases => exact congrArg Usage.leases back
  case total => exact congrArg Usage.total back
  case slots => exact congrArg Usage.slots back
  case gauge => exact Int.add_sub_cancel _ 1
  case verdict => exact Ledger.verdict?_resolve_of_isOpen _ _ _ unended
  case daily => exact o.daily.totals_recordFailed o.now
  case failed => exact ⟨rfl, rfl⟩
  case accounts =>
    intro n other
    refine (Ledger.account?_resolve ..).trans ?_
    cases o.ledger.account? n with
    | none => rfl
    | some a => exact congrArg some (if_neg fun both => other both.1)
  case waits =>
    intro id other
    refine (WaitTable.start?_clear ..).trans ?_
    rw [if_neg other, WaitTable.start?_clear, if_neg other]

/-! ### No permit -/

/-- What becomes of the batch of a task that got no permit. -/
inductive Shelved (o : Office) (t : Task) (o' : Office) : Prop where
  /-- It goes on: the task, or the retry of all its recipients, sleeps. -/
  | asleep (n due : Nat) (u : Task) (same : u = t ∨ u = t.next) (sleeps : ⟨n, due, u⟩ ∈ o'.timers.sleepers)
      (unended : o'.ledger.isOpen t.ticket)
  /-- It goes on: the task is among those whose wait ran out. -/
  | expiring (e : Expiry) (same : e.task = t) (expires : e ∈ o'.expiries) (unended : o'.ledger.isOpen t.ticket)
  /-- It has ended, as no task may sleep any more. -/
  | ended (closed : o.timers.closed) (verdict : o'.ledger.verdict? t.ticket = some (.error .shutdown))

theorem deferred_of_short (short : o.acquire? t = none) : ∃ e, (o.execute t).1 = .deferred e := by
  simp only [execute_eq, short]
  rcases o.shortage t with ⟨x, o'⟩
  cases x <;> exact ⟨_, rfl⟩

theorem ledger_execute_of_short (short : o.acquire? t = none) :
    (o.execute t).2.ledger = (o.shortage t).2.ledger := by
  simp only [execute_eq, short]
  rcases o.shortage t with ⟨x, o'⟩
  cases x <;> rfl

/-- As long as the timers are open, to sleep is no end. -/
theorem ledger_sleep (running : o.timers.closed = false) (delay : Nat) (t : Task) :
    (o.sleep delay t).ledger = o.ledger := by
  have slept : o.sleep delay t = _ := if_neg (Bool.eq_false_iff.1 running)
  rw [slept]

theorem ledger_shortage (running : o.timers.closed = false) (t : Task) : (o.shortage t).2.ledger = o.ledger := by
  unfold shortage
  dsimp only
  split
  · exact ledger_sleep (o := (o.waitSince t).2.draw.2) running _ t
  · split
    · exact ledger_sleep (o := { o.waitedOut t with
        waits := (o.waitedOut t).waits.clear t.id
        metrics := (o.waitedOut t).metrics.retryScheduled t.next.lane }) running _ t.next
    · rfl

theorem shelved_of_short (short : o.acquire? t = none) (unended : o.ledger.isOpen t.ticket) :
    o.Shelved t (o.execute t).2 := by
  have ledger := ledger_execute_of_short short
  by_cases lasts : o.config.wait.lastsFor (o.waited t)
  · cases closed : o.timers.closed with
    | true => exact .ended closed (verdict?_of_closed unended short (.inl lasts) closed)
    | false =>
      obtain ⟨n, sleeps⟩ := sleeps_of_lasts short lasts closed
      refine .asleep n _ t (.inl rfl) sleeps ?_
      rw [ledger, ledger_shortage closed]
      exact unended
  · by_cases budget : o.config.retry.hasBudget t.retries
    · cases closed : o.timers.closed with
      | true => exact .ended closed (verdict?_of_closed unended short (.inr budget) closed)
      | false =>
        obtain ⟨n, sleeps⟩ := sleeps_of_budget short lasts budget closed
        refine .asleep n _ t.next (.inr rfl) sleeps ?_
        rw [ledger, ledger_shortage closed]
        exact unended
    · obtain ⟨e, expires, same⟩ := expires_of_spent short lasts budget
      refine .expiring e same expires ?_
      rw [ledger, shortage_of_spent lasts budget]
      exact unended

/-! ### Tasks at hand -/

/-- What the execution of `t` comes to, where no attempt starts. -/
structure InVain (o : Office) (t : Task) : Prop where
  /-- No worker takes it: all is put back, and its batch ends with the fault that is returned. -/
  refused : ∀ p, (o.tryAcquire t).1 = some p → o.workers.closed ∨ o.workers.size ≤ o.workers.busy →
    ∃ cause, cause = (if o.workers.closed then .shutdown else Fault.workersBusy) ∧
      (o.execute t).1 = .refused cause ∧ o.Reverted t cause (o.execute t).2
  /-- There is no permit for it: it is deferred, and its batch goes on where it may. -/
  short : (o.tryAcquire t).1 = none → (∃ e, (o.execute t).1 = .deferred e) ∧ o.Shelved t (o.execute t).2

theorem start_of_full {w : Workers} (full : w.closed ∨ w.size ≤ w.busy) (number : Nat) :
    w.start number = .error (if w.closed then .shutdown else Fault.workersBusy) := by
  unfold Workers.start
  split
  · rfl
  · next running => exact if_pos (full.resolve_left running)

theorem inVain_of_isOpen (unended : o.ledger.isOpen t.ticket) : o.InVain t where
  refused p some full := by
    have taken := taken_of_tryAcquire some
    have refused := start_of_full full o.nextNumber
    refine ⟨_, rfl, ?_, reverted_of_refused taken refused unended⟩
    rw [execute_of_refused taken refused unended]
  short none := by
    have short := short_of_tryAcquire none
    exact ⟨deferred_of_short short, shelved_of_short short unended⟩

end Office

namespace World

open Office

/-- A task that can be executed, in the office in which it can. -/
inductive AtHand (w : World) : Office → Task → Prop where
  /-- A tick executes it, perhaps after others. -/
  | executed (h : Happening) (o : Office) (t : Task) (executes : (o, t) ∈ w.executed h) : AtHand w o t
  /-- It was the next of a lane. -/
  | polled (l : Lane) (excluded : List Domain) (o : Office) (t : Task)
      (next : w.office.poll? l excluded = some (t, o)) : AtHand w o t
  /-- A registration handed it out. -/
  | outside (t : Task) (out : t ∈ w.outside) : AtHand w w.office t
  /-- It is the task of a batch that was just entered. -/
  | entered (s : Submission) : AtHand w (w.office.enter s).2 (w.office.enter s).1

variable {w : World} {o : Office} {t : Task}

/-- The batch of a task at hand has not ended. -/
theorem AtHand.isOpen (owned : w.custody.Owned) (hand : w.AtHand o t) : o.ledger.isOpen t.ticket := by
  cases hand with
  | executed h o t executes =>
    exact isOpen_of_live (owned.leads (leads_of_executed (R := fun _ _ => True) executes)) (mem_holding w o t)
  | polled l excluded o t next =>
    obtain ⟨⟨u, lanes⟩, polled, same⟩ := Option.map_eq_some_iff.1 next
    cases same
    have queued : u ∈ w.office.lanes.tasks := by
      rw [← Multiset.mem_coe, Lanes.coe_poll? polled]
      exact Multiset.mem_cons_self u _
    obtain ⟨m, listed⟩ := (Lanes.mem_tasks_iff _).1 queued
    exact isOpen_of_live owned (mem_holdings_queued.2 listed)
  | outside t out => exact isOpen_of_live owned (mem_holdings_outside.2 out)
  | entered s =>
    refine (Ledger.isOpen_enter ..).trans ?_
    rw [Bool.or_eq_true, decide_eq_true_iff]
    exact .inl rfl

/-- After every history, whatever task is at hand: where no worker takes it all is put back but the end of its batch,
and where there is no permit for it, it is deferred. -/
theorem inVain_run (config : Config) (workers : Nat) (wall : Calendar.Moment) (hs : List Happening) (o : Office) (t : Task)
    (hand : ((opening config workers wall).run hs).AtHand o t) : o.InVain t :=
  inVain_of_isOpen (hand.isOpen
    (owned_run (regular_opening config workers wall) (owned_opening config workers wall) hs))

/-- The only worker is busy with a letter when a parcel comes. -/
def behindLetter : Task × Office := ((opening oneSlot 1 0).run [.submit letter, .tick]).office.enter parcel

/-- The parcel gets the slot, but no worker: the slot goes back, and it is counted as failed. -/
theorem inVain_behindLetter :
    ((opening oneSlot 1 0).run [.submit letter, .tick]).AtHand behindLetter.2 behindLetter.1 ∧
      behindLetter.2.InVain behindLetter.1 ∧
      ((behindLetter.2.tryAcquire behindLetter.1).1.bind (·.slot)) = some .bulk ∧
      (behindLetter.2.execute behindLetter.1).2.slots.inUse .bulk = 0 ∧
      (behindLetter.2.execute behindLetter.1).2.dailyTotals.1 = ⟨0, 1⟩ := by
  have hand : ((opening oneSlot 1 0).run [.submit letter, .tick]).AtHand behindLetter.2 behindLetter.1 :=
    .entered parcel
  exact ⟨hand, inVain_run oneSlot 1 0 _ _ _ hand, by decide, by decide, by decide⟩

end World

end Postroom
