import Postroom.Proofs.Waits.Clocks

/-!
# Escalation

What becomes of a task that is short is decided by the time since the first of its shortages. Before the timeout it
sleeps for the requeue delay and goes back into its lane as it is. The first shortage from the timeout on escalates: the
task is retried if a retry is left, and otherwise it is given up as it is, and gets its last results once that is taken
up. In both cases the wait is over, and a retry begins to wait anew.

- `World.Lapses`: what comes of a task that is given up. `World.Decides`: what becomes of a task that is short.
- `World.escalates_run`: the time since the first shortage decides, whatever happens in between.
- `World.wait_inherited`: a caller that drops a task leaves its wait to another one of its name.
-/

namespace Postroom

/-- Whether a wait is shorter than the timeout, where a timeout beyond the range of the clock is never reached. -/
theorem WaitConfig.lastsFor_iff {c : WaitConfig} {waited : Int} :
    c.lastsFor waited ↔ (c.timeout < twoTo 63 → waited < c.timeout) := by
  rw [lastsFor, Bool.or_eq_true, decide_eq_true_iff, decide_eq_true_iff, ← Nat.not_lt, ← imp_iff_not_or]

namespace World

open Bench Office Custody

variable {w : World} {h : Happening} {n k : Nat}

/-! ### What becomes of a task that is short -/

/-- What was given up gets its results as far as it is taken up and its sink keeps them. When the sink refuses one,
its batch ends with that, and nothing of it has become final. -/
structure Lapses (w : World) (e : Expiry) (before : List RecipientResult) : Prop where
  settles : ∀ ks, (∀ k ∈ ks, e.Spares k) → (w.run ks).GivenUp e before (ks.foldl e.recorded none)
  refused : ∀ ks, (∀ k ∈ ks, e.Spares k) → ∀ j, ks.foldl e.recorded none = some j → e.task.batch.sink.isSome →
    j < e.task.recipients.length → ∀ message ls,
      (((w.run ks).after (.recordRefused e.number message)).run ls).office.ledger.verdict? e.task.ticket =
          some (.error (ownFault e.task (.persistence message))) ∧
        (((w.run ks).after (.recordRefused e.number message)).run ls).office.ledger.settledOf e.task.ticket = before

theorem lapses {e : Expiry} {before : List RecipientResult} (regular : w.custody.Regular) (owned : w.custody.Owned)
    (given : w.GivenUp e before none) : w.Lapses e before where
  settles ks spares := givenUp_run regular owned spares given
  refused ks spares j recorded sink more := by
    have given' := givenUp_run regular owned spares given
    rw [recorded] at given'
    exact ended_of_refused (regular_run regular ks) (owned_run regular owned ks) sink more given'

/-- With settings `c`, what becomes of a task that is executed in the office `o` and finds no resources, when it has
waited for so long. -/
structure Decides (w : World) (h : Happening) (c : Config) (o : Office) (t : Task) (waited : Int) : Prop where
  /-- Before the timeout the task as it is sleeps for the requeue delay. -/
  patient : (c.wait.timeout < twoTo 63 → waited < c.wait.timeout) →
    ∃ delay, min c.wait.requeueBase (twoTo 64 - 1) ≤ delay ∧ delay ≤ c.wait.requeueBase + c.wait.requeueJitter ∧
      (o.shortage t).1 = .requeued delay ∧ (o.timers.closed = false →
        ∃ s, s.task = t ∧ s.due = o.clock.uptime + delay ∧ (w.after h).Sleeps s)
  /-- From then on it is retried, each of its recipients with one retry more, if a retry is left. -/
  retried : c.wait.timeout < twoTo 63 → c.wait.timeout ≤ waited → t.retries < c.retry.maxRetries →
    (o.shortage t).1 = .retried ∧ (w.after h).office.waits.start? t.id = none ∧ (o.timers.closed = false →
      ∃ s, s.task = t.next ∧ s.due = o.clock.uptime + c.retry.delay t.next.retries ∧ (w.after h).Sleeps s)
  /-- Where none is left, the task as it is is given up. -/
  expired : c.wait.timeout < twoTo 63 → c.wait.timeout ≤ waited → c.retry.maxRetries ≤ t.retries →
    (o.shortage t).1 = .expired t ∧ (w.after h).office.waits.start? t.id = none ∧
      ∃ e, e.task = t ∧ (w.after h).Lapses e (w.office.ledger.settledOf t.ticket)
  /-- Where the timers are closed, the batch ends that would have to sleep. -/
  shut : o.timers.closed → (o.shortage t).1 ≠ .expired t →
    (w.after h).office.ledger.verdict? t.ticket = some (.error .shutdown)

theorem decides {c : Config} {o : Office} {t : Task} (regular : w.custody.Regular) (owned : w.custody.Owned)
    (sound : w.office.lanes.Sound) (apart : w.Apart h) (config : w.office.config = c)
    (executed : (o, t) ∈ w.executed h) (short : o.acquire? t = none) : w.Decides h c o t (o.waited t) := by
  obtain rfl : o.config = c := (leads_of_executed (R := fun _ _ => True) executed).config.trans config
  obtain ⟨before, later, hold, mid, turned⟩ := exists_turned executed
  obtain ⟨sleepers, -, expiries⟩ := turned.left
  obtain ⟨l, hl⟩ := live_of_executed executed
  have regular' := regular_after regular h
  have owned' := owned_after regular owned h
  have unended : o.ledger.isOpen t.ticket :=
    isOpen_of_live (owned.leads (leads_of_executed (R := fun _ _ => True) executed)) (mem_holding w o t)
  have sleeps : ∀ s ∈ (o.execute t).2.timers.sleepers, (w.after h).Sleeps s :=
    fun s hs => World.sleeps regular' (sound_after h sound) (sleepers s hs)
  have cleared : ¬ o.config.wait.lastsFor (o.waited t) → (w.after h).office.waits.start? t.id = none :=
    fun spent => (start?_executed owned apart executed).2.trans (start?_of_spent short spent)
  have spent : o.config.wait.timeout < twoTo 63 → o.config.wait.timeout ≤ o.waited t →
      ¬ o.config.wait.lastsFor (o.waited t) :=
    fun inside elapsed lasts => Int.not_lt.2 elapsed (WaitConfig.lastsFor_iff.1 lasts inside)
  refine ⟨fun waits => ?_, fun inside elapsed budget => ?_, fun inside elapsed full => ?_, fun closed goesOn => ?_⟩
  · have lasts := WaitConfig.lastsFor_iff.2 waits
    obtain ⟨shortest, longest⟩ := requeueDelay_bounds o.config.wait o.draw.1
    refine ⟨_, shortest, longest, congrArg Prod.fst (shortage_of_lasts lasts), fun running => ?_⟩
    obtain ⟨m, asleep⟩ := sleeps_of_lasts short lasts running
    exact ⟨_, rfl, rfl, sleeps _ asleep⟩
  · have spent := spent inside elapsed
    have budget : o.config.retry.hasBudget t.retries := decide_eq_true budget
    refine ⟨congrArg Prod.fst (shortage_of_budget spent budget), cleared spent, fun running => ?_⟩
    obtain ⟨m, asleep⟩ := sleeps_of_budget short spent budget running
    exact ⟨_, rfl, rfl, sleeps _ asleep⟩
  · have spent := spent inside elapsed
    have full : ¬ o.config.retry.hasBudget t.retries := fun budget => Nat.not_lt.2 full (of_decide_eq_true budget)
    obtain ⟨e, he, rfl⟩ := expires_of_spent short spent full
    refine ⟨congrArg Prod.fst (shortage_of_spent spent full), cleared spent, e, rfl, ?_⟩
    refine lapses regular' owned' (.waits (expiries e he) ?_)
    exact settledOf_of_others owned (x := .queued l e.task) hl nofun
  · refine turned.rest.verdict? (verdict?_of_closed unended short ?_ closed)
    by_contra neither
    obtain ⟨spent, full⟩ := not_or.1 neither
    exact goesOn (congrArg Prod.fst (shortage_of_spent spent full))

/-- Whatever happened before in a new office: when the `k`th retry of the batch `n` is short, the time since the first
of its shortages decides what becomes of it, as long as callers hold on to what they took out, no two live tasks have
one name, and since that shortage no run of its job has ended and the job was not unregistered. No task of the batch
with more retries has been short then, so that its next retry begins to wait anew. -/
theorem escalates_run (config : Config) (workers : Nat) (wall : Calendar.Moment) (before later : List Happening)
    (h : Happening) (careful : Along Careful (opening config workers wall) (before ++ later ++ [h]))
    (fresh : firstOf n k ((opening config workers wall).shortagesAlong before) = none)
    (leaves : Along (LeavesJob n) ((opening config workers wall).run before) later) :
    ∀ p ∈ ((opening config workers wall).run (before ++ later)).shortages h, p.2.isRetry n k →
      (∃ first, firstOf n k (((opening config workers wall).run before).shortagesAlong (later ++ [h])) = some first ∧
        ((opening config workers wall).run (before ++ later)).Decides h config p.1 p.2 (p.1.now - first.1.now)) ∧
      ∀ q ∈ (opening config workers wall).shortagesAlong (before ++ later ++ [h]),
        q.2.ticket = n → q.2.retries ≤ k := by
  rintro ⟨o, t⟩ listed is
  obtain ⟨careful, ⟨-, apart⟩, -⟩ := along_append.1 careful
  obtain ⟨short, tracked, clocked⟩ := clocked_opening careful fresh leaves
  have regular := regular_run (regular_opening config workers wall) (before ++ later)
  have owned := owned_run (regular_opening config workers wall) (owned_opening config workers wall) (before ++ later)
  have sound := sound_run (sound_opening config workers wall) (before ++ later)
  have same := config_run config workers wall (before ++ later)
  -- the first shortage since `before` is the first one at all
  have found : firstOf n k (((opening config workers wall).run before).shortagesAlong (later ++ [h])) =
      firstOf n k ((opening config workers wall).shortagesAlong (before ++ later) ++
        ((opening config workers wall).run (before ++ later)).shortages h) := by
    rw [shortagesAlong_append _ later, shortagesAlong, shortagesAlong, List.append_nil, shortagesAlong_append _ before,
      List.append_assoc, firstOf_append n k (shortagesAlong _ before), fresh, Option.none_or, run_append]
  rw [found, shortagesAlong_append _ (before ++ later), shortagesAlong, shortagesAlong, List.append_nil]
  generalize (opening config workers wall).run (before ++ later) = w at *
  generalize (opening config workers wall).shortagesAlong (before ++ later) = ps at *
  obtain ⟨executed, unavailable⟩ := mem_shortages.1 listed
  obtain ⟨ticket, retries⟩ := isRetry_iff.1 is
  obtain ⟨l, hl⟩ := live_of_executed executed
  refine ⟨?_, fun q hq sameTicket => ?_⟩
  · obtain ⟨first, begun⟩ := exists_firstOf (List.mem_append_right ps listed) is
    refine ⟨first, begun, ?_⟩
    rw [← waited_of_first owned tracked apart clocked listed is begun]
    exact decides regular owned sound apart same executed unavailable
  rw [← retries]
  rcases List.mem_append.1 hq with hq | hq
  · exact tracked.risen q hq (.queued l t) hl (ticket.trans sameTicket.symm)
  · -- whatever else is short now is of another batch
    obtain ⟨m, hm⟩ := live_of_executed (mem_shortages.1 hq).1
    have one := eq_of_ticket (x := .queued m q.2) (y := .queued l t) owned hm hl (sameTicket.trans ticket.symm)
    exact le_of_eq (congrArg (·.task.retries) one)

/-- Settings under which no session to one domain is allowed, no wait lasts long, and nothing is retried. -/
def impatient : Config := { noSessions with wait := { timeout := 200 }, retry := { maxRetries := 0 } }

theorem careful_of {hs : List Happening} (holds : Along HoldsOn w hs) (apart : Along Apart w hs) :
    Along Careful w hs := by
  induction hs generalizing w with
  | nil => trivial
  | cons h hs ih => exact ⟨⟨holds.1, apart.1⟩, ih holds.2 apart.2⟩

/-- A batch is left to its job along happenings that unregister no job and end no run. -/
theorem along_leavesJob (registered : ∀ id, .unregister id ∉ hs) (aborts : Along (fun w h => w.aborts? h = none) w hs) :
    Along (LeavesJob n) w hs := by
  induction hs generalizing w with
  | nil => trivial
  | cons h hs ih =>
    refine ⟨fun x _ _ id _ => ⟨fun same => ?_, fun u c ended => ?_⟩, ih ?_ aborts.2⟩
    · exact registered id (same ▸ List.mem_cons_self)
    · rw [aborts.1] at ended
      cases ended
    · exact fun id listed => registered id (List.mem_cons_of_mem h listed)

/-- A letter that has waited for as long as the timeout when it finds no resources again is given up. -/
theorem escalates_letterQueued : ∃ first p,
    firstOf 0 0 ((opening impatient 4 0).shortagesAlong (letterQueued ++ [.tick])) = some first ∧
      p ∈ ((opening impatient 4 0).run letterQueued).shortages .tick ∧ p.2.isRetry 0 0 ∧
      p.1.now - first.1.now = 200 ∧ (p.1.shortage p.2).1 = .expired p.2 ∧
      ((opening impatient 4 0).run letterQueued).Decides .tick impatient p.1 p.2 (p.1.now - first.1.now) := by
  have holds : Along HoldsOn (opening impatient 4 0) (letterQueued ++ [.tick]) := by simp [letterQueued, Along, HoldsOn]
  have careful : Along Careful (opening impatient 4 0) ([] ++ letterQueued ++ [.tick]) := careful_of holds (by decide)
  have leaves : Along (LeavesJob 0) (opening impatient 4 0) letterQueued :=
    along_leavesJob (by simp [letterQueued]) ⟨rfl, rfl, rfl, rfl, trivial⟩
  have begins : (firstOf 0 0 ((opening impatient 4 0).shortagesAlong (letterQueued ++ [.tick]))).map (·.1.now) =
      some 0 := by decide
  obtain ⟨p, listed, is, retries, now⟩ : ∃ p ∈ ((opening impatient 4 0).run letterQueued).shortages .tick,
      p.2.isRetry 0 0 ∧ p.2.retries = 0 ∧ p.1.now = 200 := by decide
  obtain ⟨⟨first, begun, decided⟩, -⟩ :=
    escalates_run impatient 4 0 [] letterQueued .tick careful rfl leaves p listed is
  have begun : firstOf 0 0 ((opening impatient 4 0).shortagesAlong (letterQueued ++ [.tick])) = some first := begun
  have start : first.1.now = 0 := by
    rw [begun] at begins
    exact Option.some.inj begins
  have waited : p.1.now - first.1.now = 200 := by
    rw [now, start]
    rfl
  have expired := (decided.expired (by decide) (waited.symm ▸ by decide) (Nat.zero_le _)).1
  exact ⟨first, p, begun, listed, is, waited, expired, decided⟩

/-- A parcel that has found no resources is handed out and dropped. When its name is taken for one of another job, that
one is short for the first time much later. -/
def nameTaken : List Happening :=
  parcelDropped ++
    [.pass 30000, .register ⟨⟨"other"⟩, 1⟩, .submit (parcelOf "b1" "example.org" ⟨⟨"other"⟩, 1⟩)]

/-- Where a caller drops a task, the time since its first shortage is counted for another one that takes its name. -/
theorem wait_inherited :
    ¬ ∀ (config : Config) (workers : Nat) (wall : Calendar.Moment) (before later : List Happening) (h : Happening)
      (n k : Nat),
      Along Apart (opening config workers wall) (before ++ later ++ [h]) →
      firstOf n k ((opening config workers wall).shortagesAlong before) = none →
      Along (LeavesJob n) ((opening config workers wall).run before) later →
      ∀ p ∈ ((opening config workers wall).run (before ++ later)).shortages h, p.2.isRetry n k →
        ∃ first, firstOf n k (((opening config workers wall).run before).shortagesAlong (later ++ [h])) = some first ∧
          ((opening config workers wall).run (before ++ later)).Decides h config p.1 p.2 (p.1.now - first.1.now) := by
  intro all
  have apart : Along Apart (opening noSessions 4 0) ([] ++ nameTaken ++ [.tick]) := by decide
  have leaves : Along (LeavesJob 1) (opening noSessions 4 0) nameTaken :=
    along_leavesJob (by simp [nameTaken, parcelDropped]) ⟨rfl, rfl, rfl, rfl, rfl, rfl, rfl, rfl, rfl, rfl, trivial⟩
  have begins : (firstOf 1 0 ((opening noSessions 4 0).shortagesAlong (nameTaken ++ [.tick]))).map (·.1.now) =
      some 30200 := by decide
  obtain ⟨p, listed, is, now, escalates⟩ : ∃ p ∈ ((opening noSessions 4 0).run nameTaken).shortages .tick,
      p.2.isRetry 1 0 ∧ p.1.now = 30200 ∧ p.1.escalates p.2 := by decide
  -- it has not waited at all, and is retried all the same
  obtain ⟨first, begun, decided⟩ := all noSessions 4 0 [] nameTaken .tick 1 0 apart rfl leaves p listed is
  have start : first.1.now = 30200 := by
    rw [show firstOf 1 0 ((opening noSessions 4 0).shortagesAlong (nameTaken ++ [.tick])) = some first from begun]
      at begins
    exact Option.some.inj begins
  obtain ⟨delay, -, -, requeued, -⟩ := decided.patient fun _ => by rw [now, start]; decide
  obtain ⟨-, retried⟩ := Bool.and_eq_true_iff.1 escalates
  rw [requeued] at retried
  cases retried

end World

end Postroom
