import Postroom.Proofs.Settlements.Expiries
import Postroom.Proofs.Waits.Isolation

/-!
# Shortages

A task that is executed and finds no resources is short. What becomes of it depends on how long its wait has been on
record: it sleeps, is retried or is given up. The tick that executes it goes on with other tasks; as none of these has
its name, the tick finds the record of its wait as it was when the tick began, and leaves it as the execution does.

- `Ticking.Serves.split`: the turns of a tick before and after an execution.
- `Bench.wait?_of_spares`: what does not concern a task leaves its wait as it is.
- `World.Turned`: a task is executed, with the turns of the tick before and after that. `World.Turned.wait?_before`,
  `World.Turned.wait?_later`: the record of its wait in a tick. `World.eq_of_executed`: that is one turn only.
- `Office.shortage_of_lasts` and the like: what becomes of a task that is short.
- `World.lasts_of_onBench`: an execution that leaves a task its place was a shortage, and the task sleeps.
- `World.Sleeps`: a task sleeps until it is woken in its time, and goes into its lane.
-/

namespace Postroom

open Bench

namespace Ticking.Serves

variable {o o' : Office} {ps : List (Office × Task)}

/-- What holds between the offices before and after a turn, and is passed on, holds of many turns. -/
theorem of_turn {P : Office → Office → Prop} (serves : Serves o ps o') (refl : ∀ o, P o o)
    (trans : ∀ o o' o'', P o o' → P o' o'' → P o o'') (turn : ∀ o o', Turn o o' → P o o') : P o o' := by
  induction serves with
  | done o => exact refl o
  | drop next invalid _ ih => exact trans _ _ _ (turn _ _ (.drop next invalid)) ih
  | execute next valid _ ih => exact trans _ _ _ (turn _ _ (.execute next valid)) ih

/-- Turns of a tick wake no sleeper, and leave the timers closed or open. -/
theorem timers (serves : Serves o ps o') : (∀ s ∈ o.timers.sleepers, s ∈ o'.timers.sleepers) ∧
    o'.timers.closed = o.timers.closed := by
  let ok : Deed → Prop
    | .conclude .. | .sleep _ | .poll .. => True
    | _ => False
  have does : Desk.Does ok o.desk o'.desk :=
    serves.of_turn (P := fun o o' => Desk.Does ok o.desk o'.desk) (fun _ => .refl _) (fun _ _ _ => .trans)
      fun _ _ => Office.does_turn (fun _ => ⟨fun _ => trivial, fun _ _ => trivial⟩) fun _ _ => trivial
  refine does.keeps (I := fun d => (∀ s ∈ o.timers.sleepers, s ∈ d.timers.sleepers) ∧
    d.timers.closed = o.timers.closed) (fun d x permitted kept => ?_) ⟨fun _ hs => hs, rfl⟩
  cases x with
  | conclude n v =>
    rw [Desk.after, Desk.timers_conclude]
    exact kept
  | sleep s =>
    rw [Desk.after]
    dsimp only
    split
    · exact kept
    · exact ⟨fun u hu => List.mem_append_left _ (kept.1 u hu), kept.2⟩
  | poll => exact kept
  | _ => cases permitted

/-- What is executed was queued, and is not queued any more. -/
theorem le_queued (serves : Serves o ps o') :
    (↑(ps.map (·.2)) + ↑o'.lanes.tasks : Multiset Task) ≤ ↑o.lanes.tasks := by
  induction serves with
  | done o => exact le_of_eq (zero_add _)
  | @drop o p o'' bulk n excluded t r ps next invalid rest ih =>
    rw [lanes_fail] at ih
    rw [Office.coe_nextTask? next]
    exact ih.trans (Multiset.le_cons_self _ t)
  | @execute o p o'' bulk n excluded t ps next valid rest ih =>
    rw [Office.lanes_execute] at ih
    rw [Office.coe_nextTask? next, List.map_cons, ← Multiset.cons_coe, Multiset.cons_add]
    exact Multiset.cons_le_cons t ih

/-- The turns before an execution, the execution, and the turns after it. -/
theorem split (serves : Serves o ps o') {p : Office} {t : Task} (executed : (p, t) ∈ ps) :
    ∃ before later mid bulk n excluded, ps = before ++ (p, t) :: later ∧ Serves o before mid ∧
      mid.nextTask? bulk n excluded = some (t, p) ∧ Serves (p.execute t).2 later o' := by
  induction serves with
  | done => cases executed
  | drop next invalid _ ih =>
    obtain ⟨before, later, mid, bulk, n, excluded, rfl, first, taken, rest⟩ := ih executed
    exact ⟨before, later, mid, bulk, n, excluded, rfl, .drop next invalid first, taken, rest⟩
  | @execute o q o'' bulk n excluded u ps next valid rest ih =>
    rcases List.mem_cons.1 executed with same | executed
    · cases same
      exact ⟨[], ps, o, bulk, n, excluded, rfl, .done o, next, rest⟩
    · obtain ⟨before, later, mid, bulk, n, excluded, rfl, first, taken, rest⟩ := ih executed
      exact ⟨_ :: before, later, mid, bulk, n, excluded, rfl, .execute next valid first, taken, rest⟩

end Ticking.Serves

namespace Bench

variable {ok : Effect → Prop} {b c : Bench} {id : BatchId}

/-- The effect does not concern the wait of the task with the name `id`. -/
def Effect.Spares (id : BatchId) : Effect → Prop
  | .clear name => name ≠ id
  | .clearJob _ => False
  | .lack t => t.id ≠ id
  | _ => True

/-- What does not concern a task leaves its wait as it is. -/
theorem wait?_of_spares (does : Does (Effect.Spares id) b c) : c.waits.wait? id = b.waits.wait? id := by
  cases found : b.waits.wait? id with
  | none =>
    exact does.keeps (I := fun b => b.waits.wait? id = none)
      (fun b c => wait?_of_step_of_none fun _ spares => spares) found
  | some wait =>
    exact does.keeps (I := fun b => b.waits.wait? id = some wait)
      (fun b c => wait?_of_step (fun spares => spares rfl) fun _ spares => spares.elim) found

end Bench

namespace Office

variable {o : Office} {t : Task}

/-- How long the wait of `t` has lasted, which begins now if none is on record. -/
def waited (o : Office) (t : Task) : Int := o.now - (o.waits.start? t.id).getD o.now

theorem waitSince_fst (o : Office) (t : Task) : (o.waitSince t).1 = (o.waits.start? t.id).getD o.now := by
  simp only [waitSince, WaitTable.since, WaitTable.start?]
  cases o.waits.waits.find? t.id <;> rfl

/-- Whatever is drawn, the delay is no shorter than the shortest one, as far as it has 64 bits, and longer by no more
than the settings allow. -/
theorem requeueDelay_bounds (c : WaitConfig) (draw : Nat) :
    min c.requeueBase (twoTo 64 - 1) ≤ requeueDelay c draw ∧
      requeueDelay c draw ≤ c.requeueBase + c.requeueJitter := by
  unfold requeueDelay
  omega

/-- How long the next task sleeps that is short. -/
def nextDelay (o : Office) : Nat := requeueDelay o.config.wait o.draw.1

/-- Before the timeout a task that is short sleeps. -/
theorem shortage_of_lasts (lasts : o.config.wait.lastsFor (o.waited t)) : o.shortage t =
    (.requeued o.nextDelay, (o.waitSince t).2.draw.2.sleep o.nextDelay t) := by
  rw [waited, ← waitSince_fst] at lasts
  exact if_pos lasts

/-- The office in which a task has waited too long: its wait is over. -/
def waitedOut (o : Office) (t : Task) : Office :=
  { (o.waitSince t).2 with waits := (o.waitSince t).2.waits.clear t.id }

/-- From the timeout on it is retried, if it may be. -/
theorem shortage_of_budget (spent : ¬ o.config.wait.lastsFor (o.waited t))
    (budget : o.config.retry.hasBudget t.retries) :
    o.shortage t = (.retried, (o.waitedOut t).scheduleRetry t t.recipients) := by
  rw [waited, ← waitSince_fst] at spent
  exact (if_neg spent).trans (if_pos budget)

/-- Where it may not be retried, it is given up as it is. -/
theorem shortage_of_spent (spent : ¬ o.config.wait.lastsFor (o.waited t))
    (full : ¬ o.config.retry.hasBudget t.retries) : o.shortage t = (.expired t, o.waitedOut t) := by
  rw [waited, ← waitSince_fst] at spent
  exact (if_neg spent).trans (if_neg full)

/-- What a shortage does to waits and timers, the execution does. -/
theorem execute_of_short (short : o.acquire? t = none) :
    (o.execute t).2.waits = (o.shortage t).2.waits ∧ (o.execute t).2.timers = (o.shortage t).2.timers := by
  simp only [execute_eq, short]
  rcases o.shortage t with ⟨x, p⟩
  cases x <;> exact ⟨rfl, rfl⟩

theorem sleeps_of_lasts (short : o.acquire? t = none) (lasts : o.config.wait.lastsFor (o.waited t))
    (running : o.timers.closed = false) : ∃ n, ⟨n, o.clock.uptime + o.nextDelay, t⟩ ∈
      (o.execute t).2.timers.sleepers := by
  rw [(execute_of_short short).2, shortage_of_lasts lasts]
  have slept : (o.waitSince t).2.draw.2.sleep o.nextDelay t = _ := if_neg (Bool.eq_false_iff.1 running)
  rw [slept]
  exact ⟨_, List.mem_append_right _ List.mem_cons_self⟩

theorem waits_conclude (t : Task) (v : Verdict) : (o.conclude t v).waits = o.waits.clear t.id := by
  unfold conclude
  dsimp only
  split <;> rfl

/-- Where a wait is not on record, to put a task to sleep does not begin it. -/
theorem start?_sleep_of_none {id : BatchId} (absent : o.waits.start? id = none) (delay : Nat) (t : Task) :
    (o.sleep delay t).waits.start? id = none := by
  unfold sleep
  split
  · rw [fail, waits_conclude, WaitTable.start?_clear]
    split
    · rfl
    · exact absent
  · exact absent

/-- While the wait lasts, it is on record since it began. -/
theorem start?_of_lasts (short : o.acquire? t = none) (lasts : o.config.wait.lastsFor (o.waited t))
    (running : o.timers.closed = false) :
    (o.execute t).2.waits.start? t.id = some ((o.waits.start? t.id).getD o.now) := by
  have slept : (o.waitSince t).2.draw.2.sleep o.nextDelay t = _ := if_neg (Bool.eq_false_iff.1 running)
  rw [(execute_of_short short).1, shortage_of_lasts lasts, slept]
  exact (WaitTable.start?_since ..).trans (if_pos rfl)

/-- When the wait has lasted too long, it is not on record any more. -/
theorem start?_of_spent (short : o.acquire? t = none) (spent : ¬ o.config.wait.lastsFor (o.waited t)) :
    (o.execute t).2.waits.start? t.id = none := by
  have cleared : (o.waitedOut t).waits.start? t.id = none := (WaitTable.start?_clear ..).trans (if_pos rfl)
  rw [(execute_of_short short).1]
  by_cases budget : o.config.retry.hasBudget t.retries
  · rw [shortage_of_budget spent budget]
    refine start?_sleep_of_none ?_ _ _
    rw [WaitTable.start?_clear, if_pos rfl]
  · rw [shortage_of_spent spent budget]
    exact cleared

/-- Where the wait has lasted too long and a retry is left, it sleeps. -/
theorem sleeps_of_budget (short : o.acquire? t = none) (spent : ¬ o.config.wait.lastsFor (o.waited t))
    (budget : o.config.retry.hasBudget t.retries) (running : o.timers.closed = false) :
    ∃ n, ⟨n, o.clock.uptime + o.config.retry.delay t.next.retries, t.next⟩ ∈ (o.execute t).2.timers.sleepers := by
  rw [(execute_of_short short).2, shortage_of_budget spent budget]
  have slept : (o.waitedOut t).scheduleRetry t t.recipients = _ := if_neg (Bool.eq_false_iff.1 running)
  rw [slept]
  exact ⟨_, List.mem_append_right _ List.mem_cons_self⟩

/-- Where no retry is left, the task as it is comes among the expiries. -/
theorem expires_of_spent (short : o.acquire? t = none) (spent : ¬ o.config.wait.lastsFor (o.waited t))
    (full : ¬ o.config.retry.hasBudget t.retries) : ∃ e ∈ (o.execute t).2.expiries, e.task = t := by
  refine ⟨⟨(o.waitedOut t).nextNumber, t⟩, ?_, rfl⟩
  rw [expiries_execute]
  refine List.mem_append_right _ (Option.mem_toList.2 ?_)
  simp only [expiryOf, short, shortage_of_spent spent full]

/-- Where the timers are closed, a batch ends that would have to sleep. -/
theorem verdict?_of_closed (unended : o.ledger.isOpen t.ticket) (short : o.acquire? t = none)
    (sleeps : o.config.wait.lastsFor (o.waited t) ∨ o.config.retry.hasBudget t.retries) (closed : o.timers.closed) :
    (o.execute t).2.ledger.verdict? t.ticket = some (.error .shutdown) := by
  by_cases lasts : o.config.wait.lastsFor (o.waited t)
  · exact verdict?_execute_of_closed unended short (congrArg Prod.fst (shortage_of_lasts lasts)) closed
  · have budget := sleeps.resolve_left lasts
    simp only [execute_eq, short, shortage_of_budget lasts budget]
    have failed : ∀ delay : Nat, sleep { o.waitedOut t with
        waits := (o.waitedOut t).waits.clear t.id
        metrics := (o.waitedOut t).metrics.retryScheduled t.next.lane } delay t.next = _ := fun _ => if_pos closed
    refine Eq.trans (congrArg (fun p : Office => p.ledger.verdict? t.ticket) (failed _)) ?_
    exact verdict?_fail (t := t.next) _ unended

/-- A task that gets its resources is sent, or its batch ends. -/
theorem attempt_or_ended {permit : Permit} {o' : Office} (acquired : o.acquire? t = some (permit, o'))
    (unended : o.ledger.isOpen t.ticket) : (∃ a ∈ (o.execute t).2.attempts, a.task = t) ∨
      ∃ v, (o.execute t).2.ledger.verdict? t.ticket = some v := by
  have ledger : o'.ledger = o.ledger := by
    obtain ⟨_, _, acquired⟩ := Option.bind_eq_some_iff.1 acquired
    obtain ⟨_, _, acquired⟩ := Option.bind_eq_some_iff.1 acquired
    cases acquired
    rfl
  cases started : (o'.countStart t.lane).workers.start (o'.countStart t.lane).nextNumber with
  | ok workers =>
    refine .inl ⟨⟨o'.nextNumber, t, permit, none⟩, ?_, rfl⟩
    rw [attempts_execute]
    refine List.mem_append_right _ (Option.mem_toList.2 ?_)
    simp only [attemptOf, execute_eq, acquired, started]
    rfl
  | error cause =>
    refine .inr ⟨.error cause, ?_⟩
    simp only [execute_eq, acquired, started]
    refine verdict?_fail (o := ((o'.countStart t.lane).countEnd t.lane).releasePermit permit) cause ?_
    have back : ((o'.countStart t.lane).countEnd t.lane).ledger = o'.ledger := by
      unfold countEnd
      split <;> rfl
    show ((o'.countStart t.lane).countEnd t.lane).ledger.isOpen t.ticket
    rw [back, ledger]
    exact unended

end Office

namespace World

open Office Custody

variable {w : World} {h : Happening} {o : Office} {t : Task}

/-- Where no two live tasks have one name, no two queued tasks have one. -/
theorem nodup_ids (distinct : w.Distinct) : (w.office.lanes.tasks.map (·.id)).Nodup := by
  have queued := (sublist_queued w).map (·.id)
  rw [List.map_map] at queued
  exact distinct.sublist queued

/-- A task that is executed, in the office where that happens, with the turns of the tick before and after it. -/
structure Turned (w : World) (h : Happening) (o : Office) (t : Task) (before later : List (Office × Task))
    (hold : BulkHold) (mid : Office) : Prop where
  executed : w.executed h = before ++ (o, t) :: later
  first : Ticking.Serves { w.office with hold := hold } before mid
  taken : ∃ bulk n excluded, mid.nextTask? bulk n excluded = some (t, o)
  rest : Ticking.Serves (o.execute t).2 later (w.after h).office

theorem exists_turned (executed : (o, t) ∈ w.executed h) :
    ∃ before later hold mid, w.Turned h o t before later hold mid := by
  obtain ⟨hold, serves⟩ := serves_of_executed executed
  obtain ⟨before, later, mid, bulk, n, excluded, same, first, taken, rest⟩ := serves.split executed
  exact ⟨before, later, hold, mid, same, first, ⟨bulk, n, excluded, taken⟩, rest⟩

namespace Turned

variable {before later : List (Office × Task)} {hold : BulkHold} {mid : Office}

theorem mem_executed (turned : w.Turned h o t before later hold mid) : (o, t) ∈ w.executed h := by
  rw [turned.executed]
  exact List.mem_append_right before List.mem_cons_self

/-- Where no two live tasks have one name, neither have those that a tick has executed and those that are left. -/
theorem nodup (turned : w.Turned h o t before later hold mid) (distinct : w.Distinct) :
    (before.map (·.2.id) ++ t.id :: o.lanes.tasks.map (·.id)).Nodup ∧ t.id ∉ later.map (·.2.id) := by
  obtain ⟨bulk, n, excluded, taken⟩ := turned.taken
  have all : (Multiset.map (·.id) (w.office.lanes.tasks : Multiset Task)).Nodup :=
    Multiset.coe_nodup.2 (nodup_ids distinct)
  have first : (↑(before.map (·.2)) + ↑mid.lanes.tasks : Multiset Task) ≤ ↑w.office.lanes.tasks :=
    turned.first.le_queued
  rw [coe_nextTask? taken, Multiset.cons_coe, Multiset.coe_add] at first
  have names := Multiset.coe_nodup.1 (Multiset.nodup_of_le (Multiset.map_le_map first) all)
  rw [List.map_append, List.map_map, List.map_cons] at names
  refine ⟨names, fun again => ?_⟩
  -- what is executed later was left in the lanes
  obtain ⟨p, hp, same⟩ := List.mem_map.1 again
  have left : p.2.id ∈ o.lanes.tasks.map (·.id) := by
    refine List.mem_map_of_mem ?_
    rw [← lanes_execute o t]
    exact turned.rest.queued p hp
  rw [same] at left
  exact (List.nodup_cons.1 (List.nodup_append.1 names).2.1).1 left

/-- What is executed in the same tick, and what is made of it, has another name. -/
theorem spares (turned : w.Turned h o t before later hold mid) (owned : w.custody.Owned) (apart : w.Apart h)
    {p : Office × Task} (hp : p ∈ before ++ later) :
    p.2.id ≠ t.id ∧ (p.1.escalates p.2 → p.2.next.id ≠ t.id) := by
  obtain ⟨names, rest⟩ := turned.nodup apart.distinct
  have other : p.2.id ≠ t.id := by
    intro same
    rcases List.mem_append.1 hp with hp | hp
    · exact (List.nodup_append.1 names).2.2 _ (List.mem_map_of_mem hp) _ List.mem_cons_self same
    · exact rest (same ▸ List.mem_map_of_mem (f := fun p : Office × Task => p.2.id) hp)
  have executed : p ∈ w.executed h := by
    rw [turned.executed]
    simp only [List.mem_append, List.mem_cons] at hp ⊢
    tauto
  refine ⟨other, fun escalates => ?_⟩
  obtain ⟨l, hl⟩ := live_of_executed turned.mem_executed
  obtain ⟨m, hm⟩ := live_of_executed executed
  refine (apart.made _ (made_of_escalates executed escalates) _ hl fun same => other ?_).symm
  obtain same := eq_of_ticket owned hl hm same
  exact congrArg (·.task.id) same.symm

/-- A tick finds the record of a wait as it was when it began. -/
theorem wait?_before (turned : w.Turned h o t before later hold mid) (owned : w.custody.Owned) (apart : w.Apart h) :
    o.waits.wait? t.id = w.office.waits.wait? t.id := by
  obtain ⟨bulk, n, excluded, taken⟩ := turned.taken
  have spares := fun p hp => turned.spares owned apart (p := p) (List.mem_append_left later hp)
  have queued : t ∈ mid.lanes.tasks := (mem_of_nextTask? taken).2 (.inl rfl)
  have leads : Leads (fun _ _ => True) w.custody ({ w with office := mid } : World).custody :=
    turned.first.leads (e := w.entered) (H := ↑(w.outside.map Holding.outside))
  let begun : Office := { w.office with hold := hold }
  have turns : Does (Effect.Spares t.id) (begun.bench 0) (mid.bench 0) := by
    refine turned.first.bench (w := w) owned (fun q hq v ended same => ?_) (fun p hp _ => (spares p hp).1)
      (fun p hp _ => (spares p hp).1) (fun p hp => (spares p hp).2) fun _ _ _ _ => trivial
    -- a task whose batch has ended is not the one that is still to be executed
    obtain rfl : q = t := by
      refine List.inj_on_of_nodup_map (nodup_ids apart.distinct) hq ?_ same
      exact Multiset.mem_coe.1 (Multiset.mem_of_le ((Multiset.le_add_left _ _).trans turned.first.le_queued) queued)
    obtain ⟨l, hl⟩ := (Lanes.mem_tasks_iff mid.lanes).1 queued
    have live : .queued l q ∈ ({ w with office := mid } : World).holdings := mem_holdings_queued.2 hl
    have unended : mid.ledger.verdict? q.ticket = none :=
      (Ledger.isOpen_iff.1 (isOpen_of_live (owned.leads leads) live)).2
    rw [unended] at ended
    cases ended
  exact wait?_of_spares (turns.trans (bench_nextTask? taken))

/-- A tick leaves the record of a wait as the execution of the task does. -/
theorem wait?_later (turned : w.Turned h o t before later hold mid) (owned : w.custody.Owned) (apart : w.Apart h) :
    (w.after h).office.waits.wait? t.id = (o.execute t).2.waits.wait? t.id := by
  obtain ⟨bulk, n, excluded, taken⟩ := turned.taken
  have spares := fun p hp => turned.spares owned apart (p := p) (List.mem_append_right before hp)
  have names := (List.nodup_append.1 (turned.nodup apart.distinct).1).2.1
  have leads : Leads (fun _ _ => True) w.custody ({ w with office := (o.execute t).2 } : World).custody :=
    (leads_of_executed turned.mem_executed).trans (leads_executed w o t)
  refine wait?_of_spares (turned.rest.bench (w := w) (H := 0) (owned.leads leads) (fun q hq v _ same => ?_)
    (fun p hp _ => (spares p hp).1) (fun p hp _ => (spares p hp).1) (fun p hp => (spares p hp).2)
    fun _ _ _ _ => trivial)
  rw [lanes_execute] at hq
  exact (List.nodup_cons.1 names).1 (same ▸ List.mem_map_of_mem hq)

/-- Who sleeps, is sent or given up after the execution is there when the tick is over. -/
theorem left (turned : w.Turned h o t before later hold mid) :
    (∀ s ∈ (o.execute t).2.timers.sleepers, s ∈ (w.after h).office.timers.sleepers) ∧
      (∀ a ∈ (o.execute t).2.attempts, a ∈ (w.after h).office.attempts) ∧
      ∀ e ∈ (o.execute t).2.expiries, e ∈ (w.after h).office.expiries := by
  refine ⟨turned.rest.timers.1, fun a ha => ?_, fun e he => ?_⟩
  · rw [turned.rest.attempts]
    exact List.mem_append_left _ ha
  · rw [turned.rest.expiries]
    exact List.mem_append_left _ he

end Turned

/-- A tick executes no task twice. -/
theorem eq_of_executed (owned : w.custody.Owned) (apart : w.Apart h) (executed : (o, t) ∈ w.executed h) {p : Office}
    (again : (p, t) ∈ w.executed h) : p = o := by
  obtain ⟨before, later, hold, mid, turned⟩ := exists_turned executed
  rw [turned.executed, List.mem_append, List.mem_cons] at again
  rcases again with again | same | again
  · exact absurd rfl (turned.spares owned apart (List.mem_append_left later again)).1
  · exact congrArg Prod.fst same
  · exact absurd rfl (turned.spares owned apart (List.mem_append_right before again)).1

/-- A task that is executed and keeps a place on the bench, with no retry more, was short and has not waited too
long. -/
theorem lasts_of_onBench (regular : w.custody.Regular) (owned : w.custody.Owned) (executed : (o, t) ∈ w.executed h)
    {y : Holding} (hy : y ∈ (w.after h).holdings) (bench : y.onBench) (ticket : y.task.ticket = t.ticket)
    (same : y.task.retries = t.retries) :
    o.acquire? t = none ∧ o.config.wait.lastsFor (o.waited t) ∧ o.timers.closed = false := by
  obtain ⟨before, later, hold, mid, turned⟩ := exists_turned executed
  obtain ⟨sleepers, attempts, expiries⟩ := turned.left
  have owned' := owned_after regular owned h
  have held := owned.leads (leads_of_executed (R := fun _ _ => True) executed)
  have unended : o.ledger.isOpen t.ticket := isOpen_of_live held (mem_holding w o t)
  -- its batch has not ended with the execution
  have goesOn : ∀ v, (o.execute t).2.ledger.verdict? t.ticket ≠ some v := by
    intro v ended
    have still := (Ledger.isOpen_iff.1 (isOpen_of_live owned' hy)).2
    rw [ticket, turned.rest.verdict? ended] at still
    cases still
  -- and what the execution makes of it elsewhere is not on the bench
  have only : ∀ x ∈ (w.after h).holdings, x.task.ticket = t.ticket → y = x :=
    fun x hx same => eq_of_ticket owned' hy hx (ticket.trans same.symm)
  have short : o.acquire? t = none := by
    rcases acquired : o.acquire? t with _ | ⟨permit, o'⟩
    · rfl
    · rcases attempt_or_ended acquired unended with ⟨a, ha, task⟩ | ⟨v, ended⟩
      · obtain rfl := only _ (mem_holdings_attempt.2 (attempts a ha)) (congrArg Task.ticket task)
        cases bench
      · exact absurd ended (goesOn v)
  have lasts : o.config.wait.lastsFor (o.waited t) := by
    by_contra spent
    by_cases budget : o.config.retry.hasBudget t.retries
    · cases closed : o.timers.closed with
      | true => exact goesOn _ (verdict?_of_closed unended short (.inr budget) closed)
      | false =>
        obtain ⟨n, asleep⟩ := sleeps_of_budget short spent budget closed
        obtain rfl := only _ (mem_holdings_asleep.2 (sleepers _ asleep)) rfl
        exact absurd same (Nat.succ_ne_self t.retries)
    · obtain ⟨e, he, task⟩ := expires_of_spent short spent budget
      obtain rfl := only _ (mem_holdings_expiry.2 (expiries e he)) (congrArg Task.ticket task)
      cases bench
  refine ⟨short, lasts, Bool.eq_false_iff.2 fun closed => ?_⟩
  exact goesOn _ (verdict?_of_closed unended short (.inl lasts) closed)

/-! ### Sleep -/

/-- The happening does not wake the sleeper before its time, and does not close the timers. -/
def LetsSleep (s : Sleeper) (w : World) (h : Happening) : Prop :=
  h ≠ .closeTimers ∧ (h = .wake s.number → w.office.clock.uptime < s.due)

/-- A task sleeps until it is woken in its time, and then goes into its lane if its run is valid. -/
structure Sleeps (w : World) (s : Sleeper) : Prop where
  asleep : ∀ ks, Along (LetsSleep s) w ks → s ∈ (w.run ks).office.timers.sleepers
  returns : ∀ ks, Along (LetsSleep s) w ks → s.due ≤ (w.run ks).office.clock.uptime →
    (w.run ks).office.registry.validate s.task = .ok () →
      .queued s.task.lane { s.task with enqueuedAt := (w.run ks).office.now } ∈
        ((w.run ks).after (.wake s.number)).holdings

theorem asleep_after {s : Sleeper} (regular : w.custody.Regular) (lets : LetsSleep s w h)
    (asleep : s ∈ w.office.timers.sleepers) : s ∈ (w.after h).office.timers.sleepers := by
  by_cases wakes : h = .wake s.number
  · -- it is too early, and nothing happens
    have early := lets.2 wakes
    have taken : w.office.timers.take? s.number =
        some (s, { w.office.timers with sleepers := w.office.timers.sleepers.filter (·.number ≠ s.number) }) := by
      rw [Timers.take?, Numbered.find?_of_mem (nodup_sleepers regular) asleep, Option.map_some]
    have same : w.office.wake s.number = w.office := by
      simp only [wake, taken]
      exact if_neg (Nat.not_le.2 early)
    subst wakes
    show s ∈ (w.office.wake s.number).timers.sleepers
    rw [same]
    exact asleep
  · refine (w.does_after h).keeps (I := fun d => s ∈ d.timers.sleepers) (fun d x permitted asleep => ?_) asleep
    cases permitted with
    | conclude works v =>
      rw [Desk.after, Desk.timers_conclude]
      exact asleep
    | sleep works =>
      rw [Desk.after]
      dsimp only
      split
      · exact asleep
      · exact List.mem_append_left _ asleep
    | purge | empty =>
      rw [Desk.after, Desk.timers_concludeAll]
      exact asleep
    | @rouse k same =>
      have other : s.number ≠ k := fun number => wakes (number ▸ same)
      rw [Desk.after, Timers.take?]
      cases found : d.timers.sleepers.find? (·.number = k) with
      | none => exact asleep
      | some u => exact List.mem_filter.2 ⟨asleep, decide_eq_true other⟩
    | close closes => exact absurd closes lets.1
    | _ => exact asleep

theorem asleep_run {s : Sleeper} {ks : List Happening} (regular : w.custody.Regular) (lets : Along (LetsSleep s) w ks)
    (asleep : s ∈ w.office.timers.sleepers) : s ∈ (w.run ks).office.timers.sleepers := by
  induction ks generalizing w with
  | nil => exact asleep
  | cons k ks ih => exact ih (regular_after regular k) lets.2 (asleep_after regular lets.1 asleep)

theorem sleeps {s : Sleeper} (regular : w.custody.Regular) (sound : w.office.lanes.Sound)
    (asleep : s ∈ w.office.timers.sleepers) : w.Sleeps s where
  asleep ks lets := asleep_run regular lets asleep
  returns ks lets due valid := by
    have still := asleep_run regular lets asleep
    have regular' := regular_run regular ks
    have sound' := sound_after (.wake s.number) (sound_run sound ks)
    generalize w.run ks = v at still due valid regular' sound' ⊢
    have queued : { s.task with enqueuedAt := v.office.now } ∈ (v.after (.wake s.number)).office.lanes.tasks := by
      show _ ∈ (v.office.wake s.number).lanes.tasks
      simp only [wake, Timers.take?, Numbered.find?_of_mem (nodup_sleepers regular') still, Option.map_some, if_pos due,
        requeue, valid]
      exact (Lanes.mem_offer ..).2 (.inl rfl)
    obtain ⟨l, hl⟩ := (Lanes.mem_tasks_iff _).1 queued
    have lane : s.task.lane = l := sound'.mem_line (t := { s.task with enqueuedAt := v.office.now }) hl
    rw [lane]
    exact mem_holdings_queued.2 hl

end World

end Postroom
