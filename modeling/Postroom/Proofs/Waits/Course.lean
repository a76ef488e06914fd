import Postroom.Proofs.Desk.Deeds
import Postroom.Proofs.Service.Picks
import Postroom.Proofs.Waits.Bench

/-!
# The bench along a history

Whatever happens is a chain of steps on the bench, and what happens says which effects these have: the waits that
end are those of tasks that get their resources, wait no longer or end, of tasks that it makes, of the queued tasks
of a run that it ends, and of whole jobs.

- `World.Relieves`: how the wait of a live task comes to an end with what happens to the task itself.
- `World.made`: the tasks that a happening makes. `World.made_cases`: where they come from.
- `World.shelved`: the sleepers that fall asleep in a shortage.
- `World.Affects`: the effects that a happening may have. `World.affects_after`: it has no other.
-/

namespace Postroom

open Bench

/-! ### Ticks -/

namespace Office

variable {o o' : Office} {t : Task}

/-- The next task of a tick is one of the queued tasks, and the others stay. -/
theorem coe_nextTask? {bulk : BulkBudget} {n : Nat} {excluded : List Domain}
    (h : o.nextTask? bulk n excluded = some (t, o')) : (o.lanes.tasks : Multiset Task) = t ::ₘ ↑o'.lanes.tasks := by
  obtain ⟨l, -, polled⟩ := List.exists_of_findSome?_eq_some h
  split at polled
  · obtain ⟨⟨u, lanes⟩, taken, he⟩ := Option.map_eq_some_iff.1 polled
    cases he
    exact Lanes.coe_poll? taken
  · cases polled

theorem mem_of_nextTask? {bulk : BulkBudget} {n : Nat} {excluded : List Domain}
    (h : o.nextTask? bulk n excluded = some (t, o')) {u : Task} : u ∈ o.lanes.tasks ↔ u = t ∨ u ∈ o'.lanes.tasks := by
  rw [← Multiset.mem_coe, coe_nextTask? h, Multiset.mem_cons, Multiset.mem_coe]

/-! ### Ends of batches -/

/-- A task that is to sleep ends where the timers are closed. -/
theorem verdict?_execute_of_closed {delay : Nat} (unended : o.ledger.isOpen t.ticket) (short : o.acquire? t = none)
    (patient : (o.shortage t).1 = .requeued delay) (closed : o.timers.closed) :
    (o.execute t).2.ledger.verdict? t.ticket = some (.error .shutdown) := by
  have shut : (o.shortage t).2.ledger.verdict? t.ticket = some (.error .shutdown) := by
    unfold shortage at patient ⊢
    dsimp only at patient ⊢
    split
    · have slept : ∀ d, (o.waitSince t).2.draw.2.sleep d t = (o.waitSince t).2.draw.2.fail t .shutdown :=
        fun _ => if_pos closed
      rw [slept]
      exact verdict?_fail (o := (o.waitSince t).2.draw.2) _ unended
    · next elapsed =>
      rw [if_neg elapsed] at patient
      split at patient <;> cases patient
  simp only [execute_eq, short]
  rcases hs : o.shortage t with ⟨x, p⟩
  rw [hs] at patient shut
  cases patient
  exact shut

/-- A task whose timer comes due ends where its run is not valid any more. -/
theorem verdict?_wake {n : Nat} {s : Sleeper} {timers : Timers} {r : Rejection}
    (unended : o.ledger.isOpen s.task.ticket) (taken : o.timers.take? n = some (s, timers))
    (due : s.due ≤ o.clock.uptime) (invalid : o.registry.validate s.task = .error r) :
    (o.wake n).ledger.verdict? s.task.ticket = some (.error r.cause) := by
  simp only [wake, taken, if_pos due, requeue, invalid]
  exact verdict?_fail (o := { o with timers := timers }) _ unended

theorem verdict?_closeTimers {s : Sleeper} (unended : o.ledger.isOpen s.task.ticket)
    (asleep : s ∈ o.timers.sleepers) : o.closeTimers.ledger.verdict? s.task.ticket = some (.error .shutdown) := by
  have ledger : o.closeTimers.ledger = o.ledger.resolveAll (o.timers.sleepers.map (·.task)) (.error .shutdown) :=
    ledger_failAll ..
  rw [ledger]
  exact Ledger.verdict?_resolveAll (List.mem_map_of_mem asleep) unended

theorem verdict?_emptyLanes (unended : o.ledger.isOpen t.ticket) (queued : t ∈ o.lanes.tasks) :
    o.emptyLanes.2.ledger.verdict? t.ticket = some (.error .shutdown) := by
  have ledger : o.emptyLanes.2.ledger =
      (o.withdraw fun _ => true).2.ledger.resolveAll (o.withdraw fun _ => true).1 (.error .shutdown) :=
    ledger_failAll ..
  rw [ledger, ledger_withdraw]
  exact Ledger.verdict?_resolveAll ((Lanes.mem_withdrawn ..).2 ⟨queued, rfl⟩) unended

end Office

/-- A batch ends with a task that is in the hands. -/
theorem World.verdict?_fail_of_holding {w : World} {o : Office} {t : Task} (cause : Fault)
    (owned : (w.holding o t).custody.Owned) : (o.fail t cause).ledger.verdict? t.ticket = some (.error cause) :=
  Office.verdict?_fail cause (isOpen_of_live owned (mem_holding w o t))

namespace Ticking.Serves

variable {o o' : Office} {ps : List (Office × Task)}

/-- Turns of a tick are a chain of changes. -/
theorem leads {R : Task → Outcome → Prop} {e : List Submission} {H : Multiset Holding} (serves : Serves o ps o') :
    Custody.Leads R (o.custody e H) (o'.custody e H) := by
  induction serves with
  | done => exact .refl _
  | drop next invalid _ ih => exact (Office.leads_turn (.drop next invalid)).trans ih
  | execute next valid _ ih => exact (Office.leads_turn (.execute next valid)).trans ih

/-- Turns of a tick take back no end of a batch. -/
theorem verdict? (serves : Serves o ps o') {n : Nat} {v : Verdict} (ended : o.ledger.verdict? n = some v) :
    o'.ledger.verdict? n = some v :=
  (serves.leads (R := fun _ _ => True) (e := []) (H := 0)).verdict? ended

/-- Whatever is executed was queued. -/
theorem queued (serves : Serves o ps o') : ∀ p ∈ ps, p.2 ∈ o.lanes.tasks := by
  induction serves with
  | done =>
    intro p hp
    cases hp
  | @drop o p o'' bulk n excluded t r ps next invalid rest ih =>
    intro x hx
    have left := ih x hx
    rw [lanes_fail] at left
    exact (Office.mem_of_nextTask? next).2 (.inr left)
  | @execute o p o'' bulk n excluded t ps next valid rest ih =>
    intro x hx
    rcases List.mem_cons.1 hx with rfl | hx
    · exact (Office.mem_of_nextTask? next).2 (.inl rfl)
    · have left := ih x hx
      rw [Office.lanes_execute] at left
      exact (Office.mem_of_nextTask? next).2 (.inr left)

/-- A batch that ends with an execution has ended when the turns are over. -/
theorem verdict?_of_execute (serves : Serves o ps o') {n : Nat} {v : Verdict} : ∀ p ∈ ps,
    (p.1.execute p.2).2.ledger.verdict? n = some v → o'.ledger.verdict? n = some v := by
  induction serves with
  | done =>
    intro p hp
    cases hp
  | drop _ _ _ ih => exact ih
  | execute next valid rest ih =>
    intro x hx ended
    rcases List.mem_cons.1 hx with rfl | hx
    · exact rest.verdict? ended
    · exact ih x hx ended

/-- Turns of a tick put an end to the waits of tasks that they execute, and of tasks whose batches end. -/
theorem bench {ok : Effect → Prop} {H : Multiset Task} {w : World} (serves : Serves o ps o')
    (owned : ({ w with office := o } : World).custody.Owned)
    (ended : ∀ q ∈ o.lanes.tasks, ∀ v, o'.ledger.verdict? q.ticket = some v → ok (.clear q.id))
    (relieves : ∀ p ∈ ps, p.1.Relieves p.2 → ok (.clear p.2.id))
    (lack : ∀ p ∈ ps, p.1.acquire? p.2 = none → ok (.lack p.2))
    (retry : ∀ p ∈ ps, p.1.escalates p.2 → ok (.clear p.2.next.id))
    (shelve : ∀ p ∈ ps, ∀ s, p.1.shelved? p.2 = some s → ok (.shelve s)) :
    Does ok (o.bench H) (o'.bench H) := by
  induction serves with
  | done => exact .refl _
  | @drop o p o'' bulk n excluded t r ps next invalid rest ih =>
    have queued := @Office.mem_of_nextTask? _ _ _ _ _ _ next
    have taken : Custody.Leads (fun _ _ => True) ({ w with office := o } : World).custody
        (w.holding p t).custody := Office.leads_nextTask? next
    -- the task is turned away; its batch ends with that, and stays so for the rest of the turns
    have verdict := rest.verdict? (World.verdict?_fail_of_holding r.cause (owned.leads taken))
    have failed : Does ok (o.bench H) ((p.fail t r.cause).bench H) :=
      (Office.bench_nextTask? next).trans (Office.bench_fail r.cause (ended t (queued.2 (.inl rfl)) _ verdict))
    have turned : Custody.Leads (fun _ _ => True) ({ w with office := o } : World).custody
        ({ w with office := p.fail t r.cause } : World).custody := Office.leads_turn (.drop next invalid)
    refine failed.trans (ih (owned.leads turned) (fun q hq => ended q (queued.2 (.inr ?_))) relieves lack retry
      shelve)
    rwa [lanes_fail] at hq
  | @execute o p o'' bulk n excluded t ps next valid rest ih =>
    have queued := @Office.mem_of_nextTask? _ _ _ _ _ _ next
    have first : (p, t) ∈ (p, t) :: ps := List.mem_cons_self
    have executed : Does ok (o.bench H) ((p.execute t).2.bench H) := (Office.bench_nextTask? next).trans
      (Office.bench_execute (relieves _ first) (lack _ first) (retry _ first) (shelve _ first))
    have turned : Custody.Leads (fun _ _ => True) ({ w with office := o } : World).custody
        ({ w with office := (p.execute t).2 } : World).custody := Office.leads_turn (.execute next valid)
    refine executed.trans (ih (owned.leads turned) (fun q hq => ended q (queued.2 (.inr ?_)))
      (fun x hx => relieves x (List.mem_cons_of_mem _ hx)) (fun x hx => lack x (List.mem_cons_of_mem _ hx))
      (fun x hx => retry x (List.mem_cons_of_mem _ hx)) fun x hx => shelve x (List.mem_cons_of_mem _ hx))
    rwa [Office.lanes_execute] at hq

end Ticking.Serves

/-- Whether a task is queued, asleep or taken out. -/
def Holding.onBench : Holding → Bool
  | .queued .. | .asleep _ | .outside _ => true
  | .attempt _ | .expiry _ | .settlement _ => false

namespace World

open Office Custody

variable {w : World} {h : Happening}

/-- The bench of a world: what was taken out of the office is in the hands. -/
def bench (w : World) : Bench := w.office.bench ↑w.outside

/-- The sleepers that fall asleep in a shortage. -/
def shelved (w : World) (h : Happening) : List Sleeper := (w.executed h).filterMap fun p => p.1.shelved? p.2

/-- The first task of a submission that is taken. -/
def entering (w : World) : Happening → List Task
  | .submit s => match (w.office.submit s).1 with
    | .ok ⟨_, .ticket _, _⟩ => [(w.office.enter s).1]
    | _ => []
  | _ => []

/-- The retry after a send that failed as a whole. -/
def resent (w : World) : Happening → List Task
  | .collect n => ((w.office.attempt? n).filter fun a => match a.report with
      | some (.error cause) => cause.isRetryable && w.office.config.retry.hasBudget a.task.retries &&
          (w.office.registry.abortCause a.task).isNone
      | _ => false).toList.map (·.task.next)
  | _ => []

/-- The tasks that a happening makes: first tasks of batches, and the retries after waits that ran out, for what a
settlement leaves, and after sends that failed as a whole. -/
def made (w : World) (h : Happening) : List Task :=
  w.entering h ++ ((w.executed h).filter fun p => p.1.escalates p.2).map (·.2.next) ++
    ((w.settles? h).filter fun z => z.purpose.kept ≠ [] && (w.office.registry.abortCause z.task).isNone).toList.map
      (·.rest.next) ++ w.resent h

theorem made_of_escalates {p : Office × Task} (executed : p ∈ w.executed h) (escalates : p.1.escalates p.2) :
    p.2.next ∈ w.made h := by
  refine List.mem_append_left _ (List.mem_append_left _ (List.mem_append_right _ ?_))
  exact List.mem_map_of_mem (List.mem_filter.2 ⟨executed, escalates⟩)

theorem made_of_settles? {z : Settlement} (settles : w.settles? h = some z)
    (goesOn : w.office.registry.abortCause z.task = none) (some : z.purpose.kept ≠ []) : z.rest.next ∈ w.made h := by
  refine List.mem_append_left _ (List.mem_append_right _ (List.mem_map_of_mem (Option.mem_toList.2 ?_)))
  exact Option.filter_eq_some_iff.2 ⟨settles, by simp [goesOn, some]⟩

theorem made_of_failed {n : Nat} {a : Attempt} {cause : Fault} (found : w.office.attempt? n = some a)
    (reported : a.report = some (.error cause)) (retryable : cause.isRetryable)
    (budget : w.office.config.retry.hasBudget a.task.retries)
    (goesOn : w.office.registry.abortCause a.task = none) : a.task.next ∈ w.made (.collect n) := by
  refine List.mem_append_right _ (List.mem_map_of_mem (Option.mem_toList.2 ?_))
  exact Option.filter_eq_some_iff.2 ⟨found, by simp [reported, retryable, budget, goesOn]⟩

theorem made_of_turnedAway {s : Submission} {z : Settlement} (away : w.office.turnedAway? s = some z) :
    z.task ∈ w.made (.submit s) := by
  refine List.mem_append_left _ (List.mem_append_left _ (List.mem_append_left _ ?_))
  unfold turnedAway? at away
  split at away
  · next taken =>
    split at away
    · cases away
      simp only [entering, taken, List.mem_singleton]
    · cases away
  · cases away

/-- What is retried once its results are final was not on the bench. -/
theorem away_of_settles? {z : Settlement} (settles : w.settles? h = some z) (kept : z.purpose.kept ≠ []) :
    ∃ x ∈ w.holdings, x.onBench = false ∧ x.task = z.task := by
  cases h with
  | recordAccepted k =>
    obtain ⟨s, found, last⟩ := Option.bind_eq_some_iff.1 settles
    split at last
    · cases last
      exact ⟨.settlement s, mem_holdings_settlement.2 (List.mem_of_find?_eq_some found), rfl, rfl⟩
    · cases last
  | collect k =>
    obtain ⟨a, found, answered⟩ := Option.bind_eq_some_iff.1 (Option.filter_eq_some_iff.1 settles).1
    split at answered
    · split at answered
      · cases answered
      · cases answered
        exact ⟨.attempt a, mem_holdings_attempt.2 (List.mem_of_find?_eq_some found), rfl, rfl⟩
    · cases answered
  | beginExpiry k =>
    obtain ⟨e, -, rfl⟩ := Option.map_eq_some_iff.1 (Option.filter_eq_some_iff.1 settles).1
    exact absurd rfl kept
  | submit s =>
    have away : w.office.turnedAway? s = some z := (Option.filter_eq_some_iff.1 settles).1
    unfold turnedAway? at away
    split at away
    · split at away
      · cases away
        exact absurd rfl kept
      · cases away
    · cases away
  | _ => cases settles

/-- What a happening makes is the first task of a batch, or a retry of a task that waited too long or was not on the
bench. -/
theorem made_cases {t : Task} (ht : t ∈ w.made h) :
    t.ticket = w.office.ledger.accounts.length ∨
      (∃ o u, (o, u) ∈ w.executed h ∧ o.escalates u ∧ u.ticket = t.ticket) ∨
      ∃ x ∈ w.holdings, x.onBench = false ∧ x.task.ticket = t.ticket := by
  rcases List.mem_append.1 ht with ht | failed
  · rcases List.mem_append.1 ht with ht | settled
    · rcases List.mem_append.1 ht with first | escalated
      · refine .inl ?_
        unfold entering at first
        split at first
        · split at first
          · rw [List.mem_singleton.1 first]
            rfl
          · cases first
        · cases first
      · obtain ⟨⟨o, u⟩, hp, rfl⟩ := List.mem_map.1 escalated
        obtain ⟨executed, escalates⟩ := List.mem_filter.1 hp
        exact .inr (.inl ⟨o, u, executed, escalates, rfl⟩)
    · obtain ⟨z, hz, rfl⟩ := List.mem_map.1 settled
      obtain ⟨settles, again⟩ := Option.filter_eq_some_iff.1 (Option.mem_toList.1 hz)
      have kept : z.purpose.kept ≠ [] := of_decide_eq_true (Bool.and_eq_true_iff.1 again).1
      obtain ⟨x, hx, away, task⟩ := away_of_settles? settles kept
      have same : x.task.ticket = z.task.ticket := congrArg Task.ticket task
      exact .inr (.inr ⟨x, hx, away, same⟩)
  · unfold resent at failed
    split at failed
    · obtain ⟨a, ha, rfl⟩ := List.mem_map.1 failed
      have found := (Option.filter_eq_some_iff.1 (Option.mem_toList.1 ha)).1
      exact .inr (.inr ⟨.attempt a, mem_holdings_attempt.2 (List.mem_of_find?_eq_some found), rfl, rfl⟩)
    · cases failed

/-- How the wait of `t` comes to an end with what happens to `t` itself. -/
inductive Relieves (w : World) (h : Happening) (t : Task) : Prop where
  | supplied {o : Office} (executed : (o, t) ∈ w.executed h) (acquired : (o.acquire? t).isSome)
  /-- Its wait has lasted too long: it is retried, or gives up. -/
  | escalated {o : Office} (executed : (o, t) ∈ w.executed h) (short : o.acquire? t = none)
      (spent : ∀ delay, (o.shortage t).1 ≠ .requeued delay)
  | resolved {v : Verdict} (ended : (w.after h).office.ledger.verdict? t.ticket = some v)

/-- Whatever is executed is the task of a batch that was queued. -/
theorem live_of_executed {o : Office} {t : Task} (executed : (o, t) ∈ w.executed h) :
    ∃ l, .queued l t ∈ w.holdings := by
  obtain ⟨_, serves⟩ := serves_of_executed executed
  have queued : t ∈ w.office.lanes.tasks := serves.queued _ executed
  obtain ⟨l, hl⟩ := (Lanes.mem_tasks_iff _).1 queued
  exact ⟨l, mem_holdings_queued.2 hl⟩

theorem relieves_of_executed (owned : w.custody.Owned) {o : Office} {t : Task} (executed : (o, t) ∈ w.executed h)
    (relieves : o.Relieves t) : w.Relieves h t := by
  cases relieves with
  | supplied acquired => exact .supplied executed acquired
  | escalated short spent => exact .escalated executed short spent
  | shut short patient closed =>
    -- it has ended with its execution, and stays so for the rest of the tick
    obtain ⟨_, serves⟩ := serves_of_executed executed
    have held := owned.leads (leads_of_executed (R := fun _ _ => True) executed)
    have unended : o.ledger.isOpen t.ticket := isOpen_of_live held (mem_holding w o t)
    exact .resolved (serves.verdict?_of_execute _ executed (verdict?_execute_of_closed unended short patient closed))

/-- The effects that a happening may have on the bench. -/
inductive Affects (w : World) (h : Happening) : Effect → Prop where
  | live {x : Holding} (hx : x ∈ w.holdings) (relieves : x.onBench → w.Relieves h x.task) :
      Affects w h (.clear x.task.id)
  /-- The retry of a task ends at once where the timers are closed, and a batch for a domain that is not known
  where there is no sink. -/
  | made {t : Task} (ht : t ∈ w.made h) : Affects w h (.clear t.id)
  /-- A run is ended with all its queued tasks. -/
  | withRun {u : Runner} {c : Fault} {t : Task} (ends : w.aborts? h = some (u, c)) (queued : t ∈ w.office.lanes.tasks)
      (own : t.ownedBy u) : Affects w h (.clear t.id)
  | ends {u : Runner} {c : Fault} (ends : w.aborts? h = some (u, c)) : Affects w h (.clearJob u.id)
  | unregisters {id : RunnerId} (same : h = .unregister id) : Affects w h (.clearJob id)
  | lacks {o : Office} {t : Task} (executed : (o, t) ∈ w.executed h) (short : o.acquire? t = none) :
      Affects w h (.lack t)
  | shelves {s : Sleeper} (hs : s ∈ w.shelved h) : Affects w h (.shelve s)
  | drops {t : Task} {place : Nat} (same : h = .dropOutside place) : Affects w h (.letGo t)

theorem affects_away {x : Holding} (hx : x ∈ w.holdings) (away : x.onBench = false) :
    w.Affects h (.clear x.task.id) := by
  refine .live hx fun bench => ?_
  rw [away] at bench
  cases bench

theorem affects_queued {t : Task} (queued : t ∈ w.office.lanes.tasks) (relieves : w.Relieves h t) :
    w.Affects h (.clear t.id) := by
  obtain ⟨l, hl⟩ := (Lanes.mem_tasks_iff _).1 queued
  exact .live (x := .queued l t) (mem_holdings_queued.2 hl) fun _ => relieves

theorem allowsEnd_affects (w : World) (h : Happening) : w.office.AllowsEnd (w.Affects h) (w.aborts? h) :=
  fun _ _ ends => ⟨.ends ends, fun _ queued own => .withRun ends queued own⟩

theorem bench_useOutside {ok : Effect → Prop} {f : Office → Task → Office} (place : Nat)
    (uses : ∀ t (H : Multiset Task), w.outside[place]? = some t →
      Does ok (w.office.bench (t ::ₘ H)) ((f w.office t).bench H)) :
    Does ok w.bench (w.useOutside place f).bench := by
  unfold useOutside
  split
  · next t ht =>
    obtain ⟨inside, rfl⟩ := List.getElem?_eq_some_iff.1 ht
    -- the task at the place goes to the front
    have perm := List.getElem_cons_eraseIdx_perm inside
    rw [bench, ← Multiset.coe_eq_coe.2 perm, ← Multiset.cons_coe]
    exact uses _ _ ht
  · exact .refl _

/-- What happens has no other effects on the bench than those that it may have. -/
theorem affects_after (regular : w.custody.Regular) (owned : w.custody.Owned) (h : Happening) :
    Does (w.Affects h) w.bench (w.after h).bench := by
  have served : ∀ {o : Office}, o.bench ↑w.outside = w.bench → o.lanes = w.office.lanes →
      ({ w with office := o } : World).custody.Owned → Ticking.Serves o (w.executed h) (w.after h).office →
      Does (w.Affects h) w.bench ((w.after h).office.bench ↑w.outside) := by
    intro o same lanes owned' serves
    rw [← same]
    have queued : ∀ q ∈ o.lanes.tasks, w.Relieves h q → w.Affects h (.clear q.id) := fun q hq relieves =>
      affects_queued (lanes ▸ hq) relieves
    exact serves.bench owned' (fun q hq v ended => queued q hq (.resolved ended))
      (fun p hp relieves => queued p.2 (serves.queued p hp) (relieves_of_executed owned hp relieves))
      (fun p hp short => .lacks hp short) (fun p hp escalates => .made (made_of_escalates hp escalates))
      fun p hp s shelved => .shelves (List.mem_filterMap.2 ⟨p, hp, shelved⟩)
  cases h with
  | submit s =>
    have bench : (w.after (.submit s)).bench = ((w.office.submit s).2).bench ↑w.outside := by
      rw [after, World.bench, office_submit]
      unfold World.submit
      split
      split <;> rfl
    rw [bench]
    exact bench_submit s fun z away _ => .made (made_of_turnedAway away)
  | tick =>
    exact served (o := { w.office with hold := w.office.bulkBudget.2 }) rfl rfl owned
      (Ticking.serves w.office.bulkBudget.1 w.office.lanes.total
        { office := { w.office with hold := w.office.bulkBudget.2 } })
  | turns bulk n report bulkStarted excluded =>
    exact served (o := w.office) rfl rfl owned (Ticking.serves bulk n
      { office := w.office, report := report, bulkStarted := bulkStarted, excluded := excluded })
  | wake n =>
    refine bench_wake n (nodup_sleepers regular) fun s timers r taken due invalid => ?_
    obtain ⟨u, found, he⟩ := Option.map_eq_some_iff.1 taken
    obtain rfl : u = s := congrArg Prod.fst he
    have asleep := mem_holdings_asleep.2 (List.mem_of_find?_eq_some found)
    exact .live asleep fun _ => .resolved (verdict?_wake (isOpen_of_live owned asleep) taken due invalid)
  | sendEnded n report => exact .of_eq rfl
  | collect n =>
    refine bench_collect n (fun a found => ?_) ?_ ?_ (allowsEnd_affects w (.collect n))
    · exact affects_away (mem_holdings_attempt.2 (List.mem_of_find?_eq_some found)) rfl
    · intro a cause found reported retryable budget goesOn
      exact .made (made_of_failed found reported retryable budget goesOn)
    · intro s answered waits goesOn some
      refine .made (made_of_settles? ?_ goesOn some)
      exact Option.filter_eq_some_iff.2 ⟨answered, by rw [waits]; rfl⟩
  | beginExpiry n =>
    refine bench_beginExpiry n fun s gaveUp _ => ?_
    obtain ⟨e, found, rfl⟩ := Option.map_eq_some_iff.1 gaveUp
    exact affects_away (mem_holdings_expiry.2 (List.mem_of_find?_eq_some found)) rfl
  | recordAccepted n =>
    refine bench_recordAccepted n fun s recorded =>
      ⟨?_, fun goesOn some => .made (made_of_settles? recorded goesOn some)⟩
    obtain ⟨z, found, last⟩ := Option.bind_eq_some_iff.1 recorded
    split at last
    · cases last
      exact affects_away (mem_holdings_settlement.2 (List.mem_of_find?_eq_some found)) rfl
    · cases last
  | recordRefused n message =>
    refine bench_recordRefused n message (fun s found => ?_) (allowsEnd_affects w (.recordRefused n message))
    exact affects_away (mem_holdings_settlement.2 (List.mem_of_find?_eq_some found)) rfl
  | register u =>
    have out : Does (w.Affects (.register u)) (w.office.bench ↑w.outside) _ :=
      bench_withdraw (o := { w.office with registry := w.office.registry.register u }) fun t =>
        t.ownedByJob u.id && !t.ownedBy u
    rw [add_comm, Multiset.coe_add] at out
    exact out
  | unregister id => exact .one (.clearJob id (.unregisters rfl))
  | abortRun t cause => exact bench_abortRun cause (allowsEnd_affects w (.abortRun t cause))
  | failOutside place cause =>
    refine bench_useOutside place fun t H found => bench_fail cause ?_
    have outside := mem_holdings_outside.2 (List.mem_of_getElem? found)
    refine .live outside fun _ => .resolved (v := .error cause) ?_
    rw [after, useOutside, found]
    exact verdict?_fail cause (isOpen_of_live owned outside)
  | dropOutside place => exact bench_useOutside place fun t H found => .one (.letGo t (.drops rfl))
  | closeTimers =>
    refine bench_closeTimers fun s hs => ?_
    have asleep := mem_holdings_asleep.2 hs
    exact .live asleep fun _ => .resolved (verdict?_closeTimers (isOpen_of_live owned asleep) hs)
  | emptyLanes =>
    refine bench_emptyLanes fun t ht => affects_queued ht (.resolved (verdict?_emptyLanes ?_ ht))
    obtain ⟨l, hl⟩ := (Lanes.mem_tasks_iff _).1 ht
    exact isOpen_of_live owned (mem_holdings_queued.2 hl)
  | abandon numbers => exact .of_eq (bench_dropAll (w.office.tasksOf numbers)).symm
  | beginTick | pass | shift | readDaily | readWindow | stopAccepting | closeWorkers | takeSends | takeWaiters
    | sessionFailed | draw => exact .refl _

end World

end Postroom
