import Postroom.Proofs.Queue.Turnover
import Postroom.Proofs.Retries.Tries
import Postroom.Proofs.Settlements.Course

/-!
# The bench

A task whose wait for resources is on record sits in a lane, sleeps, or is in the hands of whoever took it out or
works on it. These places and the record of the waits are the bench of an office; whatever the office does is a
chain of steps on its bench. A task comes into the hands from its place and goes back to one, or it leaves the
bench, and then its wait is over.

- `Bench`: the waits on record and where tasks sit. `Office.bench` is that of an office with tasks in the hands.
- `Bench.Effect`: what a step does beyond moving a task. `Bench.Does`: a chain of steps with permitted effects.
- `Office.bench_fail` and the like: each operation as a chain of steps, with the effects that it has.
- `Office.shelved?`, `Office.Relieves`: how a task that is executed falls asleep in a shortage, and how its wait
  comes to an end.
-/

namespace Postroom

/-- The waits on record, and the tasks that may have one. -/
structure Bench where
  waits : WaitTable
  queued : Multiset Task
  asleep : Multiset Sleeper
  /-- The tasks that are worked on or were taken out. -/
  hands : Multiset Task

namespace WaitTable

/-- The wait of `id`, if one is on record. -/
def wait? (w : WaitTable) (id : BatchId) : Option Wait := w.waits.find? id

end WaitTable

namespace Bench

/-- What a step on the bench does beyond moving a task. -/
inductive Effect where
  /-- The wait of a task is over. -/
  | clear (id : BatchId)
  /-- The waits of a job are over. -/
  | clearJob (job : RunnerId)
  /-- A task finds no resources, and its wait begins if it has not begun. -/
  | lack (t : Task)
  /-- A task falls asleep in a shortage. -/
  | shelve (s : Sleeper)
  /-- A task is let go of, without an end of its wait. -/
  | letGo (t : Task)

/-- One step on the bench. -/
inductive Step (ok : Effect → Prop) : Bench → Bench → Prop where
  /-- A queued task comes into the hands. -/
  | poll {w q z H} (t : Task) : Step ok ⟨w, t ::ₘ q, z, H⟩ ⟨w, q, z, t ::ₘ H⟩
  /-- A sleeping task comes into the hands. -/
  | rouse {w q z H} (s : Sleeper) : Step ok ⟨w, q, s ::ₘ z, H⟩ ⟨w, q, z, s.task ::ₘ H⟩
  /-- A task that had no place comes into the hands. -/
  | bring {w q z H} (t : Task) : Step ok ⟨w, q, z, H⟩ ⟨w, q, z, t ::ₘ H⟩
  | queue {w q z H} (t : Task) (now : Int) :
      Step ok ⟨w, q, z, t ::ₘ H⟩ ⟨w, { t with enqueuedAt := now } ::ₘ q, z, H⟩
  | shelve {w q z H} (s : Sleeper) (permitted : ok (.shelve s)) :
      Step ok ⟨w, q, z, s.task ::ₘ H⟩ ⟨w, q, s ::ₘ z, H⟩
  /-- A task that had no place falls asleep, as a retry does. -/
  | nap {w q z H} (s : Sleeper) : Step ok ⟨w, q, z, H⟩ ⟨w, q, s ::ₘ z, H⟩
  | lack {w q z H} (t : Task) (now : Int) (permitted : ok (.lack t)) :
      Step ok ⟨w, q, z, t ::ₘ H⟩ ⟨(w.since t.id t.runnerId now).2, q, z, t ::ₘ H⟩
  /-- A task leaves the bench. -/
  | leave {w q z H} (t : Task) (permitted : ok (.clear t.id)) :
      Step ok ⟨w, q, z, t ::ₘ H⟩ ⟨w.clear t.id, q, z, H⟩
  | clearJob {w q z H} (job : RunnerId) (permitted : ok (.clearJob job)) :
      Step ok ⟨w, q, z, H⟩ ⟨w.clearJob job, q, z, H⟩
  | letGo {w q z H} (t : Task) (permitted : ok (.letGo t)) :
      Step ok ⟨w, q, z, t ::ₘ H⟩ ⟨w, q, z, H⟩

/-- A chain of steps. -/
def Does (ok : Effect → Prop) : Bench → Bench → Prop := Relation.ReflTransGen (Step ok)

namespace Does

variable {ok ok' : Effect → Prop} {a b c : Bench}

theorem refl (b : Bench) : Does ok b b := Relation.ReflTransGen.refl

theorem of_eq (h : b = c) : Does ok b c := h ▸ refl b

theorem trans (h : Does ok a b) (k : Does ok b c) : Does ok a c := Relation.ReflTransGen.trans h k

theorem one (h : Step ok a b) : Does ok a b := Relation.ReflTransGen.single h

/-- What every step keeps, a chain of steps keeps. -/
theorem keeps {I : Bench → Prop} (step : ∀ b c, Step ok b c → I b → I c) (h : Does ok b c) (hb : I b) : I c := by
  induction h with
  | refl => exact hb
  | tail _ hstep ih => exact step _ _ hstep ih

/-- Many queued tasks come into the hands. -/
theorem pollAll (w : WaitTable) (ts : List Task) (q : Multiset Task) (z : Multiset Sleeper) (H : Multiset Task) :
    Does ok ⟨w, ↑ts + q, z, H⟩ ⟨w, q, z, ↑ts + H⟩ := by
  induction ts generalizing H with
  | nil => exact .of_eq (by rw [Multiset.coe_nil, zero_add, zero_add])
  | cons t ts ih =>
    have rest := ih (t ::ₘ H)
    rw [Multiset.add_cons] at rest
    rw [← Multiset.cons_coe, Multiset.cons_add, Multiset.cons_add]
    exact (one (.poll t)).trans rest

/-- Many sleeping tasks come into the hands. -/
theorem rouseAll (w : WaitTable) (q : Multiset Task) (ss : List Sleeper) (z : Multiset Sleeper) (H : Multiset Task) :
    Does ok ⟨w, q, ↑ss + z, H⟩ ⟨w, q, z, ↑(ss.map (·.task)) + H⟩ := by
  induction ss generalizing H with
  | nil => exact .of_eq (by rw [Multiset.coe_nil, zero_add, List.map_nil, Multiset.coe_nil, zero_add])
  | cons s ss ih =>
    have rest := ih (s.task ::ₘ H)
    rw [Multiset.add_cons] at rest
    rw [← Multiset.cons_coe, Multiset.cons_add, List.map_cons, ← Multiset.cons_coe, Multiset.cons_add]
    exact (one (.rouse s)).trans rest

end Does

end Bench

namespace Office

open Bench

/-- The bench of an office, with the tasks `H` in the hands. -/
def bench (o : Office) (H : Multiset Task) : Bench := ⟨o.waits, ↑o.lanes.tasks, ↑o.timers.sleepers, H⟩

variable {ok : Effect → Prop} {o o' : Office} {t : Task} {H : Multiset Task}

/-- What a task comes to that has no place, it comes to. -/
theorem bench_bring {b : Bench} (t : Task) (h : Does ok (o.bench (t ::ₘ H)) b) : Does ok (o.bench H) b :=
  (Does.one (.bring t)).trans h

/-! ### How batches end -/

theorem bench_conclude (v : Verdict) (clear : ok (.clear t.id)) :
    Does ok (o.bench (t ::ₘ H)) ((o.conclude t v).bench H) := by
  have left : Does ok (o.bench (t ::ₘ H)) (bench { o with waits := o.waits.clear t.id } H) := .one (.leave t clear)
  refine left.trans (.of_eq ?_)
  unfold conclude
  dsimp only
  split <;> rfl

theorem bench_complete (clear : ok (.clear t.id)) : Does ok (o.bench (t ::ₘ H)) ((o.complete t).bench H) :=
  bench_conclude _ clear

theorem bench_fail (cause : Fault) (clear : ok (.clear t.id)) :
    Does ok (o.bench (t ::ₘ H)) ((o.fail t cause).bench H) := bench_conclude _ clear

theorem bench_failAll (ts : List Task) (cause : Fault) (clear : ∀ t ∈ ts, ok (.clear t.id)) :
    Does ok (o.bench (↑ts + H)) ((o.failAll ts cause).bench H) := by
  induction ts generalizing o with
  | nil => exact .of_eq (by rw [Multiset.coe_nil, zero_add]; rfl)
  | cons t ts ih =>
    rw [← Multiset.cons_coe, Multiset.cons_add]
    have first : Does ok (o.bench (t ::ₘ (↑ts + H))) ((o.fail t cause).bench (↑ts + H)) :=
      bench_fail cause (clear t List.mem_cons_self)
    exact first.trans (ih fun u hu => clear u (List.mem_cons_of_mem t hu))

theorem bench_dropAll (ts : List Task) : (ts.foldl drop o).bench H = o.bench H := by
  rw [foldl_drop]
  rfl

/-! ### The lanes -/

theorem bench_publishDepths (ls : List Lane) : (ls.foldl publishDepth o).bench H = o.bench H := by
  induction ls generalizing o with
  | nil => rfl
  | cons l ls ih => exact ih (o := o.publishDepth l)

theorem bench_offer (t : Task) : Does ok (o.bench (t ::ₘ H)) ((o.offer t).bench H) := by
  refine (Does.one (.queue t o.now)).trans (.of_eq ?_)
  simp only [bench, offer, publishDepth, Lanes.coe_offer]

theorem bench_poll? {l : Lane} {excluded : List Domain} (h : o.poll? l excluded = some (t, o')) :
    Does ok (o.bench H) (o'.bench (t ::ₘ H)) := by
  obtain ⟨⟨u, lanes⟩, polled, he⟩ := Option.map_eq_some_iff.1 h
  cases he
  rw [bench, Lanes.coe_poll? polled]
  exact .one (.poll u)

theorem bench_nextTask? {bulk : BulkBudget} {n : Nat} {excluded : List Domain}
    (h : o.nextTask? bulk n excluded = some (t, o')) : Does ok (o.bench H) (o'.bench (t ::ₘ H)) := by
  obtain ⟨l, -, hl⟩ := List.exists_of_findSome?_eq_some h
  split at hl
  · exact bench_poll? hl
  · cases hl

theorem bench_withdraw (p : Task → Bool) :
    Does ok (o.bench H) ((o.withdraw p).2.bench (↑(o.withdraw p).1 + H)) := by
  simp only [withdraw]
  rw [bench_publishDepths, bench, Lanes.coe_withdraw o.lanes p]
  exact .pollAll ..

/-! ### Runs -/

/-- The waits of a run's job, and of its queued tasks, may end. -/
def AllowsEnd (ok : Effect → Prop) (o : Office) (ended : Option (Runner × Fault)) : Prop :=
  ∀ u c, ended = some (u, c) → ok (.clearJob u.id) ∧ ∀ q ∈ o.lanes.tasks, q.ownedBy u → ok (.clear q.id)

theorem bench_abortRun (cause : Fault) (allows : o.AllowsEnd ok (t.runner.map (·, cause))) :
    Does ok (o.bench H) ((o.abortRun t cause).2.bench H) := by
  unfold abortRun
  split
  · exact .refl _
  · next u run =>
    obtain ⟨clearJob, clear⟩ := allows u cause (by rw [run, Option.map_some])
    split
    · exact .refl _
    · next registry _ =>
      -- the queued tasks of the run come into the hands and end, and then all waits of the job do
      have out : Does ok (o.bench H) _ := bench_withdraw (o := { o with registry := registry }) (·.ownedBy u)
      refine (out.trans (bench_failAll _ (.abortedBy u.id cause) fun q hq => ?_)).trans (.one (.clearJob u.id clearJob))
      obtain ⟨queued, own⟩ := (Lanes.mem_withdrawn o.lanes (·.ownedBy u)).1 hq
      exact clear q queued own

theorem bench_abortAndFail (cause : Fault) (clear : ok (.clear t.id))
    (allows : o.AllowsEnd ok (t.runner.map (·, cause))) :
    Does ok (o.bench (t ::ₘ H)) ((o.abortAndFail t cause).bench H) :=
  (bench_abortRun cause allows).trans (bench_fail _ clear)

theorem bench_requeue (invalid : ∀ r, o.registry.validate t = .error r → ok (.clear t.id)) :
    Does ok (o.bench (t ::ₘ H)) ((o.requeue t).bench H) := by
  unfold requeue
  split
  · exact bench_offer t
  · next r rejected => exact bench_fail _ (invalid r rejected)

/-! ### Sleep -/

/-- A task falls asleep in a shortage, or ends where the timers are closed. -/
theorem bench_shelve (delay : Nat) (shut : o.timers.closed → ok (.clear t.id))
    (shelve : ¬ o.timers.closed → ok (.shelve ⟨o.nextNumber, o.clock.uptime + delay, t⟩)) :
    Does ok (o.bench (t ::ₘ H)) ((o.sleep delay t).bench H) := by
  unfold sleep
  split
  · next closed => exact bench_fail _ (shut closed)
  · next running =>
    refine (Does.one (.shelve ⟨o.nextNumber, o.clock.uptime + delay, t⟩ (shelve running))).trans (.of_eq ?_)
    simp only [bench, Timers.add, ← Multiset.coe_add, Multiset.coe_singleton, ← Multiset.singleton_add]
    rw [add_comm]

/-- A retry falls asleep, or ends where the timers are closed. -/
theorem bench_nap (delay : Nat) (clear : ok (.clear t.id)) :
    Does ok (o.bench H) ((o.sleep delay t).bench H) := by
  unfold sleep
  split
  · exact bench_bring t (bench_fail _ clear)
  · refine (Does.one (.nap ⟨o.nextNumber, o.clock.uptime + delay, t⟩)).trans (.of_eq ?_)
    simp only [bench, Timers.add, ← Multiset.coe_add, Multiset.coe_singleton, ← Multiset.singleton_add]
    rw [add_comm]

theorem bench_scheduleRetry (kept : List Recipient) (clear : ok (.clear t.id)) (retry : ok (.clear t.next.id)) :
    Does ok (o.bench (t ::ₘ H)) ((o.scheduleRetry t kept).bench H) := by
  let next := t.retry (kept.map fun r => { r with retries := r.retries + 1 })
  let p : Office := { o with
    waits := o.waits.clear t.id
    metrics := o.metrics.retryScheduled next.lane }
  have left : Does ok (o.bench (t ::ₘ H)) (p.bench H) := .one (.leave t clear)
  exact left.trans (bench_nap (o := p) (t := next) _ retry)

theorem bench_wake (n : Nat) (nodup : (o.timers.sleepers.map (·.number)).Nodup)
    (invalid : ∀ s timers r, o.timers.take? n = some (s, timers) → s.due ≤ o.clock.uptime →
      o.registry.validate s.task = .error r → ok (.clear s.task.id)) :
    Does ok (o.bench H) ((o.wake n).bench H) := by
  unfold wake
  split
  · exact .refl _
  · next s timers taken =>
    split
    · next due =>
      obtain ⟨u, found, he⟩ := Option.map_eq_some_iff.1 taken
      have invalid := fun r => invalid s timers r taken due
      cases he
      have perm := Numbered.perm_remove nodup found
      have out : Does ok (o.bench H) (bench { o with timers := { o.timers with
          sleepers := o.timers.sleepers.filter (·.number ≠ n) } } (s.task ::ₘ H)) := by
        rw [bench, Multiset.coe_eq_coe.2 perm, ← Multiset.cons_coe]
        exact .one (.rouse s)
      exact out.trans (bench_requeue invalid)
    · exact .refl _

theorem bench_closeTimers (clear : ∀ s ∈ o.timers.sleepers, ok (.clear s.task.id)) :
    Does ok (o.bench H) (o.closeTimers.bench H) := by
  have out : Does ok (o.bench H)
      (bench { o with timers := o.timers.close.2 } (↑(o.timers.sleepers.map (·.task)) + H)) := by
    have roused : Does ok _ _ := Does.rouseAll o.waits ↑o.lanes.tasks o.timers.sleepers 0 H
    rwa [add_zero] at roused
  refine out.trans (bench_failAll _ _ fun t ht => ?_)
  obtain ⟨s, hs, rfl⟩ := List.mem_map.1 ht
  exact clear s hs

theorem bench_emptyLanes (clear : ∀ t ∈ o.lanes.tasks, ok (.clear t.id)) :
    Does ok (o.bench H) (o.emptyLanes.2.bench H) := by
  refine (bench_withdraw fun _ => true).trans (bench_failAll _ _ fun t ht => ?_)
  exact clear t ((Lanes.mem_withdrawn ..).1 ht).1

/-! ### Shortages and starts -/

/-- The sleeper as which a task that is executed falls asleep in a shortage, if it does. -/
def shelved? (o : Office) (t : Task) : Option Sleeper :=
  match o.acquire? t, (o.shortage t).1 with
  | none, .requeued delay =>
    if o.timers.closed then none else some ⟨o.nextNumber, o.clock.uptime + delay, t⟩
  | _, _ => none

/-- How the execution of `t` puts an end to its wait. -/
inductive Relieves (o : Office) (t : Task) : Prop where
  | supplied (acquired : (o.acquire? t).isSome)
  /-- Its wait has lasted too long. -/
  | escalated (short : o.acquire? t = none) (spent : ∀ delay, (o.shortage t).1 ≠ .requeued delay)
  /-- It cannot sleep any more. -/
  | shut {delay : Nat} (short : o.acquire? t = none) (patient : (o.shortage t).1 = .requeued delay)
      (closed : o.timers.closed)

theorem bench_acquire? {p : Permit} (h : o.acquire? t = some (p, o')) (clear : ok (.clear t.id)) :
    Does ok (o.bench (t ::ₘ H)) (o'.bench H) := by
  obtain ⟨_, _, h⟩ := Option.bind_eq_some_iff.1 h
  obtain ⟨_, _, h⟩ := Option.bind_eq_some_iff.1 h
  cases h
  exact .one (.leave t clear)

theorem bench_shortage (lack : ok (.lack t))
    (spent : (∀ delay, (o.shortage t).1 ≠ .requeued delay) → ok (.clear t.id))
    (retry : (o.shortage t).1 = .retried → ok (.clear t.next.id))
    (shut : ∀ delay, (o.shortage t).1 = .requeued delay → o.timers.closed → ok (.clear t.id))
    (shelve : ∀ delay, (o.shortage t).1 = .requeued delay → ¬ o.timers.closed →
      ok (.shelve ⟨o.nextNumber, o.clock.uptime + delay, t⟩)) :
    Does ok (o.bench (t ::ₘ H)) ((o.shortage t).2.bench H) := by
  have begun : Does ok (o.bench (t ::ₘ H)) ((o.waitSince t).2.bench (t ::ₘ H)) := .one (.lack t o.now lack)
  refine begun.trans ?_
  unfold shortage at spent retry shut shelve ⊢
  dsimp only at spent retry shut shelve ⊢
  split
  · next lasts =>
    rw [if_pos lasts] at shut shelve
    exact bench_shelve (o := (o.waitSince t).2.draw.2) _ (shut _ rfl) (shelve _ rfl)
  · next elapsed =>
    rw [if_neg elapsed] at spent retry
    have clear : ok (.clear t.id) := spent fun delay => by split <;> nofun
    have left : Does ok ((o.waitSince t).2.bench (t ::ₘ H))
        (bench { (o.waitSince t).2 with waits := (o.waitSince t).2.waits.clear t.id } H) := .one (.leave t clear)
    split
    · next budget =>
      rw [if_pos budget] at retry
      exact left.trans (bench_bring t (bench_scheduleRetry
        (o := { (o.waitSince t).2 with waits := (o.waitSince t).2.waits.clear t.id }) _ clear (retry rfl)))
    · exact left

theorem bench_countEnd (l : Lane) : (o.countEnd l).bench H = o.bench H := by
  unfold countEnd
  split <;> rfl

theorem bench_attemptStarted (t : Task) : (o.attemptStarted t).bench H = o.bench H := by
  unfold attemptStarted
  split <;> rfl

theorem bench_attemptFinished (t : Task) : (o.attemptFinished t).bench H = o.bench H := by
  unfold attemptFinished
  split <;> rfl

theorem bench_execute (relieves : o.Relieves t → ok (.clear t.id)) (lack : o.acquire? t = none → ok (.lack t))
    (retry : o.escalates t → ok (.clear t.next.id)) (shelve : ∀ s, o.shelved? t = some s → ok (.shelve s)) :
    Does ok (o.bench (t ::ₘ H)) ((o.execute t).2.bench H) := by
  rcases acquired : o.acquire? t with _ | ⟨permit, o'⟩
  · have short : Does ok (o.bench (t ::ₘ H)) ((o.shortage t).2.bench H) := by
      refine bench_shortage (lack acquired) (fun spent => relieves (.escalated acquired spent))
        (fun retried => retry ?_) (fun delay patient closed => relieves (.shut acquired patient closed))
        fun delay patient running => shelve _ ?_
      · rw [escalates, acquired, retried]
        rfl
      · rw [shelved?, acquired, patient]
        exact if_neg running
    simp only [execute_eq, acquired]
    rcases hs : o.shortage t with ⟨s, p⟩
    rw [hs] at short
    cases s <;> exact short
  · have clear : ok (.clear t.id) := relieves (.supplied (by rw [acquired]; rfl))
    have left : Does ok (o.bench (t ::ₘ H)) (o'.bench H) := bench_acquire? acquired clear
    simp only [execute_eq, acquired]
    cases (o'.countStart t.lane).workers.start (o'.countStart t.lane).nextNumber with
    | error cause =>
      -- no worker takes it: it comes back into the hands and ends
      refine left.trans (bench_bring t ?_)
      have back : (((o'.countStart t.lane).countEnd t.lane).releasePermit permit).bench (t ::ₘ H) =
          o'.bench (t ::ₘ H) := bench_countEnd (o := o'.countStart t.lane) t.lane
      rw [← back]
      exact bench_fail cause clear
    | ok workers =>
      refine left.trans (.of_eq ?_)
      rw [bench_attemptStarted]
      rfl

/-! ### Settlements -/

theorem bench_conclusionOfAttempt (kept : List Recipient) (clear : ok (.clear t.id))
    (retry : o.registry.abortCause t = none → kept ≠ [] → ok (.clear t.next.id)) :
    Does ok (o.bench H) ((o.conclusionOfAttempt t kept).bench H) := by
  refine bench_bring t ?_
  unfold conclusionOfAttempt
  split
  · exact bench_fail _ clear
  · next goesOn =>
    split
    · exact bench_complete clear
    · next some =>
      exact bench_scheduleRetry kept clear (retry goesOn fun none => some (List.isEmpty_iff.2 none))

theorem bench_finishSettlement (s : Settlement) (clear : ok (.clear s.task.id))
    (retry : o.registry.abortCause s.task = none → s.purpose.kept ≠ [] → ok (.clear s.rest.next.id)) :
    Does ok (o.bench H) ((o.finishSettlement s.task s.purpose s.results).bench H) := by
  obtain ⟨n, t, purpose, written, left⟩ := s
  cases purpose with
  | attempt kept =>
    rw [finishSettlement, bench_attemptFinished]
    exact bench_conclusionOfAttempt (o := o.settle t _) kept clear retry
  | expiry =>
    let count (m : Metrics) (r : RecipientResult) := m.recipientFailed t.domain.name r.code
    let counted : Office := { o with metrics := (written ++ left).foldl count o.metrics }
    exact bench_bring t (bench_complete (o := counted.settle t (written ++ left)) clear)
  | unroutable => exact bench_bring t (bench_complete (o := o.settle t (written ++ left)) clear)

/-- A settlement that is begun comes to something where it is over at once. -/
theorem bench_beginSettlement (s : Settlement) (fresh : s.written = [])
    (ends : s.waits = false → ok (.clear s.task.id) ∧
      (o.registry.abortCause s.task = none → s.purpose.kept ≠ [] → ok (.clear s.rest.next.id))) :
    Does ok (o.bench H) ((o.beginSettlement s.number s.task s.purpose s.left).bench H) := by
  rw [beginSettlement_eq s fresh]
  cases waits : s.waits with
  | true => exact .of_eq rfl
  | false => exact bench_finishSettlement s (ends waits).1 (ends waits).2

theorem bench_recordAccepted (n : Nat) (last : ∀ s, o.recorded? n = some s → ok (.clear s.task.id) ∧
    (o.registry.abortCause s.task = none → s.purpose.kept ≠ [] → ok (.clear s.rest.next.id))) :
    Does ok (o.bench H) ((o.recordAccepted n).bench H) := by
  have recorded := o.records n
  generalize o.recordAccepted n = p at recorded ⊢
  cases recorded with
  | idle => exact .refl _
  | more => exact .of_eq rfl
  | last s r found next =>
    have whole : o.recorded? n = some { s with written := s.written ++ [r], left := [] } := by
      rw [recorded?, found, Option.bind_some, next]
    have finished : Does ok (o.bench H) _ := bench_finishSettlement (o := o.removeSettlement n)
      { s with written := s.written ++ [r], left := [] } (last _ whole).1 (last _ whole).2
    rwa [Settlement.results, List.append_nil] at finished

theorem bench_recordRefused (n : Nat) (message : String)
    (clear : ∀ s, o.settlement? n = some s → ok (.clear s.task.id))
    (allows : o.AllowsEnd ok ((o.settlement? n).bind (endedByRefusal · message))) :
    Does ok (o.bench H) ((o.recordRefused n message).bench H) := by
  unfold recordRefused
  split
  · exact .refl _
  · next s found =>
    rw [found, Option.bind_some, endedByRefusal] at allows
    have ended : Does ok (o.bench (s.task ::ₘ H)) _ :=
      bench_abortAndFail (o := o.removeSettlement n) (.persistence message) (clear s found) allows
    refine bench_bring s.task ?_
    dsimp only
    split
    · rw [bench_attemptFinished]
      exact ended
    · exact ended

/-! ### The ends of attempts and of waits -/

theorem bench_failAttempt (cause : Fault) (clear : ok (.clear t.id))
    (retry : cause.isRetryable → o.config.retry.hasBudget t.retries → o.registry.abortCause t = none →
      ok (.clear t.next.id)) (allows : o.AllowsEnd ok (endedByFault t cause)) :
    Does ok (o.bench H) ((o.failAttempt t cause).bench H) := by
  refine bench_bring t ?_
  unfold endedByFault at allows
  unfold failAttempt
  split
  · next persistence =>
    rw [if_pos persistence] at allows
    exact bench_abortAndFail cause clear allows
  · split
    · exact bench_fail _ clear
    · next goesOn =>
      split
      · next again =>
        obtain ⟨retryable, budget⟩ := Bool.and_eq_true_iff.1 again
        exact bench_scheduleRetry t.recipients clear (retry retryable budget goesOn)
      · exact bench_fail _ clear

theorem bench_close (a : Attempt) : (o.close a).bench H = o.bench H := bench_countEnd _

theorem bench_collect (n : Nat) (clear : ∀ a, o.attempt? n = some a → ok (.clear a.task.id))
    (failed : ∀ a cause, o.attempt? n = some a → a.report = some (.error cause) → cause.isRetryable →
      o.config.retry.hasBudget a.task.retries → o.registry.abortCause a.task = none → ok (.clear a.task.next.id))
    (settled : ∀ s, o.answered? n = some s → s.waits = false → o.registry.abortCause s.task = none →
      s.purpose.kept ≠ [] → ok (.clear s.rest.next.id))
    (allows : o.AllowsEnd ok ((o.attempt? n).bind endedByReport)) :
    Does ok (o.bench H) ((o.collect n).bench H) := by
  have collected := o.collects n
  generalize o.collect n = p at collected ⊢
  cases collected with
  | idle => exact .refl _
  | failed a cause found reported =>
    rw [found, Option.bind_some, endedByReport, reported] at allows
    obtain ⟨inFlight, metrics, rest⟩ := o.close_rest a
    rw [bench_attemptFinished, ← bench_close (o := o) a]
    refine bench_failAttempt (o := (o.close a).releasePermit a.permit) cause (clear a found) ?_ ?_
    · intro retryable budget goesOn
      rw [rest] at budget goesOn
      exact failed a cause found reported retryable budget goesOn
    · intro u c ended
      rw [rest]
      exact allows u c ended
  | lost a outcome found reported lost pool => exact .of_eq (bench_close a).symm
  | settled a outcome found reported kept =>
    have answered : o.answered? n = some (o.settlementOf a outcome) := by
      rw [answered?_of_ok found reported, kept]
      rfl
    obtain ⟨inFlight, metrics, rest⟩ := o.close_rest a
    rw [← bench_close (o := o) a]
    refine bench_beginSettlement (o := (o.close a).answer a outcome) (o.settlementOf a outcome) rfl fun waits =>
      ⟨clear a found, fun goesOn some => settled _ answered waits ?_ some⟩
    rw [rest] at goesOn
    exact goesOn

theorem bench_beginExpiry (n : Nat) (ends : ∀ s, o.gaveUp? n = some s → s.waits = false → ok (.clear s.task.id)) :
    Does ok (o.bench H) ((o.beginExpiry n).bench H) := by
  rw [beginExpiry_eq]
  cases gaveUp : o.gaveUp? n with
  | none => exact .refl _
  | some s =>
    have kept : s.purpose.kept = [] := by
      obtain ⟨e, -, rfl⟩ := Option.map_eq_some_iff.1 gaveUp
      rfl
    exact bench_beginSettlement (o := { o with expiries := o.expiries.filter (·.number ≠ n) }) s
      (gaveUp?_fresh gaveUp).1 fun waits => ⟨ends s gaveUp waits, fun _ some => absurd kept some⟩

/-! ### Submission -/

theorem bench_submit (s : Submission)
    (ends : ∀ z, o.turnedAway? s = some z → z.waits = false → ok (.clear z.task.id)) :
    Does ok (o.bench H) ((o.submit s).2.bench H) := by
  rcases submit_cases o s with ⟨answer, same, -⟩ | ⟨-, ⟨id, _, x⟩, handle, taken⟩
  · rw [same]
    exact .refl _
  · cases handle
    rw [taken]
    dsimp only
    split
    · next unknown =>
      let z : Settlement := ⟨o.nextNumber, (o.enter s).1, .unroutable, [],
        unroutableResults o.config.recipients (o.enter s).1⟩
      have away : o.turnedAway? s = some z := by
        rw [turnedAway?, taken]
        exact if_pos unknown
      exact bench_beginSettlement (o := { (o.enter s).2 with nextNumber := o.nextNumber + 1 }) z rfl fun waits =>
        ⟨ends z away waits, fun _ some => absurd rfl some⟩
    · exact bench_bring (o := (o.enter s).2) _ (bench_offer (o := (o.enter s).2) _)

end Office

end Postroom
