import Mathlib.Logic.Relation
import Postroom.Proofs.Settlements.Steps

/-!
# What an office does at its desk

The lanes, the timers, the ends of the batches and the counts of the days change together. They are the desk of
an office; whatever the office does is a chain of a few deeds at its desk, and each operation says which deeds
these may be. What every permitted deed keeps, the operation keeps.

- `Desk`: what waits, how the batches ended, and what was counted. `Office.desk` is that of an office.
- `Deed`, `Desk.after`: one change of a desk. `Desk.Does`: a chain of permitted deeds.
- `Deed.Works`: what the work on a task may do: end its batch, or let it sleep.
- `Office.does_fail` and the like: each operation of an office as a chain of deeds.
-/

namespace Postroom

/-- What waits at an office, how its batches ended, and what it has counted. -/
structure Desk where
  now : Int
  lanes : Lanes
  timers : Timers
  daily : Daily
  /-- How each batch has ended, if it has, by ticket. -/
  verdicts : List (Option Verdict)

/-- One change of a desk. -/
inductive Deed where
  /-- A batch ends, if it has not, and is counted. -/
  | conclude (n : Nat) (v : Verdict)
  /-- A batch is let go of, if it has not ended. -/
  | drop (n : Nat)
  /-- A task is put into its lane, with the time of day as its enqueue time. -/
  | offer (t : Task)
  /-- A task falls asleep, unless the timers are closed. -/
  | sleep (s : Sleeper)
  /-- All queued tasks that satisfy a condition end. -/
  | purge (p : Task → Bool) (cause : Fault)
  /-- The next task of a lane is taken. -/
  | poll (l : Lane) (excluded : List Domain)
  /-- All queued tasks that satisfy a condition are handed out. -/
  | handOut (p : Task → Bool)
  /-- The sleeper with a number is taken. -/
  | rouse (number : Nat)
  /-- The timers close, and all sleepers end. -/
  | close
  /-- A batch is entered. -/
  | enter
  | clock (now : Int)
  /-- Days that are not kept any more go. -/
  | prune

namespace Desk

/-- Whether a batch has been entered and has not ended. -/
def isOpen (d : Desk) (n : Nat) : Bool := d.verdicts[n]?.any (·.isNone)

/-- The batch of a ticket ends, if it has not. -/
def resolve (d : Desk) (n : Nat) (v : Verdict) : Desk :=
  { d with verdicts := d.verdicts.modify n fun x => if x.isNone then some v else x }

/-- The batch of a ticket ends, if it has not, and is counted. -/
def conclude (d : Desk) (n : Nat) (v : Verdict) : Desk :=
  if d.isOpen n then
    { d.resolve n v with
      daily := if v.toBool then d.daily.recordCompleted d.now else d.daily.recordFailed d.now }
  else d

/-- The batches of some tasks end alike. -/
def concludeAll (d : Desk) (ts : List Task) (v : Verdict) : Desk :=
  ts.foldl (fun d t => d.conclude t.ticket v) d

/-- The desk after a deed. -/
def after (d : Desk) : Deed → Desk
  | .conclude n v => d.conclude n v
  | .drop n => d.resolve n (.error .cancelled)
  | .offer t => { d with lanes := d.lanes.offer { t with enqueuedAt := d.now } }
  | .sleep s => { d with timers := if d.timers.closed then d.timers else d.timers.add s }
  | .purge p cause => { d with lanes := (d.lanes.withdraw p).2 }.concludeAll (d.lanes.withdraw p).1
      (.error cause)
  | .poll l excluded => { d with lanes := ((d.lanes.poll? l excluded).map (·.2)).getD d.lanes }
  | .handOut p => { d with lanes := (d.lanes.withdraw p).2 }
  | .rouse n => { d with timers := ((d.timers.take? n).map (·.2)).getD d.timers }
  | .close => { d with timers := d.timers.close.2 }.concludeAll (d.timers.close.1.map Sleeper.task)
      (.error .shutdown)
  | .enter => { d with verdicts := d.verdicts ++ [none] }
  | .clock now => { d with now := now }
  | .prune => { d with daily := d.daily.prune d.now }

/-- A desk without the ends of the batches and what was counted of them. -/
def rest (d : Desk) : Desk := { d with daily := {}, verdicts := [] }

theorem rest_conclude (d : Desk) (n : Nat) (v : Verdict) : (d.conclude n v).rest = d.rest := by
  unfold conclude
  split <;> rfl

theorem rest_concludeAll (ts : List Task) (d : Desk) (v : Verdict) : (d.concludeAll ts v).rest = d.rest := by
  induction ts generalizing d with
  | nil => rfl
  | cons t ts ih => exact (ih (d.conclude t.ticket v)).trans (rest_conclude d _ v)

theorem lanes_conclude (d : Desk) (n : Nat) (v : Verdict) : (d.conclude n v).lanes = d.lanes :=
  congrArg (·.lanes) (rest_conclude d n v)

theorem lanes_concludeAll (ts : List Task) (d : Desk) (v : Verdict) : (d.concludeAll ts v).lanes = d.lanes :=
  congrArg (·.lanes) (rest_concludeAll ts d v)

theorem timers_conclude (d : Desk) (n : Nat) (v : Verdict) : (d.conclude n v).timers = d.timers :=
  congrArg (·.timers) (rest_conclude d n v)

theorem timers_concludeAll (ts : List Task) (d : Desk) (v : Verdict) : (d.concludeAll ts v).timers = d.timers :=
  congrArg (·.timers) (rest_concludeAll ts d v)

theorem now_conclude (d : Desk) (n : Nat) (v : Verdict) : (d.conclude n v).now = d.now :=
  congrArg (·.now) (rest_conclude d n v)

theorem now_concludeAll (ts : List Task) (d : Desk) (v : Verdict) : (d.concludeAll ts v).now = d.now :=
  congrArg (·.now) (rest_concludeAll ts d v)

/-- A chain of permitted deeds. -/
def Does (ok : Deed → Prop) : Desk → Desk → Prop :=
  Relation.ReflTransGen fun d e => ∃ x, ok x ∧ e = d.after x

namespace Does

variable {ok : Deed → Prop} {d e f : Desk}

theorem refl (d : Desk) : Does ok d d := Relation.ReflTransGen.refl

theorem of_eq (h : e = d) : Does ok d e := by
  rw [h]
  exact refl d

theorem trans (h : Does ok d e) (k : Does ok e f) : Does ok d f := Relation.ReflTransGen.trans h k

theorem one {x : Deed} (permitted : ok x) (h : e = d.after x) : Does ok d e :=
  Relation.ReflTransGen.single ⟨x, permitted, h⟩

/-- What every permitted deed keeps, a chain of permitted deeds keeps. -/
theorem keeps {I : Desk → Prop} (step : ∀ d x, ok x → I d → I (d.after x)) (h : Does ok d e) (hd : I d) :
    I e := by
  induction h with
  | refl => exact hd
  | tail _ deed ih =>
    obtain ⟨x, permitted, rfl⟩ := deed
    exact step _ x permitted ih

end Does

end Desk

/-- What the work on a task of a batch may do: end the batch, or let a task of it sleep. -/
structure Deed.Works (ok : Deed → Prop) (n : Nat) : Prop where
  conclude : ∀ v, ok (.conclude n v)
  sleep : ∀ s : Sleeper, s.task.ticket = n → ok (.sleep s)

/-- A task of a batch may be put into its lane. -/
def Deed.Offers (ok : Deed → Prop) (n : Nat) : Prop := ∀ t : Task, t.ticket = n → ok (.offer t)

/-- What the end of a run may do: end its queued tasks. -/
def Deed.Purges (ok : Deed → Prop) (ended : Option (Runner × Fault)) : Prop :=
  ∀ u c, ended = some (u, c) → ok (.purge (·.ownedBy u) (.abortedBy u.id c))

namespace Office

open Desk Deed

/-- The desk of an office. -/
def desk (o : Office) : Desk where
  now := o.now
  lanes := o.lanes
  timers := o.timers
  daily := o.daily
  verdicts := o.ledger.accounts.map (·.verdict)

variable {ok : Deed → Prop} {o o' : Office} {t : Task}

/-! ### Operations away from the desk -/

theorem desk_countEnd (l : Lane) : (o.countEnd l).desk = o.desk := by
  unfold countEnd
  split <;> rfl

theorem desk_attemptStarted (t : Task) : (o.attemptStarted t).desk = o.desk := by
  unfold attemptStarted
  split <;> rfl

theorem desk_attemptFinished (t : Task) : (o.attemptFinished t).desk = o.desk := by
  unfold attemptFinished
  split <;> rfl

theorem desk_settle (t : Task) (results : List RecipientResult) : (o.settle t results).desk = o.desk := by
  have same : (o.ledger.settle t.ticket results).accounts.map (·.verdict) =
      o.ledger.accounts.map (·.verdict) := by
    refine List.ext_getElem? fun n => ?_
    rw [List.getElem?_map, List.getElem?_map]
    show ((o.ledger.settle t.ticket results).account? n).map _ = (o.ledger.account? n).map _
    rw [Ledger.account?_settle, Option.map_map]
    refine Option.map_congr fun a _ => ?_
    rw [Function.comp_apply]
    split <;> rfl
  exact congrArg (Desk.mk o.now o.lanes o.timers o.daily) same

theorem desk_acquire? {p : Permit} (h : o.acquire? t = some (p, o')) : o'.desk = o.desk := by
  obtain ⟨_, _, h⟩ := Option.bind_eq_some_iff.1 h
  obtain ⟨_, _, h⟩ := Option.bind_eq_some_iff.1 h
  cases h
  rfl

theorem desk_close (a : Attempt) : (o.close a).desk = o.desk := desk_countEnd _

/-! ### How batches end -/

theorem isOpen_desk (o : Office) (n : Nat) : o.desk.isOpen n = o.ledger.isOpen n := by
  rw [Desk.isOpen, desk, List.getElem?_map, Option.any_map]
  rfl

/-- The ends of the batches, once one more has ended. -/
theorem verdicts_resolve (l : Ledger) (n : Nat) (v : Verdict) :
    (l.resolve n v).accounts.map (·.verdict) =
      (l.accounts.map (·.verdict)).modify n fun x => if x.isNone then some v else x := by
  refine List.ext_getElem? fun m => ?_
  rw [List.getElem?_map, List.getElem?_modify, List.getElem?_map]
  show ((l.resolve n v).account? m).map _ = ((l.account? m).map _).map _
  rw [Ledger.account?_resolve, Option.map_map, Option.map_map]
  refine Option.map_congr fun a _ => ?_
  simp only [Function.comp_apply]
  by_cases same : n = m
  · by_cases open' : a.verdict.isNone <;> simp [same, open']
  · simp [same]

theorem desk_conclude (t : Task) (v : Verdict) : (o.conclude t v).desk = o.desk.conclude t.ticket v := by
  unfold conclude Desk.conclude
  rw [isOpen_desk]
  dsimp only
  split
  · exact congrArg (Desk.mk o.now o.lanes o.timers _) (verdicts_resolve ..)
  · rfl

theorem desk_drop (t : Task) : (o.drop t).desk = o.desk.resolve t.ticket (.error .cancelled) :=
  congrArg (Desk.mk o.now o.lanes o.timers o.daily) (verdicts_resolve ..)

theorem desk_failAll (ts : List Task) (cause : Fault) :
    (o.failAll ts cause).desk = o.desk.concludeAll ts (.error cause) := by
  induction ts generalizing o with
  | nil => rfl
  | cons t ts ih =>
    refine (ih (o := o.fail t cause)).trans ?_
    rw [fail, desk_conclude]
    rfl

theorem does_conclude (works : Works ok t.ticket) (v : Verdict) :
    Does ok o.desk (o.conclude t v).desk := .one (works.conclude v) (desk_conclude t v)

theorem does_fail (works : Works ok t.ticket) (cause : Fault) : Does ok o.desk (o.fail t cause).desk :=
  does_conclude works _

theorem does_complete (works : Works ok t.ticket) : Does ok o.desk (o.complete t).desk :=
  does_conclude works _

theorem does_dropAll (ts : List Task) (drops : ∀ t ∈ ts, ok (.drop t.ticket)) :
    Does ok o.desk (ts.foldl drop o).desk := by
  induction ts generalizing o with
  | nil => exact .refl _
  | cons t ts ih =>
    have first : Does ok o.desk (o.drop t).desk :=
      .one (drops t (List.mem_cons_self ..)) (desk_drop t)
    exact first.trans (ih fun u hu => drops u (List.mem_cons_of_mem _ hu))

/-! ### Lanes and timers -/

theorem desk_publishDepths (ls : List Lane) : (ls.foldl publishDepth o).desk = o.desk := by
  induction ls generalizing o with
  | nil => rfl
  | cons l ls ih => exact ih (o := o.publishDepth l)

theorem desk_withdraw (p : Task → Bool) :
    (o.withdraw p).2.desk = { o.desk with lanes := (o.lanes.withdraw p).2 } := desk_publishDepths _

theorem does_offer (offers : Offers ok t.ticket) : Does ok o.desk (o.offer t).desk :=
  .one (offers t rfl) rfl

theorem does_requeue (works : Works ok t.ticket) (offers : Offers ok t.ticket) :
    Does ok o.desk (o.requeue t).desk := by
  unfold requeue
  split
  · exact does_offer offers
  · exact does_fail works _

theorem does_poll? {l : Lane} {excluded : List Domain} (polls : ok (.poll l excluded))
    (h : o.poll? l excluded = some (t, o')) : Does ok o.desk o'.desk := by
  obtain ⟨⟨u, lanes⟩, polled, he⟩ := Option.map_eq_some_iff.1 h
  cases he
  refine .one polls ?_
  have polled : o.desk.lanes.poll? l excluded = some (u, lanes) := polled
  rw [Desk.after, polled]
  rfl

theorem does_sleep (works : Works ok t.ticket) (delay : Nat) : Does ok o.desk (o.sleep delay t).desk := by
  unfold sleep
  split
  · exact does_fail works _
  · next running =>
    refine .one (works.sleep ⟨o.nextNumber, o.clock.uptime + delay, t⟩ rfl) ?_
    rw [Desk.after, if_neg (show ¬ o.desk.timers.closed from running)]
    rfl

theorem does_scheduleRetry (works : Works ok t.ticket) (kept : List Recipient) :
    Does ok o.desk (o.scheduleRetry t kept).desk := by
  let retry := t.retry (kept.map fun r => { r with retries := r.retries + 1 })
  exact does_sleep (t := retry) works (o.config.retry.delay retry.retries)
    (o := { o with waits := o.waits.clear t.id, metrics := o.metrics.retryScheduled retry.lane })

theorem does_shortage (works : Works ok t.ticket) : Does ok o.desk (o.shortage t).2.desk := by
  unfold shortage
  dsimp only
  split
  · exact does_sleep (o := (o.waitSince t).2.draw.2) works _
  · split
    · exact does_scheduleRetry works _
        (o := { (o.waitSince t).2 with waits := (o.waitSince t).2.waits.clear t.id })
    · exact .of_eq rfl

theorem does_wake (n : Nat) (rouses : ok (.rouse n))
    (works : ∀ s timers, o.timers.take? n = some (s, timers) →
      Works ok s.task.ticket ∧ Offers ok s.task.ticket) :
    Does ok o.desk (o.wake n).desk := by
  unfold wake
  split
  · exact .refl _
  · next s timers taken =>
    split
    · have roused : Does ok o.desk (desk { o with timers := timers }) := by
        refine .one rouses ?_
        have taken : o.desk.timers.take? n = some (s, timers) := taken
        rw [Desk.after, taken]
        rfl
      exact roused.trans (does_requeue (works s timers taken).1 (works s timers taken).2)
    · exact .refl _

theorem does_closeTimers (closes : ok .close) : Does ok o.desk o.closeTimers.desk :=
  .one closes (desk_failAll ..)

theorem does_emptyLanes (purges : ok (.purge (fun _ => true) .shutdown)) :
    Does ok o.desk o.emptyLanes.2.desk := by
  refine .one purges ?_
  refine (desk_failAll (o := (o.withdraw fun _ => true).2) _ _).trans ?_
  rw [desk_withdraw]
  rfl

/-! ### Runs -/

theorem does_abortRun (cause : Fault) (purges : Purges ok (t.runner.map (·, cause))) :
    Does ok o.desk (o.abortRun t cause).2.desk := by
  unfold abortRun
  split
  · exact .refl _
  · next runner run =>
    split
    · exact .refl _
    · next registry _ =>
      refine .one (purges runner cause (by rw [run, Option.map_some])) ?_
      refine (desk_failAll (o := (withdraw { o with registry := registry } (·.ownedBy runner)).2) _ _).trans ?_
      rw [desk_withdraw]
      rfl

theorem does_abortAndFail (cause : Fault) (works : Works ok t.ticket)
    (purges : Purges ok (t.runner.map (·, cause))) : Does ok o.desk (o.abortAndFail t cause).desk :=
  (does_abortRun cause purges).trans (does_fail works _)

/-! ### Starts -/

theorem does_nextTask? {bulk : BulkBudget} {n : Nat} {excluded : List Domain}
    (polls : ∀ l, ok (.poll l excluded)) (h : o.nextTask? bulk n excluded = some (t, o')) :
    Does ok o.desk o'.desk := by
  obtain ⟨l, -, hl⟩ := List.exists_of_findSome?_eq_some h
  split at hl
  · exact does_poll? (polls l) hl
  · cases hl

theorem does_execute (works : Works ok t.ticket) : Does ok o.desk (o.execute t).2.desk := by
  rw [execute_eq]
  split
  · have short := does_shortage (o := o) works
    split
    · next h =>
      rw [h] at short
      exact short
    · next h =>
      rw [h] at short
      exact short
  · next permit o' acquired =>
    have taken := desk_acquire? acquired
    dsimp only
    split
    · next cause _ =>
      -- what was taken goes back, and the batch ends
      have back : (((o'.countStart t.lane).countEnd t.lane).releasePermit permit).desk = o.desk :=
        (desk_countEnd (o := o'.countStart t.lane) t.lane).trans taken
      rw [← back]
      exact does_fail works cause
    · exact .of_eq ((desk_attemptStarted t).trans taken)

/-- Work on a task leaves the lanes and the time of day as they are. -/
theorem still_of_works {n : Nat} (does : ∀ ok : Deed → Prop, Works ok n → Does ok o.desk o'.desk) :
    o'.lanes = o.lanes ∧ o'.now = o.now := by
  let ok : Deed → Prop
    | .conclude .. | .sleep .. => True
    | _ => False
  refine (does ok ⟨fun _ => trivial, fun _ _ => trivial⟩).keeps (I := fun d => d.lanes = o.lanes ∧ d.now = o.now)
    (fun d x permitted same => ?_) ⟨rfl, rfl⟩
  cases x with
  | conclude n v => exact ⟨(lanes_conclude d n v).trans same.1, (now_conclude d n v).trans same.2⟩
  | sleep s => exact same
  | _ => cases permitted

theorem still_execute (o : Office) (t : Task) : (o.execute t).2.lanes = o.lanes ∧ (o.execute t).2.now = o.now :=
  still_of_works fun _ works => does_execute works

theorem lanes_execute (o : Office) (t : Task) : (o.execute t).2.lanes = o.lanes := (still_execute o t).1

theorem now_execute (o : Office) (t : Task) : (o.execute t).2.now = o.now := (still_execute o t).2

theorem does_turn (all : ∀ n, Works ok n) (polls : ∀ l excluded, ok (.poll l excluded))
    (turn : Ticking.Turn o o') : Does ok o.desk o'.desk := by
  cases turn with
  | drop next _ => exact (does_nextTask? (polls · _) next).trans (does_fail (all _) _)
  | execute next _ => exact (does_nextTask? (polls · _) next).trans (does_execute (all _))

theorem does_serve (all : ∀ n, Works ok n) (polls : ∀ l excluded, ok (.poll l excluded))
    (bulk : BulkBudget) (n : Nat) (s : Ticking) :
    Does ok s.office.desk (Ticking.serve bulk n s).office.desk :=
  Ticking.serve_of_turn (P := fun o o' => Does ok o.desk o'.desk) (fun _ => .refl _)
    (fun _ _ _ => .trans) (fun _ _ => does_turn all polls) bulk n s

/-! ### Settlements -/

theorem does_conclusionOfAttempt (works : Works ok t.ticket) (kept : List Recipient) :
    Does ok o.desk (o.conclusionOfAttempt t kept).desk := by
  unfold conclusionOfAttempt
  split
  · exact does_fail works _
  · split
    · exact does_complete works
    · exact does_scheduleRetry works kept

theorem does_finishSettlement (works : Works ok t.ticket) (purpose : Purpose)
    (results : List RecipientResult) : Does ok o.desk (o.finishSettlement t purpose results).desk := by
  have settled : ∀ p : Office, p.desk = o.desk → (p.settle t results).desk = o.desk :=
    fun p same => (desk_settle t results).trans same
  cases purpose with
  | attempt kept =>
    have concluded := does_conclusionOfAttempt (o := o.settle t results) works kept
    rw [settled o rfl] at concluded
    refine concluded.trans (.of_eq ?_)
    exact desk_attemptFinished (o := (o.settle t results).conclusionOfAttempt t kept) t
  | expiry =>
    let count (m : Metrics) (r : RecipientResult) := m.recipientFailed t.domain.name r.code
    rw [← settled { o with metrics := results.foldl count o.metrics } rfl]
    exact does_complete works
  | unroutable =>
    rw [← settled o rfl]
    exact does_complete works

theorem does_beginSettlement (works : Works ok t.ticket) (n : Nat) (purpose : Purpose)
    (results : List RecipientResult) : Does ok o.desk (o.beginSettlement n t purpose results).desk := by
  unfold beginSettlement
  split
  · exact does_finishSettlement works purpose results
  · exact .of_eq rfl

theorem does_recordAccepted (n : Nat) (works : ∀ s, o.settlement? n = some s → Works ok s.task.ticket) :
    Does ok o.desk (o.recordAccepted n).desk := by
  have recorded := o.records n
  generalize o.recordAccepted n = p at recorded ⊢
  cases recorded with
  | idle none left => exact .refl _
  | more s r r' left found next => exact .of_eq rfl
  | last s r found next =>
    exact does_finishSettlement (o := o.removeSettlement n) (works s found) _ _

theorem does_recordRefused (n : Nat) (message : String)
    (works : ∀ s, o.settlement? n = some s → Works ok s.task.ticket)
    (purges : Purges ok ((o.settlement? n).bind (endedByRefusal · message))) :
    Does ok o.desk (o.recordRefused n message).desk := by
  unfold recordRefused
  split
  · exact .refl _
  · next s found =>
    rw [found, Option.bind_some, endedByRefusal] at purges
    have ended := does_abortAndFail (o := o.removeSettlement n) (.persistence message) (works s found) purges
    dsimp only
    split
    · exact ended.trans (.of_eq (desk_attemptFinished s.task))
    · exact ended

/-! ### The ends of attempts and of waits -/

theorem does_failAttempt (cause : Fault) (works : Works ok t.ticket)
    (purges : Purges ok (endedByFault t cause)) : Does ok o.desk (o.failAttempt t cause).desk := by
  unfold failAttempt
  unfold endedByFault at purges
  split
  · next persistence =>
    rw [if_pos persistence] at purges
    exact does_abortAndFail cause works purges
  · split
    · exact does_fail works _
    · split
      · exact does_scheduleRetry works _
      · exact does_fail works _

/-- Where the report of an attempt is taken, its batch is let go of only if what follows is lost. -/
theorem does_collect (n : Nat) (works : ∀ a, o.attempt? n = some a → Works ok a.task.ticket)
    (drops : ∀ a outcome, o.attempt? n = some a → a.report = some (.ok outcome) → o.loses a outcome →
      ok (.drop a.task.ticket))
    (purges : Purges ok ((o.attempt? n).bind endedByReport)) : Does ok o.desk (o.collect n).desk := by
  have collected := o.collects n
  generalize o.collect n = p at collected ⊢
  cases collected with
  | idle unreported => exact .refl _
  | failed a cause found reported =>
    rw [found, Option.bind_some, endedByReport, reported] at purges
    have failed := does_failAttempt (o := (o.close a).releasePermit a.permit) cause (works a found) purges
    rw [show ((o.close a).releasePermit a.permit).desk = o.desk from desk_close a] at failed
    exact failed.trans (.of_eq (desk_attemptFinished a.task))
  | lost a outcome found reported lost pool =>
    refine .one (drops a outcome found reported lost) ((desk_drop a.task).trans ?_)
    exact congrArg (Desk.resolve · _ _) (desk_close a)
  | settled a outcome found reported kept =>
    have begun := does_beginSettlement (o := (o.close a).answer a outcome) (works a found) a.number
      (o.settlementOf a outcome).purpose (o.settlementOf a outcome).left
    rw [show ((o.close a).answer a outcome).desk = o.desk from desk_close a] at begun
    exact begun

theorem does_beginExpiry (n : Nat)
    (works : ∀ e, o.expiries.find? (·.number = n) = some e → Works ok e.task.ticket) :
    Does ok o.desk (o.beginExpiry n).desk := by
  unfold beginExpiry
  split
  · exact .refl _
  · next e found =>
    exact does_beginSettlement (o := { o with expiries := o.expiries.filter (·.number ≠ n) })
      (works e found) n .expiry _

theorem does_abandon {numbers : List Nat} (drops : ∀ t ∈ o.tasksOf numbers, ok (.drop t.ticket)) :
    Does ok o.desk (o.abandon numbers).desk :=
  does_dropAll (o.tasksOf numbers) drops

/-! ### Submission -/

theorem does_submit (s : Submission) (works : Works ok o.ledger.accounts.length)
    (offers : Offers ok o.ledger.accounts.length) (enters : ok .enter) :
    Does ok o.desk (o.submit s).2.desk := by
  rcases submit_cases o s with ⟨answer, same, -⟩ | ⟨-, a, -, taken⟩
  · rw [same]
    exact .refl _
  · rw [taken]
    have entered : Does ok o.desk (o.enter s).2.desk := by
      refine .one enters ?_
      show Desk.mk o.now o.lanes o.timers o.daily ((o.ledger.accounts ++ [_]).map Account.verdict) = _
      rw [List.map_append]
      rfl
    refine entered.trans ?_
    dsimp only
    split
    · exact does_beginSettlement (o := { (o.enter s).2 with nextNumber := (o.enter s).2.nextNumber + 1 })
        (t := (o.enter s).1) works _ .unroutable _
    · exact does_offer (o := (o.enter s).2) (t := (o.enter s).1) offers

end Office

end Postroom
