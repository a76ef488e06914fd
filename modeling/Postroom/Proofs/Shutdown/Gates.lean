import Postroom.Proofs.Executions
import Postroom.Proofs.Settlements.Steps

/-!
# The gates of an office

An office has two gates: whether it takes submissions, and whether its workers start anything. Only submissions
and ticks look at them. All else does the same whether they are open or not, and leaves them as they are; so what
runs when they close goes on as usual, and once they are closed they stay so.

- `Office.gated`: an office with its gates set.
- `Happening.usesGates`: the happenings that look at a gate or close one.
- `World.after_gated`: all others do the same whatever the gates are.
- `World.Shut`, `World.Shut.run`: both gates are closed, and stay so.
- `World.Shut.started`: then no attempt starts.
-/

namespace Postroom

namespace Office

variable {o : Office} {t : Task} {a c : Bool}

/-- An office with its gates set: whether it takes submissions, and whether its workers start nothing. -/
def gated (o : Office) (accepting closed : Bool) : Office :=
  { o with accepting := accepting, workers := { o.workers with closed := closed } }

/-! ### How batches end -/

theorem gated_conclude (t : Task) (v : Verdict) :
    (o.gated a c).conclude t v = (o.conclude t v).gated a c := by
  unfold conclude
  dsimp only
  split
  · next isOpen =>
    rw [if_pos (show o.ledger.isOpen t.ticket from isOpen)]
    rfl
  · next ended =>
    rw [if_neg (show ¬ o.ledger.isOpen t.ticket from ended)]
    rfl

theorem gated_fail (t : Task) (cause : Fault) : (o.gated a c).fail t cause = (o.fail t cause).gated a c :=
  gated_conclude t _

theorem gated_complete (t : Task) : (o.gated a c).complete t = (o.complete t).gated a c := gated_conclude t _

theorem gated_failAll (ts : List Task) (cause : Fault) :
    (o.gated a c).failAll ts cause = (o.failAll ts cause).gated a c := by
  induction ts generalizing o with
  | nil => rfl
  | cons t ts ih =>
    refine Eq.trans ?_ (ih (o := o.fail t cause))
    rw [← gated_fail]
    rfl

theorem gated_dropAll (ts : List Task) : ts.foldl drop (o.gated a c) = (ts.foldl drop o).gated a c := by
  induction ts generalizing o with
  | nil => rfl
  | cons t ts ih => exact ih (o := o.drop t)

/-! ### Lanes and timers -/

theorem gated_publishDepths (ls : List Lane) :
    ls.foldl publishDepth (o.gated a c) = (ls.foldl publishDepth o).gated a c := by
  induction ls generalizing o with
  | nil => rfl
  | cons l ls ih => exact ih (o := o.publishDepth l)

theorem gated_withdraw (p : Task → Bool) :
    (o.gated a c).withdraw p = ((o.withdraw p).1, (o.withdraw p).2.gated a c) :=
  Prod.ext rfl (gated_publishDepths (o := { o with lanes := (o.lanes.withdraw p).2 }) _)

theorem gated_requeue (t : Task) : (o.gated a c).requeue t = (o.requeue t).gated a c := by
  have same : (o.gated a c).registry.validate t = o.registry.validate t := rfl
  unfold requeue
  rw [same]
  cases o.registry.validate t with
  | ok => rfl
  | error rejection => exact gated_fail t _

theorem gated_sleep (delay : Nat) (t : Task) : (o.gated a c).sleep delay t = (o.sleep delay t).gated a c := by
  have same : (o.gated a c).timers.closed = o.timers.closed := rfl
  unfold sleep
  rw [same]
  cases o.timers.closed with
  | true => exact gated_fail t _
  | false => rfl

theorem gated_wake (n : Nat) : (o.gated a c).wake n = (o.wake n).gated a c := by
  have same : (o.gated a c).timers.take? n = o.timers.take? n := rfl
  unfold wake
  rw [same]
  rcases o.timers.take? n with _ | ⟨s, timers⟩
  · rfl
  · by_cases due : s.due ≤ o.clock.uptime
    · have woken := gated_requeue (o := { o with timers := timers }) (a := a) (c := c) s.task
      exact (if_pos due).trans (woken.trans (congrArg (gated · a c) (if_pos due).symm))
    · exact (if_neg due).trans (congrArg (gated · a c) (if_neg due).symm)

theorem gated_scheduleRetry (t : Task) (kept : List Recipient) :
    (o.gated a c).scheduleRetry t kept = (o.scheduleRetry t kept).gated a c := by
  let retry := t.retry (kept.map fun r => { r with retries := r.retries + 1 })
  exact gated_sleep (t := retry)
    (o := { o with waits := o.waits.clear t.id, metrics := o.metrics.retryScheduled retry.lane }) _

theorem gated_closeTimers : (o.gated a c).closeTimers = o.closeTimers.gated a c :=
  gated_failAll (o := { o with timers := o.timers.close.2 }) _ _

theorem gated_emptyLanes : (o.gated a c).emptyLanes.2 = o.emptyLanes.2.gated a c := by
  unfold emptyLanes
  rw [gated_withdraw]
  exact gated_failAll _ _

/-! ### Runs -/

theorem gated_abortRun (t : Task) (cause : Fault) :
    ((o.gated a c).abortRun t cause).2 = (o.abortRun t cause).2.gated a c := by
  have same : (o.gated a c).registry = o.registry := rfl
  unfold abortRun
  cases t.runner with
  | none => rfl
  | some runner =>
    rw [same]
    dsimp only
    cases o.registry.abort? runner cause with
    | none => rfl
    | some registry =>
      have withdrawn := gated_withdraw (o := { o with registry := registry }) (a := a) (c := c) (·.ownedBy runner)
      have same : withdraw { o.gated a c with registry := registry } (·.ownedBy runner) = _ := withdrawn
      dsimp only
      rw [same]
      dsimp only
      rw [gated_failAll]
      rfl

theorem gated_abortAndFail (t : Task) (cause : Fault) :
    (o.gated a c).abortAndFail t cause = (o.abortAndFail t cause).gated a c := by
  unfold abortAndFail
  rw [gated_abortRun, gated_fail]

theorem gated_attemptFinished (t : Task) :
    (o.gated a c).attemptFinished t = (o.attemptFinished t).gated a c := by
  unfold attemptFinished
  split <;> rfl

/-! ### Settlements -/

theorem gated_conclusionOfAttempt (t : Task) (kept : List Recipient) :
    (o.gated a c).conclusionOfAttempt t kept = (o.conclusionOfAttempt t kept).gated a c := by
  have same : (o.gated a c).registry.abortCause t = o.registry.abortCause t := rfl
  unfold conclusionOfAttempt
  rw [same]
  cases o.registry.abortCause t with
  | some cause => exact gated_fail t _
  | none =>
    cases kept.isEmpty with
    | true => exact gated_complete t
    | false => exact gated_scheduleRetry t kept

theorem gated_finishSettlement (t : Task) (purpose : Purpose) (results : List RecipientResult) :
    (o.gated a c).finishSettlement t purpose results = (o.finishSettlement t purpose results).gated a c := by
  cases purpose with
  | attempt kept =>
    show (((o.settle t results).gated a c).conclusionOfAttempt t kept).attemptFinished t = _
    rw [gated_conclusionOfAttempt, gated_attemptFinished]
    rfl
  | expiry =>
    let count (m : Metrics) (r : RecipientResult) := m.recipientFailed t.domain.name r.code
    exact gated_complete (o := settle { o with metrics := results.foldl count o.metrics } t results) t
  | unroutable => exact gated_complete (o := o.settle t results) t

theorem gated_beginSettlement (n : Nat) (t : Task) (purpose : Purpose) (results : List RecipientResult) :
    (o.gated a c).beginSettlement n t purpose results =
      (o.beginSettlement n t purpose results).gated a c := by
  unfold beginSettlement
  cases t.batch.sink.isNone || results.isEmpty with
  | true => exact gated_finishSettlement t purpose results
  | false => rfl

theorem gated_recordAccepted (n : Nat) : (o.gated a c).recordAccepted n = (o.recordAccepted n).gated a c := by
  have same : (o.gated a c).settlement? n = o.settlement? n := rfl
  unfold recordAccepted
  rw [same]
  cases o.settlement? n with
  | none => rfl
  | some s =>
    dsimp only
    rcases s.left with _ | ⟨r, _ | ⟨r', left⟩⟩
    · rfl
    · exact gated_finishSettlement (o := o.removeSettlement n) _ _ _
    · rfl

theorem gated_recordRefused (n : Nat) (message : String) :
    (o.gated a c).recordRefused n message = (o.recordRefused n message).gated a c := by
  have same : (o.gated a c).settlement? n = o.settlement? n := rfl
  unfold recordRefused
  rw [same]
  cases o.settlement? n with
  | none => rfl
  | some s =>
    have ended := gated_abortAndFail (o := o.removeSettlement n) (a := a) (c := c) s.task (.persistence message)
    have same : ((o.gated a c).removeSettlement n).abortAndFail s.task (.persistence message) = _ := ended
    dsimp only
    rw [same]
    cases s.purpose with
    | attempt kept => exact gated_attemptFinished s.task
    | expiry | unroutable => rfl

/-! ### The ends of attempts -/

theorem gated_failAttempt (t : Task) (cause : Fault) :
    (o.gated a c).failAttempt t cause = (o.failAttempt t cause).gated a c := by
  have same : (o.gated a c).registry.abortCause t = o.registry.abortCause t := rfl
  unfold failAttempt
  rw [same]
  cases cause.isPersistence with
  | true => exact gated_abortAndFail t cause
  | false =>
    cases o.registry.abortCause t with
    | some ended => exact gated_fail t _
    | none =>
      have same : (o.gated a c).config = o.config := rfl
      dsimp only
      rw [same]
      cases cause.isRetryable && o.config.retry.hasBudget t.retries with
      | true => exact gated_scheduleRetry t _
      | false => exact gated_fail t _

theorem gated_close (x : Attempt) : (o.gated a c).close x = (o.close x).gated a c := by
  have same : (o.gated a c).inFlight.get x.task.lane = o.inFlight.get x.task.lane := rfl
  unfold Office.close countEnd
  dsimp only
  rw [same]
  split <;> rfl

theorem gated_settleOutcome (x : Attempt) (outcome : Outcome) :
    (o.gated a c).settleOutcome x outcome = (o.settleOutcome x outcome).gated a c := by
  have same : (o.gated a c).loses x outcome = o.loses x outcome := rfl
  rw [settleOutcome_eq, settleOutcome_eq, same]
  cases o.loses x outcome with
  | true => rfl
  | false => exact gated_beginSettlement (o := o.answer x outcome) ..

theorem gated_collect (n : Nat) : (o.gated a c).collect n = (o.collect n).gated a c := by
  have same : (o.gated a c).attempt? n = o.attempt? n := rfl
  unfold collect
  rw [same]
  rcases found : o.attempt? n with _ | x
  · rfl
  · have number : x.number = n := by simpa using List.find?_some found
    have closed := gated_close (o := o) (a := a) (c := c) x
    unfold Office.close at closed
    rw [number] at closed
    dsimp only
    rw [closed]
    rcases x.report with _ | cause | outcome
    · rfl
    · dsimp only
      rw [← gated_attemptFinished, ← gated_failAttempt]
      rfl
    · exact gated_settleOutcome x outcome

theorem gated_sendEnded (n : Nat) (report : Report) :
    (o.gated a c).sendEnded n report = (o.sendEnded n report).gated a c := by
  rfl

theorem gated_beginExpiry (n : Nat) : (o.gated a c).beginExpiry n = (o.beginExpiry n).gated a c := by
  have same : (o.gated a c).expiries = o.expiries := rfl
  unfold beginExpiry
  rw [same]
  cases o.expiries.find? (·.number = n) with
  | none => rfl
  | some e =>
    exact gated_beginSettlement (o := { o with expiries := o.expiries.filter (·.number ≠ n) }) ..

theorem gated_abandon (numbers : List Nat) : (o.gated a c).abandon numbers = (o.abandon numbers).gated a c := by
  unfold abandon
  dsimp only
  rw [show (o.gated a c).tasksOf numbers = o.tasksOf numbers from rfl, gated_dropAll]
  rfl

/-! ### What looks at the gates -/

theorem submit_of_refusing (refusing : o.accepting = false) (s : Submission) :
    o.submit s = (.error (.admission .notAccepting), o) := by
  rw [submit, refusing]
  rfl

theorem accepting_attemptStarted (t : Task) : (o.attemptStarted t).accepting = o.accepting := by
  unfold attemptStarted
  split <;> rfl

theorem accepting_execute (t : Task) : (o.execute t).2.accepting = o.accepting := by
  rw [execute_eq]
  split
  · have short := congrArg (·.accepting) (frame_shortage (o := o) t)
    split
    · next h =>
      rw [h] at short
      exact short
    · next h =>
      rw [h] at short
      exact short
  · next permit o' acquired =>
    have taken : o'.accepting = o.accepting := congrArg (·.accepting) (frame_acquire? acquired)
    dsimp only
    split
    · next cause _ =>
      have ended := congrArg (·.accepting) (frame_fail
        (o := ((o'.countStart t.lane).countEnd t.lane).releasePermit permit) t cause)
      refine Eq.trans ended (Eq.trans ?_ taken)
      show (countEnd (o'.countStart t.lane) t.lane).accepting = _
      unfold countEnd
      split <;> rfl
    · exact (accepting_attemptStarted t).trans taken

theorem accepting_turn {o' : Office} (turn : Ticking.Turn o o') : o'.accepting = o.accepting := by
  cases turn with
  | drop next _ => exact congrArg (·.accepting) ((frame_fail _ _).trans (frame_nextTask? next))
  | execute next _ => exact (accepting_execute _).trans (congrArg (·.accepting) (frame_nextTask? next))

theorem accepting_serve (bulk : BulkBudget) (n : Nat) (s : Ticking) :
    (Ticking.serve bulk n s).office.accepting = s.office.accepting :=
  Ticking.serve_of_turn (P := fun o o' => o'.accepting = o.accepting) (fun _ => rfl)
    (fun _ _ _ first second => second.trans first) (fun _ _ => accepting_turn) bulk n s

end Office

namespace Ticking

variable {s : Ticking}

theorem mayStart_of_closed (closed : s.office.workers.closed) : s.mayStart = false := by
  rw [mayStart, Workers.hasCapacity, closed]
  exact Bool.and_false _

/-- Where the workers start nothing, a tick does nothing. -/
theorem serve_of_closed (closed : s.office.workers.closed) (bulk : BulkBudget) (n : Nat) :
    serve bulk n s = s := by
  cases n with
  | zero => rfl
  | succ n => exact if_neg (by rw [mayStart_of_closed closed]; nofun)

theorem executed_of_closed (closed : s.office.workers.closed) (bulk : BulkBudget) (n : Nat) :
    executed bulk n s = [] := by
  cases n with
  | zero => rfl
  | succ n => exact if_neg (by rw [mayStart_of_closed closed]; nofun)

end Ticking

/-- The happening looks at a gate, or closes one. -/
def Happening.usesGates : Happening → Bool
  | .submit _ | .tick | .turns .. | .stopAccepting | .closeWorkers => true
  | _ => false

namespace World

open Office

variable {w : World} {h : Happening} {a c : Bool}

/-- A world with the gates of its office set. -/
def gated (w : World) (accepting closed : Bool) : World := w.withOffice (·.gated accepting closed)

theorem gated_useOutside {f : Office → Task → Office} (place : Nat)
    (same : ∀ t, f (w.office.gated a c) t = (f w.office t).gated a c) :
    (w.gated a c).useOutside place f = (w.useOutside place f).gated a c := by
  have outside : (w.gated a c).outside = w.outside := rfl
  unfold useOutside
  rw [outside]
  cases w.outside[place]? with
  | none => rfl
  | some t => exact congrArg (fun o => World.mk o (w.outside.eraseIdx place) w.entered) (same t)

/-- Whatever looks at no gate does the same whatever the gates are. -/
theorem after_gated (free : h.usesGates = false) : (w.gated a c).after h = (w.after h).gated a c := by
  have within : ∀ {o o' : Office}, o = o'.gated a c →
      ({ w with office := o } : World) = World.gated { w with office := o' } a c :=
    fun same => congrArg (fun o => World.mk o w.outside w.entered) same
  cases h with
  | submit | tick | turns | stopAccepting | closeWorkers => cases free
  | wake n => exact within (gated_wake n)
  | sendEnded n report => exact within (gated_sendEnded n report)
  | collect n => exact within (gated_collect n)
  | beginExpiry n => exact within (gated_beginExpiry n)
  | recordAccepted n => exact within (gated_recordAccepted n)
  | recordRefused n message => exact within (gated_recordRefused n message)
  | register u =>
    have withdrawn := gated_withdraw (o := { w.office with registry := w.office.registry.register u })
      (a := a) (c := c) fun t => t.ownedByJob u.id && !t.ownedBy u
    exact congrArg (fun p => World.mk p.2 (w.outside ++ p.1) w.entered) withdrawn
  | abortRun t cause => exact within (gated_abortRun t cause)
  | failOutside place cause => exact gated_useOutside (f := fun o t => o.fail t cause) place fun t => gated_fail t cause
  | dropOutside place => exact gated_useOutside place fun _ => rfl
  | closeTimers => exact within gated_closeTimers
  | emptyLanes => exact within gated_emptyLanes
  | abandon numbers => exact within (gated_abandon numbers)
  | beginTick | unregister | pass | shift | readDaily | readWindow | takeSends | takeWaiters | sessionFailed | draw =>
    rfl

theorem gated_self (w : World) : w.gated w.office.accepting w.office.workers.closed = w := rfl

/-- Submissions are refused from then on. -/
theorem refusing_after (h : Happening) (refusing : w.office.accepting = false) :
    (w.after h).office.accepting = false := by
  by_cases free : h.usesGates = false
  · have same := after_gated (w := w) (a := w.office.accepting) (c := w.office.workers.closed) free
    rw [gated_self] at same
    rw [same]
    exact refusing
  · cases h with
    | submit s =>
      rw [after, office_submit, submit_of_refusing refusing]
      exact refusing
    | tick => exact (accepting_serve ..).trans refusing
    | turns => exact (accepting_serve ..).trans refusing
    | stopAccepting => rfl
    | closeWorkers => exact refusing
    | _ => exact absurd rfl free

/-- Submissions are refused, and workers start nothing. -/
structure Shut (w : World) : Prop where
  refusing : w.office.accepting = false
  closed : w.office.workers.closed = true

namespace Shut

theorem submit (shut : w.Shut) (s : Submission) : w.after (.submit s) = w := by
  show w.submit s = w
  unfold World.submit
  rw [submit_of_refusing shut.refusing]

theorem turns (shut : w.Shut) (bulk : BulkBudget) (n : Nat) (report : TickReport) (bulkStarted : Nat)
    (excluded : List Domain) : w.after (.turns bulk n report bulkStarted excluded) = w := by
  have none := Ticking.serve_of_closed (s := ⟨w.office, report, bulkStarted, excluded, []⟩) shut.closed bulk n
  exact congrArg (fun s : Ticking => World.mk s.office w.outside w.entered) none

/-- Of a tick, nothing is left but its beginning. -/
theorem tick (shut : w.Shut) : w.after .tick = w.after .beginTick :=
  turns (w := w.after .beginTick) ⟨shut.refusing, shut.closed⟩ ..

theorem after (shut : w.Shut) (h : Happening) : (w.after h).Shut := by
  by_cases free : h.usesGates = false
  · have same := after_gated (w := w) (a := w.office.accepting) (c := w.office.workers.closed) free
    rw [gated_self] at same
    rw [same]
    exact ⟨shut.refusing, shut.closed⟩
  · cases h with
    | submit s => exact (shut.submit s).symm ▸ shut
    | tick => exact shut.tick.symm ▸ ⟨shut.refusing, shut.closed⟩
    | turns => exact (shut.turns ..).symm ▸ shut
    | stopAccepting => exact ⟨rfl, shut.closed⟩
    | closeWorkers => exact ⟨shut.refusing, rfl⟩
    | _ => exact absurd rfl free

theorem run (shut : w.Shut) (hs : List Happening) : (w.run hs).Shut :=
  run_of_step (P := fun _ _ => True) (I := World.Shut) (fun _ h _ shut => shut.after h)
    (along_of_forall (fun _ _ => trivial) w hs) shut

/-- Nothing is executed. -/
theorem executed (shut : w.Shut) (h : Happening) : w.executed h = [] := by
  cases h with
  | tick => exact Ticking.executed_of_closed shut.closed ..
  | turns => exact Ticking.executed_of_closed shut.closed ..
  | _ => rfl

/-- No attempt starts. -/
theorem started (shut : w.Shut) (h : Happening) : w.started h = [] := by
  rw [World.started, shut.executed]
  rfl

end Shut

end World

end Postroom
