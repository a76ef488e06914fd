import Postroom.Office.Waiting

/-!
# Attempts

How a task is started on a worker, and what follows when its send has ended: the permit goes back, the
address learns how it was answered, final results are recorded one by one, and what is left is retried
or the batch ends.

* `Office.execute`: start a task, or deal with its shortage.
* `Office.sendEnded`, `Office.collect`: the worker reports, and the report is taken.
* `Office.recordAccepted`, `Office.recordRefused`: the sink answers for one result.
* `Office.beginExpiry`: a wait that ran out becomes failed results.
* `Office.abandon`: waiters are let go of, where they do not end in time.
-/

namespace Postroom.Office

variable (o : Office)

/-- One attempt more in flight in a lane. -/
def countStart (l : Lane) : Office :=
  { o with
    inFlight := o.inFlight.modify l (· + 1)
    metrics := o.metrics.attemptStarted }

/-- One attempt less in flight in a lane, if there is one. -/
def countEnd (l : Lane) : Office :=
  if o.inFlight.get l = 0 then o
  else
    { o with
      inFlight := o.inFlight.modify l (· - 1)
      metrics := o.metrics.attemptFinished }

/-- A running attempt of a job more. -/
def attemptStarted (t : Task) : Office :=
  match t.runnerId with
  | some id => { o with registry := o.registry.attemptStarted id }
  | none => o

/-- A running attempt of a job less. -/
def attemptFinished (t : Task) : Office :=
  match t.runnerId with
  | some id => { o with registry := o.registry.attemptFinished id }
  | none => o

/-! ## Start -/

/-- What came of starting a task. -/
inductive Execution where
  /-- The attempt with this number runs. -/
  | started (number : Nat)
  /-- It got no permit; the number of its expiry, if it waited for too long. -/
  | deferred (expiry : Option Nat)
  /-- No worker took it, and its batch has ended with this fault. -/
  | refused (cause : Fault)

/-- Start `t` on a worker, if it gets a permit. -/
def execute (t : Task) : Execution × Office :=
  match o.tryAcquire t with
  | (none, o) =>
    match o.shortage t with
    | (.expired t, o) =>
      (.deferred (some o.nextNumber),
        { o with
          workers := o.workers.await o.isWaiting o.nextNumber
          expiries := o.expiries ++ [⟨o.nextNumber, t⟩]
          nextNumber := o.nextNumber + 1 })
    | (_, o) => (.deferred none, o)
  | (some permit, o) =>
    let o := o.countStart t.lane
    match o.workers.start o.nextNumber with
    | .error cause => (.refused cause, ((o.countEnd t.lane).releasePermit permit).fail t cause)
    | .ok workers =>
      (.started o.nextNumber,
        attemptStarted
          { o with
            workers := workers.await o.isWaiting o.nextNumber
            attempts := o.attempts ++ [{ number := o.nextNumber, task := t, permit := permit }]
            nextNumber := o.nextNumber + 1 }
          t)

/-- A task that gets no permit finds the office as it was. -/
theorem execute_eq (t : Task) : o.execute t =
    match o.acquire? t with
    | none =>
      match o.shortage t with
      | (.expired t, o) =>
        (.deferred (some o.nextNumber),
          { o with
            workers := o.workers.await o.isWaiting o.nextNumber
            expiries := o.expiries ++ [⟨o.nextNumber, t⟩]
            nextNumber := o.nextNumber + 1 })
      | (_, o) => (.deferred none, o)
    | some (permit, o) =>
      let o := o.countStart t.lane
      match o.workers.start o.nextNumber with
      | .error cause => (.refused cause, ((o.countEnd t.lane).releasePermit permit).fail t cause)
      | .ok workers =>
        (.started o.nextNumber,
          attemptStarted
            { o with
              workers := workers.await o.isWaiting o.nextNumber
              attempts := o.attempts ++ [{ number := o.nextNumber, task := t, permit := permit }]
              nextNumber := o.nextNumber + 1 }
            t) := by
  unfold execute
  rw [tryAcquire_eq]
  cases o.acquire? t <;> rfl

/-- What the worker of an attempt is to send. -/
def requestOf (a : Attempt) : Request :=
  ⟨a.task.domain, a.permit.lease.address, a.task.recipients, a.task.batch.message⟩

/-- The worker of a send reports and is free again. The attempt may have been let go of before. -/
def sendEnded (number : Nat) (report : Report) : Office :=
  { o with
    workers := o.workers.finish number
    attempts := o.attempts.map fun a =>
      if a.number = number && a.report.isNone then { a with report := some report } else a }

/-! ## Settlement -/

/-- The results of a batch become final. -/
def settle (t : Task) (results : List RecipientResult) : Office :=
  { o with ledger := o.ledger.settle t.ticket results }

/-- After the final results of an attempt were recorded: a batch whose run was ended meanwhile ends
with that; otherwise the recipients kept are retried, and without any the batch ends well. -/
def conclusionOfAttempt (t : Task) (kept : List Recipient) : Office :=
  match o.registry.abortCause t with
  | some cause => o.fail t cause
  | none => if kept.isEmpty then o.complete t else o.scheduleRetry t kept

/-- All results of a settlement are recorded. -/
def finishSettlement (t : Task) (purpose : Purpose) (results : List RecipientResult) : Office :=
  match purpose with
  | .attempt kept => ((o.settle t results).conclusionOfAttempt t kept).attemptFinished t
  | .expiry =>
    let count (m : Metrics) (r : RecipientResult) := m.recipientFailed t.domain.name r.code
    ({ o with metrics := results.foldl count o.metrics }.settle t results).complete t
  | .unroutable => (o.settle t results).complete t

/-- Bring results to the sink of `t`. Where there is no sink or no result, all is done at once. -/
def beginSettlement (number : Nat) (t : Task) (purpose : Purpose) (results : List RecipientResult) :
    Office :=
  if t.batch.sink.isNone || results.isEmpty then o.finishSettlement t purpose results
  else { o with settlements := o.settlements ++ [⟨number, t, purpose, [], results⟩] }

/-- The settlement with a number is over. -/
def removeSettlement (number : Nat) : Office :=
  { o with settlements := o.settlements.filter (·.number ≠ number) }

/-- The sink has accepted the next result of a settlement. -/
def recordAccepted (number : Nat) : Office :=
  match o.settlement? number with
  | none => o
  | some s =>
    match s.left with
    | [] => o
    | [r] => (o.removeSettlement number).finishSettlement s.task s.purpose (s.written ++ [r])
    | r :: left =>
      { o with settlements := o.settlements.map fun s =>
          if s.number = number then { s with written := s.written ++ [r], left := left } else s }

/-- The sink has refused the next result of a settlement. Nothing of it becomes final, and the run
that owns the batch is ended. -/
def recordRefused (number : Nat) (message : String) : Office :=
  match o.settlement? number with
  | none => o
  | some s =>
    let o := (o.removeSettlement number).abortAndFail s.task (.persistence message)
    match s.purpose with
    | .attempt _ => o.attemptFinished s.task
    | _ => o

/-! ## The end of an attempt -/

/-- The send failed as a whole. -/
def failAttempt (t : Task) (cause : Fault) : Office :=
  if cause.isPersistence then o.abortAndFail t cause
  else match o.registry.abortCause t with
    | some ended => o.fail t ended
    | none =>
      if cause.isRetryable && o.config.retry.hasBudget t.retries then
        o.scheduleRetry t t.recipients
      else o.fail t cause

/-- Statistics and metrics of an attempt that was answered. -/
def countOutcome (t : Task) (outcome : Outcome) : Office :=
  let failures := outcome.recipients.filter (!·.isDelivered)
  let sample : Sample := ⟨o.now, outcome.delivered, failures.length, 0⟩
  let count (m : Metrics) (r : RecipientOutcome) := m.recipientFailed t.domain.name r.code
  { o with
    window := o.window.record t.domain sample
    metrics := failures.foldl count (o.metrics.delivered t.domain.name outcome.delivered) }

/-- An attempt was answered with `outcome`. Where the address would have to cool down beyond the end
of the calendar, the rest is lost: the permit stays taken and the batch is let go of. -/
def settleOutcome (a : Attempt) (outcome : Outcome) : Office :=
  let (cooldown, pool) := o.pool.record o.now a.permit.lease outcome.statusCode outcome.anySuccess
  let o := { o with pool := pool }
  match cooldown with
  | .unrepresentable => o.drop a.task
  | _ =>
    let canRetry := o.config.retry.hasBudget a.task.retries
    ((o.releasePermit a.permit).countOutcome a.task outcome).beginSettlement a.number a.task
      (.attempt (outcome.kept canRetry)) (outcome.terminal canRetry)

/-- The report of an attempt is taken. -/
def collect (number : Nat) : Office :=
  match o.attempt? number with
  | none => o
  | some a =>
    match a.report with
    | none => o
    | some report =>
      let o := { o with attempts := o.attempts.filter (·.number ≠ number) }.countEnd a.task.lane
      match report with
      | .error cause =>
        (((o.releasePermit a.permit).failAttempt a.task cause).attemptFinished a.task)
      | .ok outcome => o.settleOutcome a outcome

/-! ## Waits that ran out -/

/-- The text for recipients that never got resources. -/
def expiryMessage (c : WaitConfig) : String :=
  "No sending resources became available within " ++ toString c.timeout ++ "ms"

/-- Every recipient of a task whose wait ran out. -/
def expiryResults (c : WaitConfig) (t : Task) : List RecipientResult :=
  t.recipients.map fun r => .failed r c.timeoutCode (expiryMessage c)

/-- Fail every recipient of a task whose wait ran out. -/
def expire (number : Nat) (t : Task) : Office :=
  o.beginSettlement number t .expiry (expiryResults o.config.wait t)

/-- An expiry is taken up. -/
def beginExpiry (number : Nat) : Office :=
  match o.expiries.find? (·.number = number) with
  | none => o
  | some e => expire { o with expiries := o.expiries.filter (·.number ≠ number) } number e.task

/-! ## Giving up -/

/-- The tasks of the waiters with these numbers. -/
def tasksOf (numbers : List Nat) : List Task :=
  (o.attempts.filter (·.number ∈ numbers)).map (·.task) ++
    (o.expiries.filter (·.number ∈ numbers)).map (·.task) ++
    (o.settlements.filter fun s => s.number ∈ numbers && isBackground s).map (·.task)

/-- Let go of the waiters with these numbers. What they hold and are counted for stays so, and a send goes on. -/
def abandon (numbers : List Nat) : Office :=
  let o := (o.tasksOf numbers).foldl drop o
  { o with
    attempts := o.attempts.filter (·.number ∉ numbers)
    expiries := o.expiries.filter (·.number ∉ numbers)
    settlements := o.settlements.filter fun s => !(s.number ∈ numbers && isBackground s) }

end Postroom.Office
