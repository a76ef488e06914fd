import Postroom.Rehearsal.State

/-!
# Running

The jobs of a rehearsal: sends, the taking of their reports, the recording of results, and other work.
Each job runs as far as it can; one that has to wait is parked or delayed.

* `Rehearsal.recordAll`: the results of a settlement, one by one.
* `Rehearsal.beginSend`, `Rehearsal.goOn`, `Rehearsal.performSend`: a send, from its start.
* `Rehearsal.settle`: jobs in their order, and what follows from them.
-/

namespace Postroom

/-- Something that can go on. -/
inductive Job where
  /-- A send begins; its report is taken right after, if there is one by then. -/
  | launch (number : Nat)
  /-- The delay of a send is over. -/
  | afterDelay (number : Nat)
  /-- A send that waited is let go on. -/
  | afterHold (number : Nat)
  | expiry (number : Nat)
  /-- A piece of other work is let go on. -/
  | work (name : String) (number : Nat)

/-- What a sink answers. -/
inductive SinkAnswer where
  | accepted
  | refused (message : String)
  /-- It does not answer. -/
  | silent

namespace Rehearsal

variable (b : Rehearsal)

/-! ## Recording -/

/-- Ask the sink of a task to keep a result. -/
def askSink (t : Task) (r : RecipientResult) : SinkAnswer × Rehearsal :=
  match t.batch.sink with
  | none => (.accepted, b)
  | some name =>
    let sink := (b.sinks.find? name).getD {}
    let sink := { sink with records := sink.records + 1 }
    let b := { b.note (.record name t r) with sinks := b.sinks.insert name sink }
    if sink.stalls then (.silent, b)
    else if sink.accepts.any (· < sink.records) then (.refused sink.message, b)
    else (.accepted, b)

/-- Record results of a settlement one by one, until the sink refuses one or is silent. -/
def recordAll (number : Nat) (t : Task) : List RecipientResult → Rehearsal → Rehearsal
  | [], b => b
  | r :: rest, b =>
    match b.askSink t r with
    | (.accepted, b) => recordAll number t rest (b.withOffice (·.recordAccepted number))
    | (.refused message, b) => b.withOffice (·.recordRefused number message)
    | (.silent, b) => b

/-- Record the results of a settlement, if it has any left. -/
def recordSettlement (number : Nat) : Rehearsal :=
  match b.office.settlement? number with
  | some s => recordAll number s.task s.left b
  | none => b

/-- Take the report of an attempt, if there is one, and record its results. -/
def collect (number : Nat) : Rehearsal :=
  (b.withOffice (·.collect number)).recordSettlement number

/-! ## Sends -/

/-- Note the steps of a session to `domain`, and count its failures. -/
def noteActs (domain : Domain) (acts : List Act) : Rehearsal :=
  acts.foldl (fun b a =>
    match a with
    | .failed code => b.withOffice fun o =>
        { o with metrics := o.metrics.sessionFailed domain.name code }
    | a => b.note (.act a)) b

/-- Run the session of an attempt. -/
def runSession (a : Attempt) : Rehearsal :=
  let s := Session.run Script.peer b.office.config.recipients (Office.requestOf a)
    { script := b.script }
  let b := noteActs { b with script := s.peer.script } a.task.domain s.acts
  b.withOffice (·.sendEnded a.number (.ok s.outcome))

/-- A send that waits for nothing more. -/
def performSend (a : Attempt) : Rehearsal :=
  let id := a.task.id.text
  if b.plain then b.runSession a
  else if b.script.panics.contains id then
    b.withOffice (·.sendEnded a.number (.error Fault.workerLost))
  else
    let (fault, sendFaults) := b.script.sendFaults.next id
    let b := { b with script := { b.script with sendFaults := sendFaults } }
    match fault with
    | some cause => b.withOffice (·.sendEnded a.number (.error cause))
    | none => b.runSession a

/-- Use up a pass under a name, if there is one. -/
def takePass? (name : String) : Option Rehearsal :=
  match b.passes.find? name with
  | some (n + 1) => some { b with passes := b.passes.insert name n }
  | _ => none

/-- A send after its delay, which may have to wait until it is let go on. -/
def goOn (a : Attempt) : Rehearsal :=
  let id := a.task.id.text
  if !b.plain && b.script.isHeld id then
    match b.takePass? id with
    | some b => b.performSend a
    | none => { b with parked := b.parked ++ [(id, .send a.number)] }
  else b.performSend a

/-- A send begins. -/
def beginSend (a : Attempt) : Rehearsal :=
  if b.plain then b.goOn a
  else
    let b := b.note (.sent a.task.id a.permit.lease.address)
    let delay := (b.script.delays.find? a.task.id.text).getD 0
    if delay = 0 then b.goOn a
    else { b with delayed := b.delayed ++ [⟨b.office.clock.uptime + delay, a.number⟩] }

/-- Do something with the send of an attempt that is still there. -/
def withSend (number : Nat) (f : Rehearsal → Attempt → Rehearsal) : Rehearsal :=
  match b.office.attempt? number with
  | some a => f b a
  | none => b

/-! ## Other work -/

/-- Whether the piece of work with a number is the last one that was given under its name. -/
def isLatest (name : String) (number : Nat) : Bool :=
  match b.works.find? name with
  | some (.running n) => n = number
  | _ => false

/-- A piece of other work is done; its output is the length of its name. -/
def finishWork (name : String) (number : Nat) : Rehearsal :=
  { (b.note (.worked name)).withOffice fun o => { o with workers := o.workers.finish number } with
    works :=
      if b.isLatest name number then b.works.insert name (.done name.utf8ByteSize) else b.works }

/-- Give a piece of other work to a worker; it waits until it is let go on. -/
def giveWork (name : String) : Except Fault Unit × Rehearsal :=
  let number := b.office.nextNumber
  match b.office.workers.start number with
  | .error cause => (.error cause, b)
  | .ok workers =>
    let b := { b with
      office := { b.office with workers := workers, nextNumber := number + 1 }
      works := b.works.insert name (.running number) }
    match b.takePass? name with
    | some b => (.ok (), b.finishWork name number)
    | none => (.ok (), { b with parked := b.parked ++ [(name, .work name number)] })

/-! ## Jobs -/

/-- One job as far as it goes, and the attempt whose report is to be taken later. -/
def perform : Job → Rehearsal × Option Nat
  | .launch n => ((b.withSend n beginSend).collect n, none)
  | .afterDelay n => (b.withSend n goOn, some n)
  | .afterHold n => (b.withSend n performSend, some n)
  | .expiry n => ((b.withOffice (·.beginExpiry n)).recordSettlement n, none)
  | .work name number => (b.finishWork name number, none)

/-- Wake the sleepers whose time has come. -/
def wakeDue : Rehearsal :=
  (b.office.timers.dueBy b.office.clock.uptime).foldl
    (fun b s => b.withOffice (·.wake s.number)) b

/-- Jobs in their order, then the reports that they left, then the sleepers whose time has come. -/
def settle (jobs : List Job) : Rehearsal :=
  let (b, reports) := jobs.foldl (fun (b, reports) job =>
    let (b, report) := perform b job
    (b, reports ++ report.toList)) (b, [])
  (reports.foldl collect b).wakeDue

/-- What a tick set going. -/
def jobOf : Launch → Job
  | .attempt n => .launch n
  | .expiry n => .expiry n

/-- One tick. -/
def cycle : TickReport × Rehearsal :=
  let s := b.office.tick
  (s.report, settle { b with office := s.office } (s.launched.map jobOf))

/-- Let one parked send or piece of work go on, or the next one that comes. -/
def release (name : String) : Rehearsal :=
  match b.parked.find? (·.1 = name) with
  | none => { b with passes := b.passes.modify name 0 (· + 1) }
  | some (_, p) =>
    let b := { b with parked := b.parked.eraseP (·.1 = name) }
    match p with
    | .send n => b.settle [.afterHold n]
    | .work w number => b.settle [.work w number]

end Rehearsal

end Postroom
