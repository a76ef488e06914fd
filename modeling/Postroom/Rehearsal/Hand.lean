import Postroom.Rehearsal.Running

/-!
# Tasks in hand

Whoever directs a rehearsal hands over submissions and can keep tasks and permits in hand, each under
a name: tasks that were made beforehand, or taken out of the lanes.

* `Rehearsal.submit`, `Rehearsal.bring`: a batch enters the office, or its task comes into hand.
* `Rehearsal.hold`, `Rehearsal.holdAll`, `Rehearsal.take?`: keep tasks in hand, use one up.
* `Rehearsal.register`, `Rehearsal.withdraw`, `Rehearsal.poll?`: what comes out of the office is kept.
* `Rehearsal.execute`, `Rehearsal.expire`, `Rehearsal.shortage`: what is done with a task in hand.
-/

namespace Postroom.Rehearsal

variable (b : Rehearsal)

/-! ## Keeping -/

/-- Keep a task under a name. One that was kept there is let go of. -/
def hold (name : String) (t : Task) : Rehearsal :=
  let b := match b.held.find? name with
    | some former => b.withOffice (·.drop former)
    | none => b
  { b with held := b.held.insert name t }

/-- Keep tasks under their own names. -/
def holdAll (ts : List Task) : Rehearsal := ts.foldl (fun b t => b.hold t.id.text t) b

/-- Use up the task kept under a name. -/
def take? (name : String) : Option (Task × Rehearsal) :=
  (b.held.find? name).map fun t => (t, { b with held := b.held.erase name })

/-- Keep a permit under a name. One that was kept there is forgotten, and stays taken. -/
def holdPermit (name : String) (p : Permit) : Rehearsal :=
  { b with permits := b.permits.insert name p }

/-- Give back the permit kept under a name; whether there was one. -/
def releasePermit (name : String) : Bool × Rehearsal :=
  match b.permits.find? name with
  | none => (false, b)
  | some p => (true, { b.withOffice (·.releasePermit p) with permits := b.permits.erase name })

/-! ## Coming in -/

/-- Remember a handle under a name. -/
def remember (name : String) (h : Handle) : Rehearsal :=
  { b with handles := b.handles ++ [{ name := name, handle := h }] }

/-- Hand over a submission. Its handle has a name of its own, or that of the batch. -/
def submit (s : Submission) (name : Option String) : Except Fault BatchId × Rehearsal :=
  match b.office.submit s with
  | (.error cause, o) => (.error cause, { b with office := o })
  | (.ok a, o) =>
    let b := { b with office := o }.remember (name.getD a.id.text) a.handle
    (.ok a.id, match a.settlement with
      | some number => b.recordSettlement number
      | none => b)

/-- The task of a batch that was retried so many times, all its recipients each time. -/
def retriedTimes (t : Task) (n : Nat) : Task :=
  if n = 0 then t
  else
    { t with
      id := t.batch.root.retry n
      lane := t.traffic.retryLane
      retries := n
      recipients := t.recipients.map fun r => { r with retries := n } }

/-- The task of a submission, retried so many times, comes into hand. It and its handle have a name of
their own, or that of the task. -/
def bring (s : Submission) (retries : Nat) (name : Option String) : Rehearsal :=
  let (t, o) := b.office.enter s
  let t := retriedTimes t retries
  let name := name.getD t.id.text
  ({ b with office := o }.remember name (.ticket t.ticket)).hold name t

/-! ## Coming out -/

/-- Keep the tasks that came out of the office, in their listed order. -/
def keepOut (p : List Task × Office) : List Task × Rehearsal :=
  let listed := Lanes.listed p.1
  (listed, { b with office := p.2 }.holdAll listed)

/-- Register a run; the queued tasks of the job's other runs are kept. -/
def register (runner : Runner) : List Task × Rehearsal := b.keepOut (b.office.register runner)

/-- Take out and keep every queued task that satisfies `p`. -/
def withdraw (p : Task → Bool) : List Task × Rehearsal := b.keepOut (b.office.withdraw p)

/-- Keep the task that was taken out of a lane. -/
def keepPolled : Option (Task × Office) → Option (Task × Rehearsal)
  | none => none
  | some (t, o) => some (t, { b with office := o }.hold t.id.text t)

/-- Take out and keep the next task of a lane. -/
def poll? (l : Lane) (excluded : List Domain) : Option (Task × Rehearsal) :=
  b.keepPolled (b.office.poll? l excluded)

/-- Take out and keep the next task of the first lane that has one. -/
def pollAny? (excluded : List Domain) : Option (Task × Rehearsal) :=
  b.keepPolled (b.office.pollAny? excluded)

/-! ## Using up -/

/-- Start a task; whether it got a permit, or why no worker took it. -/
def execute (t : Task) : Except Fault Bool × Rehearsal :=
  match b.office.execute t with
  | (.started number, o) => (.ok true, settle { b with office := o } [.launch number])
  | (.deferred (some number), o) => (.ok false, settle { b with office := o } [.expiry number])
  | (.deferred none, o) => (.ok false, { b with office := o })
  | (.refused cause, o) => (.error cause, { b with office := o })

/-- A task met a shortage; where its wait ran out for good, it is kept. -/
def shortage (t : Task) : Office.Shortage × Rehearsal :=
  let (s, o) := b.office.shortage t
  let b := { b with office := o }
  match s with
  | .expired t => (s, b.hold t.id.text t)
  | _ => (s, b)

/-- Fail every recipient of a task whose wait ran out. -/
def expire (t : Task) : Rehearsal :=
  let number := b.office.nextNumber
  (b.withOffice fun o => Office.expire { o with nextNumber := number + 1 } number t).recordSettlement
    number

/-- Try to get all that a task needs, and keep it under a name. -/
def acquire? (t : Task) (permit : String) : Option (Permit × Rehearsal) :=
  match b.office.tryAcquire t with
  | (none, _) => none
  | (some p, o) => some (p, { b with office := o }.holdPermit permit p)

/-! ## Other work -/

/-- What the asking for an output comes to. -/
inductive Output where
  | ready (n : Nat)
  /-- The work is under way. -/
  | notYet
  /-- The work was let go of, or its output asked for before. -/
  | closed

/-- Ask for the output of the work given under a name; none where none was given. -/
def output? (name : String) : Option (Output × Rehearsal) :=
  (b.works.find? name).map fun
    | .running _ => (.notYet, b)
    | .done n => (.ready n, { b with works := b.works.insert name .gone })
    | .gone => (.closed, b)

end Postroom.Rehearsal
