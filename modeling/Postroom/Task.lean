import Postroom.Batch

/-!
# Tasks

A task is one queued unit of work: a batch, or what is left of it after some retries. All tasks of one
batch carry the same ticket, under which the ledger keeps how the batch stands.

* `Task.first`: the task of a submitted batch. `Task.retry`: the task of the next retry.
-/

namespace Postroom

/-- A unit of work. -/
structure Task where
  /-- The ledger's number for the batch. -/
  ticket : Nat
  batch : Batch
  id : BatchId
  lane : Lane
  /-- How often the batch was retried. -/
  retries : Nat
  recipients : List Recipient
  /-- When the task was last put into its lane, on the wall clock. -/
  enqueuedAt : Int := 0
  deriving DecidableEq

namespace Task

def domain (t : Task) : Domain := t.batch.domain

def traffic (t : Task) : TrafficClass := t.batch.traffic

def runner (t : Task) : Option Runner := t.batch.runner

def runnerId (t : Task) : Option RunnerId := t.batch.runner.map (·.id)

/-- The task of a batch that was just submitted. -/
def first (ticket : Nat) (b : Batch) (addresses : List String) : Task where
  ticket := ticket
  batch := b
  id := b.root
  lane := b.traffic.freshLane
  retries := 0
  recipients := addresses.map fun a => { address := a }

/-- The task of the next retry, for `recipients`. -/
def retry (t : Task) (recipients : List Recipient) : Task where
  ticket := t.ticket
  batch := t.batch
  id := t.batch.root.retry (t.retries + 1)
  lane := t.batch.traffic.retryLane
  retries := t.retries + 1
  recipients := recipients

/-- Whether the task belongs to the run `runner`. -/
def ownedBy (t : Task) (runner : Runner) : Bool := t.runner = some runner

/-- Whether the task belongs to a run of the job `id`. -/
def ownedByJob (t : Task) (id : RunnerId) : Bool := t.runnerId = some id

end Task

end Postroom
