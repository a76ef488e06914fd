import Postroom.Count
import Postroom.Queue.Line

/-!
# The four lanes

The queued tasks, each in the line of its own lane.

* `Lanes.offer`, `Lanes.poll?`, `Lanes.pollAny?`, `Lanes.withdraw`: the line operations by lane.
* `Lanes.byDomain`: how many tasks each domain has in all lanes together.
-/

namespace Postroom

/-- A line for each lane. -/
structure Lanes where
  lines : PerLane Line := .const .empty
  deriving DecidableEq

namespace Lanes

/-- The line of a lane. -/
def line (q : Lanes) (l : Lane) : Line := q.lines.get l

/-- Put a task into the line of its lane. -/
def offer (q : Lanes) (t : Task) : Lanes := ⟨q.lines.modify t.lane (·.push t)⟩

/-- Take the next task of a lane. -/
def poll? (q : Lanes) (l : Lane) (excluded : List Domain) : Option (Task × Lanes) :=
  ((q.line l).pop? excluded).map fun p => (p.1, ⟨q.lines.set l p.2⟩)

/-- Take the next task of the first lane that has one. -/
def pollAny? (q : Lanes) (excluded : List Domain) : Option (Task × Lanes) :=
  Lane.serviceOrder.findSome? fun l => q.poll? l excluded

/-- Take out every task that satisfies `p`, lane by lane. -/
def withdraw (q : Lanes) (p : Task → Bool) : List Task × Lanes :=
  (Lane.serviceOrder.flatMap fun l => ((q.line l).withdraw p).1,
    ⟨⟨((q.line .realtimeFresh).withdraw p).2, ((q.line .realtimeRetry).withdraw p).2,
      ((q.line .bulkFresh).withdraw p).2, ((q.line .bulkRetry).withdraw p).2⟩⟩)

/-- The number of tasks in a lane. -/
def size (q : Lanes) (l : Lane) : Nat := (q.line l).size

/-- The number of tasks in all lanes. -/
def total (q : Lanes) : Nat := sumOf (Lane.serviceOrder.map q.size)

/-- The queued tasks, lane by lane. -/
def tasks (q : Lanes) : List Task := Lane.serviceOrder.flatMap fun l => (q.line l).tasks

/-- The number of queued tasks of each domain, over all lanes, sorted by domain. -/
def byDomain (q : Lanes) : List (Domain × Nat) :=
  let domains := (q.tasks.map (·.domain)).eraseDups.mergeSort Domain.le
  domains.map fun d => (d, q.tasks.countP (·.domain = d))

/-- The order in which withdrawn tasks are listed: by lane, then by domain; within these first in,
first out. -/
def listedBefore (a b : Task) : Bool :=
  a.lane.index < b.lane.index || (a.lane = b.lane && a.domain.le b.domain)

/-- Withdrawn tasks in their listed order. -/
def listed (ts : List Task) : List Task := ts.mergeSort listedBefore

end Lanes

end Postroom
