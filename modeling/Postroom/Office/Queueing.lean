import Postroom.Office.Ending

/-!
# Lanes and runs

Putting tasks into the lanes and taking them out, and what registering, unregistering and ending a run
does to queued tasks.

* `Office.offer`, `Office.poll?`, `Office.withdraw`: the lanes, with the depths in the metrics.
* `Office.register`, `Office.unregister`: a run becomes active; a job has no active run.
* `Office.abortRun`, `Office.abortAndFail`: a run is ended, with all its queued tasks.
* `Office.requeue`: back into the lane, if the run is still valid.
-/

namespace Postroom.Office

variable (o : Office)

/-- Show the depth of a lane in the metrics. -/
def publishDepth (l : Lane) : Office :=
  { o with metrics := o.metrics.setDepth l (o.lanes.size l) }

/-- Put a task into its lane. -/
def offer (t : Task) : Office :=
  publishDepth { o with lanes := o.lanes.offer { t with enqueuedAt := o.now } } t.lane

/-- Take the next task of a lane. -/
def poll? (l : Lane) (excluded : List Domain) : Option (Task × Office) :=
  (o.lanes.poll? l excluded).map fun p => (p.1, publishDepth { o with lanes := p.2 } l)

/-- Take the next task of the first lane that has one. -/
def pollAny? (excluded : List Domain) : Option (Task × Office) :=
  Lane.serviceOrder.findSome? fun l => o.poll? l excluded

/-- Take out every queued task that satisfies `p`. -/
def withdraw (p : Task → Bool) : List Task × Office :=
  let (taken, lanes) := o.lanes.withdraw p
  let touched := Lane.serviceOrder.filter fun l => taken.any (·.lane = l)
  (taken, touched.foldl publishDepth { o with lanes := lanes })

/-- Make a run the active one of its job. The queued tasks of the job's other runs are handed out. -/
def register (runner : Runner) : List Task × Office :=
  let o := { o with registry := o.registry.register runner }
  o.withdraw fun t => t.ownedByJob runner.id && !t.ownedBy runner

/-- The job has no active run any more. -/
def unregister (id : RunnerId) : Office :=
  { o with
    registry := o.registry.unregister id
    waits := o.waits.clearJob id }

/-- End the run of `t` because of `cause`, with all its queued tasks; how many there were. A run that
was ended before stays as it is. -/
def abortRun (t : Task) (cause : Fault) : Nat × Office :=
  match t.runner with
  | none => (0, o)
  | some runner =>
    match o.registry.abort? runner cause with
    | none => (0, o)
    | some registry =>
      let (queued, o) := withdraw { o with registry := registry } (·.ownedBy runner)
      let o := o.failAll queued (Fault.abortedBy runner.id cause)
      (queued.length, { o with waits := o.waits.clearJob runner.id })

/-- The fault of a task that itself brought its run down. -/
def ownFault (t : Task) (cause : Fault) : Fault :=
  match t.runnerId with
  | some id => Fault.abortedBy id cause
  | none => cause

/-- End the run of `t` because of `cause`, and `t` with it. -/
def abortAndFail (t : Task) (cause : Fault) : Office :=
  (o.abortRun t cause).2.fail t (ownFault t cause)

/-- Put a task back into its lane if its run is still valid, else end it. -/
def requeue (t : Task) : Office :=
  match o.registry.validate t with
  | .ok () => o.offer t
  | .error rejection => o.fail t rejection.cause

end Postroom.Office
