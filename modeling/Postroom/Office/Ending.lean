import Postroom.Office.State

/-!
# How batches end

A batch ends with its settled results or with a fault. Only the first end counts, and only then do the
counters of the day and the metrics move.

* `Office.complete`, `Office.fail`: the batch of a task ends.
* `Office.drop`: a task is let go of without an end of its own.
-/

namespace Postroom.Office

variable (o : Office)

/-- The batch of `t` ends for good if it has not, and is counted. -/
def conclude (t : Task) (v : Verdict) : Office :=
  let o := { o with waits := o.waits.clear t.id }
  if o.ledger.isOpen t.ticket then
    let completed := v.toBool
    { o with
      ledger := o.ledger.resolve t.ticket v
      daily := if completed then o.daily.recordCompleted o.now else o.daily.recordFailed o.now
      metrics := o.metrics.batchEnded t.traffic completed }
  else o

/-- The batch of `t` ends with its settled results. -/
def complete (t : Task) : Office := o.conclude t (.ok (o.ledger.resultOf t))

/-- The batch of `t` ends with a fault. -/
def fail (t : Task) (cause : Fault) : Office := o.conclude t (.error cause)

/-- Each of these batches ends with the same fault. -/
def failAll (ts : List Task) (cause : Fault) : Office := ts.foldl (fun o t => o.fail t cause) o

/-- A task is let go of: where its batch has not ended, no one is left to end it. -/
def drop (t : Task) : Office :=
  { o with ledger := o.ledger.resolve t.ticket (.error .cancelled) }

/-- To let go of tasks changes nothing but the ledger. -/
theorem foldl_drop (ts : List Task) (o : Office) :
    ts.foldl drop o =
      { o with
        ledger := ts.foldl (fun l t => l.resolve t.ticket (.error .cancelled)) o.ledger } := by
  induction ts generalizing o with
  | nil => rfl
  | cons t ts ih => rw [List.foldl_cons, ih]; rfl

end Postroom.Office
