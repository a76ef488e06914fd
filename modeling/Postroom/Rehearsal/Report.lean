import Postroom.Rehearsal.Hand
import Postroom.Rehearsal.Time

/-!
# Reports

What a rehearsal tells after each step: the log, the batches that ended, and the counts of the days
kept. A report is made when all that can go on without time passing has gone on.

* `Rehearsal.report`: the report of a step.
-/

namespace Postroom

/-- What a step leaves to tell. -/
structure StepReport where
  log : List Entry
  ended : List (String × Verdict)
  daily : DayCounts

namespace Rehearsal

/-- The report of the step that ends now. -/
def report (b : Rehearsal) : StepReport × Rehearsal :=
  let (log, b) := (b.settle []).takeLog
  let (ended, b) := b.takeEnded
  let (daily, o) := b.office.dailyTotals
  (⟨log, ended, daily⟩, { b with office := o })

/-- The run to which tasks in hand belong that name no other. -/
def defaultRunner : Runner := ⟨⟨"auto"⟩, 0⟩

/-- A rehearsal in which that run is registered. -/
def withDefaultRunner (b : Rehearsal) : Rehearsal := (b.register defaultRunner).2

end Rehearsal

end Postroom
