import Postroom.Calendar
import Postroom.Table

/-!
# Daily counts

How many batches completed and how many failed on each of the last seven days, today included. Older
days are forgotten whenever the counts are touched, by reading too.

* `Daily.recordCompleted`, `Daily.recordFailed`: count one batch for today.
* `Daily.history`, `Daily.totals`: the days kept, oldest first, and their sum.
* `Daily.Reaches`: the calendar can hold the oldest day that is kept. `Daily.recordCompleted?` and the like are the
  calls at any time, which have a result only then.
-/

namespace Postroom

/-- The batches of one day. -/
structure DayCounts where
  completed : Nat := 0
  failed : Nat := 0
  deriving DecidableEq

namespace DayCounts

def add (a b : DayCounts) : DayCounts := ⟨a.completed + b.completed, a.failed + b.failed⟩

end DayCounts

/-- Counts by day, oldest day first. -/
structure Daily where
  days : List (Int × DayCounts) := []

namespace Daily

/-- The number of days kept, today included. -/
def retention : Int := 7

/-- The counts without the days that are no longer kept at `now`. -/
def prune (d : Daily) (now : Int) : Daily :=
  ⟨d.days.filter fun e => Calendar.dayOf now - (retention - 1) ≤ e.1⟩

/-- Change the counts of `day`, which keeps its place among the days. -/
def change (day : Int) (f : DayCounts → DayCounts) : List (Int × DayCounts) → List (Int × DayCounts)
  | [] => [(day, f {})]
  | e :: es =>
    if e.1 = day then (day, f e.2) :: es
    else if day < e.1 then (day, f {}) :: e :: es
    else e :: change day f es

/-- Change today's counts. -/
def update (d : Daily) (now : Int) (f : DayCounts → DayCounts) : Daily :=
  ⟨change (Calendar.dayOf now) f (d.prune now).days⟩

/-- Count a completed batch. -/
def recordCompleted (d : Daily) (now : Int) : Daily :=
  d.update now fun c => { c with completed := c.completed + 1 }

/-- Count a failed batch. -/
def recordFailed (d : Daily) (now : Int) : Daily :=
  d.update now fun c => { c with failed := c.failed + 1 }

/-- The days kept at `now`, oldest first. -/
def history (d : Daily) (now : Int) : List (Int × DayCounts) := (d.prune now).days

/-- The sum over the days kept at `now`. -/
def totals (d : Daily) (now : Int) : DayCounts :=
  (d.history now).foldl (fun acc e => acc.add e.2) {}

/-! ## At the beginning of the calendar -/

/-- The calendar can hold the oldest day that is kept at `now`. -/
def Reaches (now : Int) : Prop := Calendar.firstDay ≤ Calendar.dayOf now - (retention - 1)

instance (now : Int) : Decidable (Reaches now) := inferInstanceAs (Decidable (_ ≤ _))

/-- Count a completed batch, where the calendar can hold the oldest day. -/
def recordCompleted? (d : Daily) (now : Int) : Option Daily :=
  if Reaches now then some (d.recordCompleted now) else none

/-- Count a failed batch, where the calendar can hold the oldest day. -/
def recordFailed? (d : Daily) (now : Int) : Option Daily := if Reaches now then some (d.recordFailed now) else none

/-- The sum over the days kept, where the calendar can hold the oldest, and the counts without older days. -/
def totals? (d : Daily) (now : Int) : Option (DayCounts × Daily) :=
  if Reaches now then some (d.totals now, d.prune now) else none

/-- The days kept, where the calendar can hold the oldest, and the counts without older days. -/
def history? (d : Daily) (now : Int) : Option (List (Int × DayCounts) × Daily) :=
  if Reaches now then some (d.history now, d.prune now) else none

/-- On the clock of an office all calls have a result. -/
theorem reaches_of_moment (m : Calendar.Moment) : Reaches m.time := by
  have := m.early
  unfold Reaches retention
  omega

end Daily

end Postroom
