import Postroom.Batch
import Postroom.Table

/-!
# Waits for resources

When each batch first found no resources, as long as it has not got any, given up, or ended.

* `WaitTable.since`: when a batch's wait began, beginning it now if it has not.
* `WaitTable.clear`, `WaitTable.clearJob`: the wait of one batch, or of all batches of a job, is over.
* `WaitTable.start?`: when a wait began; the lemmas say what each operation does to it.
-/

namespace Postroom

/-- One batch's wait. -/
structure Wait where
  runner : Option RunnerId
  start : Int
  deriving DecidableEq

/-- The waits, by the name of the task. -/
structure WaitTable where
  waits : Table BatchId Wait := .empty

namespace WaitTable

/-- When the wait of `id` began; it begins at `now` if it has not begun. -/
def since (w : WaitTable) (id : BatchId) (runner : Option RunnerId) (now : Int) : Int × WaitTable :=
  match w.waits.find? id with
  | some wait => (wait.start, w)
  | none => (now, ⟨w.waits.insert id ⟨runner, now⟩⟩)

/-- The wait of `id` is over. -/
def clear (w : WaitTable) (id : BatchId) : WaitTable := ⟨w.waits.erase id⟩

/-- The waits of all batches of a job are over. -/
def clearJob (w : WaitTable) (job : RunnerId) : WaitTable :=
  ⟨w.waits.filter fun _ wait => wait.runner ≠ some job⟩

/-- The number of batches that wait. -/
def size (w : WaitTable) : Nat := w.waits.size

/-! ### When waits began -/

/-- When the wait of `id` began, if it has begun. -/
def start? (w : WaitTable) (id : BatchId) : Option Int := (w.waits.find? id).map (·.start)

theorem start?_since (w : WaitTable) (id id' : BatchId) (runner : Option RunnerId) (now : Int) :
    (w.since id runner now).2.start? id' =
      if id = id' then some ((w.start? id).getD now) else w.start? id' := by
  simp only [since, start?]
  cases h : w.waits.find? id with
  | none => by_cases e : id = id' <;> simp [Table.find?_insert, e]
  | some wait =>
    by_cases e : id = id'
    · subst e
      simp [h]
    · simp [e]

theorem start?_clear (w : WaitTable) (id id' : BatchId) :
    (w.clear id).start? id' = if id = id' then none else w.start? id' := by
  simp only [clear, start?, Table.find?_erase]
  by_cases e : id = id' <;> simp [e]

end WaitTable

end Postroom
