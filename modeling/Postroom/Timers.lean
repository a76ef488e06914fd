import Postroom.Task

/-!
# Timers

Tasks that sleep until a time on the monotonic clock. Once the timers are closed no task is put to
sleep any more.

* `Timers.add`: put a task to sleep. `Timers.take?`: wake one.
* `Timers.close`: wake all, for good.
-/

namespace Postroom

/-- A sleeping task. -/
structure Sleeper where
  /-- Numbers the sleepers in the order in which they went to sleep. -/
  number : Nat
  /-- When it wakes, on the monotonic clock. -/
  due : Nat
  task : Task
  deriving DecidableEq

/-- The sleeping tasks, in the order in which they went to sleep. -/
structure Timers where
  sleepers : List Sleeper := []
  closed : Bool := false

namespace Timers

def add (t : Timers) (s : Sleeper) : Timers := { t with sleepers := t.sleepers ++ [s] }

/-- Wake the sleeper with a number. -/
def take? (t : Timers) (number : Nat) : Option (Sleeper × Timers) :=
  (t.sleepers.find? (·.number = number)).map fun s =>
    (s, { t with sleepers := t.sleepers.filter (·.number ≠ number) })

/-- Wake all and let no one sleep again. -/
def close (t : Timers) : List Sleeper × Timers := (t.sleepers, { sleepers := [], closed := true })

/-- The sleepers whose time has come, the earliest first. -/
def dueBy (t : Timers) (now : Nat) : List Sleeper :=
  (t.sleepers.filter (·.due ≤ now)).mergeSort fun a b => a.due ≤ b.due

end Timers

end Postroom
