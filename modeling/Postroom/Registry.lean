import Postroom.Fault
import Postroom.Table
import Postroom.Task

/-!
# Registry of runs

Which run of each job is the active one, which run was ended and why, and how many attempts of each
job are running. A batch without a runner is always valid; any other only while its run is the active
one of its job and was not ended.

* `Registry.validate`: whether a task may run, and if not, why.
* `Registry.abort?`: note the end of a run, once.
* `Registry.attemptStarted`, `Registry.attemptFinished`: count running attempts. The note of an ended
  run outlives its job's registration until the last of them has finished.
-/

namespace Postroom

/-- The end of a run. -/
structure AbortRecord where
  token : Nat
  cause : Fault
  deriving DecidableEq

/-- The runs of all jobs. -/
structure Registry where
  /-- The token of the active run. -/
  active : Table RunnerId Nat := .empty
  /-- The run that was ended last. -/
  aborted : Table RunnerId AbortRecord := .empty
  /-- The running attempts of jobs that have any. -/
  running : Table RunnerId Nat := .empty

/-- Why a task may not run, and the fault it ends with. -/
structure Rejection where
  reason : RejectReason
  cause : Fault
  deriving DecidableEq

namespace Registry

/-- Make `runner` the active run of its job. -/
def register (r : Registry) (runner : Runner) : Registry :=
  { r with active := r.active.insert runner.id runner.token }

/-- The attempts of a job that are running. -/
def runningAttempts (r : Registry) (id : RunnerId) : Nat := (r.running.find? id).getD 0

/-- Forget the active run of a job, and its ended run unless attempts are still running. -/
def unregister (r : Registry) (id : RunnerId) : Registry :=
  { r with
    active := r.active.erase id
    aborted := if r.running.contains id then r.aborted else r.aborted.erase id }

def isActive (r : Registry) (runner : Runner) : Bool :=
  r.active.find? runner.id = some runner.token

/-- Why the run `runner` was ended, if it was. -/
def endOf (r : Registry) (runner : Runner) : Option Fault :=
  match r.aborted.find? runner.id with
  | some record =>
    if record.token = runner.token then some (Fault.abortedBy runner.id record.cause) else none
  | none => none

/-- Why the run of `t` was ended, if it was. -/
def abortCause (r : Registry) (t : Task) : Option Fault := t.runner.bind r.endOf

/-- Whether a batch of `runner` is kept from running. -/
def rejectionOf (r : Registry) (runner : Runner) : Option Rejection :=
  match r.endOf runner with
  | some cause => some ⟨.aborted, cause⟩
  | none =>
    match r.active.find? runner.id with
    | some token => if token = runner.token then none else some ⟨.stale, Fault.superseded runner.id⟩
    | none => some ⟨.unregistered, Fault.unregistered runner.id⟩

/-- Whether `t` may run. -/
def validate (r : Registry) (t : Task) : Except Rejection Unit :=
  match t.runner.bind r.rejectionOf with
  | some rejection => .error rejection
  | none => .ok ()

/-- Note that `runner` was ended by `cause`; none if it is noted already. -/
def abort? (r : Registry) (runner : Runner) (cause : Fault) : Option Registry :=
  if (r.aborted.find? runner.id).any (·.token = runner.token) then none
  else some { r with aborted := r.aborted.insert runner.id ⟨runner.token, cause⟩ }

/-- An attempt of the job has started. -/
def attemptStarted (r : Registry) (id : RunnerId) : Registry :=
  { r with running := r.running.insert id (r.runningAttempts id + 1) }

/-- An attempt of the job has finished. With the last one goes the note of an ended run, unless a run
of the job is active. -/
def attemptFinished (r : Registry) (id : RunnerId) : Registry :=
  if 1 < r.runningAttempts id then
    { r with running := r.running.insert id (r.runningAttempts id - 1) }
  else
    { r with
      running := r.running.erase id
      aborted := if r.active.contains id then r.aborted else r.aborted.erase id }

/-! ### Running attempts -/

theorem runningAttempts_attemptStarted (r : Registry) (id id' : RunnerId) :
    (r.attemptStarted id).runningAttempts id' =
      r.runningAttempts id' + if id = id' then 1 else 0 := by
  rw [attemptStarted, runningAttempts, Table.find?_insert]
  by_cases h : id = id'
  · subst h
    rw [if_pos rfl, if_pos rfl, Option.getD_some]
  · rw [if_neg h, if_neg h]
    rfl

theorem runningAttempts_attemptFinished (r : Registry) (id id' : RunnerId) :
    (r.attemptFinished id).runningAttempts id' =
      r.runningAttempts id' - if id = id' then 1 else 0 := by
  unfold attemptFinished
  split
  · rw [runningAttempts, Table.find?_insert]
    by_cases h : id = id'
    · subst h
      rw [if_pos rfl, if_pos rfl, Option.getD_some]
    · rw [if_neg h, if_neg h]
      rfl
  · next few =>
    rw [runningAttempts, Table.find?_erase]
    by_cases h : id = id'
    · subst h
      rw [if_pos rfl, if_pos rfl, Option.getD_none]
      omega
    · rw [if_neg h, if_neg h]
      rfl

end Registry

end Postroom
