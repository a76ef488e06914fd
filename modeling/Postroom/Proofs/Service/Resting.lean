import Postroom.Proofs.Executions
import Postroom.Proofs.Settlements.Steps

/-!
# What leaves the workers alone

Only a tick starts sends and waiters, and only the end of a send frees a worker. All else that happens to an office
leaves the workers as they are, and takes attempts out of flight at most.

- `Office.Rests`: the workers and the settings are the same, and no more is in flight.
- `Office.rests_collect` and the like: operations that do only this.
- `Happening.usesWorkers`: the happenings that may do more. `World.rests_after`: all others do only this.
-/

namespace Postroom

namespace Office

variable {o o' o'' : Office} {t : Task} {l : Lane}

/-- No more is in flight in any lane, and the workers and the settings are the same. -/
structure Rests (o o' : Office) : Prop where
  inFlight : ∀ l, o'.inFlight.get l ≤ o.inFlight.get l
  workers : o'.workers = o.workers
  config : o'.config = o.config

namespace Rests

theorem refl (o : Office) : Rests o o := ⟨fun _ => Nat.le_refl _, rfl, rfl⟩

theorem trans (h : Rests o o') (h' : Rests o' o'') : Rests o o'' :=
  ⟨fun l => (h'.inFlight l).trans (h.inFlight l), h'.workers.trans h.workers, h'.config.trans h.config⟩

theorem of_eq (inFlight : o'.inFlight = o.inFlight) (workers : o'.workers = o.workers)
    (config : o'.config = o.config) : Rests o o' :=
  ⟨fun l => Nat.le_of_eq (congrArg (·.get l) inFlight), workers, config⟩

/-- The frame shows what is in flight, the workers and the settings. -/
theorem of_frame (h : o'.frame = o.frame) : Rests o o' :=
  .of_eq (congrArg (·.inFlight) h) (congrArg (·.workers) h) (congrArg (·.config) h)

end Rests

theorem rests_countEnd (l : Lane) : Rests o (o.countEnd l) := by
  unfold countEnd
  split
  · exact .refl o
  · refine ⟨fun l' => ?_, rfl, rfl⟩
    rw [PerLane.get_modify]
    split
    · exact Nat.sub_le _ _
    · exact Nat.le_refl _

theorem rests_attemptFinished (t : Task) : Rests o (o.attemptFinished t) := by
  unfold attemptFinished
  split <;> exact .of_eq rfl rfl rfl

theorem rests_abortAndFail (t : Task) (cause : Fault) : Rests o (o.abortAndFail t cause) := by
  have noted : Rests o { o with registry := o.registry.noteEnd (t.runner.map (·, cause)) } := .of_eq rfl rfl rfl
  exact noted.trans (.of_frame (frame_abortAndFail t cause))

theorem rests_failAttempt (t : Task) (cause : Fault) : Rests o (o.failAttempt t cause) := by
  have noted : Rests o { o with registry := o.registry.noteEnd (endedByFault t cause) } := .of_eq rfl rfl rfl
  exact noted.trans (.of_frame (frame_failAttempt t cause))

theorem rests_finishSettlement (t : Task) (purpose : Purpose) (results : List RecipientResult) :
    Rests o (o.finishSettlement t purpose results) := by
  cases purpose with
  | attempt kept =>
    have settled : Rests o (o.settle t results) := .of_eq rfl rfl rfl
    have concluded := settled.trans (.of_frame (frame_conclusionOfAttempt t kept))
    exact concluded.trans (rests_attemptFinished t)
  | expiry => exact .of_frame (frame_complete t)
  | unroutable => exact .of_frame (frame_complete t)

theorem rests_beginSettlement (n : Nat) (t : Task) (purpose : Purpose) (results : List RecipientResult) :
    Rests o (o.beginSettlement n t purpose results) := by
  unfold beginSettlement
  split
  · exact rests_finishSettlement t purpose results
  · exact .of_eq rfl rfl rfl

theorem rests_removeSettlement (n : Nat) : Rests o (o.removeSettlement n) := .of_eq rfl rfl rfl

theorem rests_recordAccepted (n : Nat) : Rests o (o.recordAccepted n) := by
  have recorded := o.records n
  generalize o.recordAccepted n = p at recorded ⊢
  cases recorded with
  | idle => exact .refl o
  | more => exact .of_eq rfl rfl rfl
  | last s r found next =>
    exact (rests_removeSettlement n).trans (rests_finishSettlement s.task s.purpose (s.written ++ [r]))

theorem rests_recordRefused (n : Nat) (message : String) : Rests o (o.recordRefused n message) := by
  unfold recordRefused
  split
  · exact .refl o
  · next s found =>
    have ended := (rests_removeSettlement (o := o) n).trans
      (rests_abortAndFail s.task (.persistence message))
    dsimp only
    split
    · exact ended.trans (rests_attemptFinished s.task)
    · exact ended

theorem rests_close (a : Attempt) : Rests o (o.close a) := by
  have removed : Rests o { o with attempts := o.attempts.filter (·.number ≠ a.number) } := .of_eq rfl rfl rfl
  exact removed.trans (rests_countEnd a.task.lane)

theorem rests_collect (n : Nat) : Rests o (o.collect n) := by
  have collected := o.collects n
  generalize o.collect n = p at collected ⊢
  cases collected with
  | idle => exact .refl o
  | failed a cause found reported =>
    have released : Rests (o.close a) ((o.close a).releasePermit a.permit) := .of_eq rfl rfl rfl
    have failed := ((rests_close a).trans released).trans (rests_failAttempt a.task cause)
    exact failed.trans (rests_attemptFinished a.task)
  | lost a outcome found reported lost pool => exact (rests_close a).trans (.of_eq rfl rfl rfl)
  | settled a outcome found reported kept =>
    have answered : Rests (o.close a) ((o.close a).answer a outcome) := .of_eq rfl rfl rfl
    exact ((rests_close a).trans answered).trans (rests_beginSettlement ..)

theorem rests_beginExpiry (n : Nat) : Rests o (o.beginExpiry n) := by
  unfold beginExpiry
  split
  · exact .refl o
  · next e found =>
    have removed : Rests o { o with expiries := o.expiries.filter (·.number ≠ n) } := .of_eq rfl rfl rfl
    exact removed.trans (rests_beginSettlement ..)

theorem rests_submit (s : Submission) : Rests o (o.submit s).2 := by
  rcases submit_cases o s with ⟨answer, same, -⟩ | ⟨-, a, -, taken⟩
  · rw [same]
    exact .refl o
  · rw [taken]
    dsimp only
    split
    · have numbered : Rests o { (o.enter s).2 with nextNumber := (o.enter s).2.nextNumber + 1 } :=
        .of_eq rfl rfl rfl
      exact numbered.trans (rests_beginSettlement ..)
    · exact .of_eq rfl rfl rfl

theorem rests_abandon (numbers : List Nat) : Rests o (o.abandon numbers) :=
  have left := frame_abandon o numbers
  .of_eq (congrArg (·.inFlight) left) (congrArg (·.workers) left) (congrArg (·.config) left)

end Office

/-- The happening may start sends and waiters, end a send or take some into other hands. -/
def Happening.usesWorkers : Happening → Bool
  | .tick | .turns .. | .sendEnded .. | .closeWorkers | .takeSends | .takeWaiters => true
  | _ => false

namespace World

open Office

variable {h : Happening}

/-- Nothing else touches the workers. -/
theorem rests_after (w : World) (idle : h.usesWorkers = false) : Rests w.office (w.after h).office := by
  have outside : ∀ place (f : Office → Task → Office), (∀ t, (f w.office t).frame = w.office.frame) →
      Rests w.office (w.useOutside place f).office := fun place f leaves => .of_frame (frame_useOutside place leaves)
  cases h with
  | tick | turns | sendEnded | closeWorkers | takeSends | takeWaiters => cases idle
  | submit s =>
    rw [after, office_submit]
    exact rests_submit s
  | wake n => exact .of_frame (frame_wake n)
  | collect n => exact rests_collect n
  | beginExpiry n => exact rests_beginExpiry n
  | recordAccepted n => exact rests_recordAccepted n
  | recordRefused n message => exact rests_recordRefused n message
  | register runner =>
    have registered : Rests w.office { w.office with registry := w.office.registry.register runner } :=
      .of_eq rfl rfl rfl
    exact registered.trans (.of_frame (frame_withdraw _))
  | abortRun t cause =>
    have noted : Rests w.office { w.office with registry := w.office.registry.noteEnd (t.runner.map (·, cause)) } :=
      .of_eq rfl rfl rfl
    exact noted.trans (.of_frame (frame_abortRun t cause))
  | failOutside place cause => exact outside place _ fun t => frame_fail t cause
  | dropOutside place => exact outside place _ fun _ => rfl
  | closeTimers => exact .of_frame frame_closeTimers
  | emptyLanes => exact .of_frame frame_emptyLanes
  | abandon numbers => exact rests_abandon numbers
  | beginTick | unregister | pass | shift | readDaily | readWindow | stopAccepting | sessionFailed | draw =>
    exact .of_eq rfl rfl rfl

theorem executed_of_idle {w : World} (idle : h.usesWorkers = false) : w.executed h = [] := by
  cases h with
  | tick | turns => cases idle
  | _ => rfl

end World

end Postroom
