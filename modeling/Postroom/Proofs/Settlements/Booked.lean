import Postroom.Proofs.Custody.Course
import Postroom.Proofs.Runs.Course

/-!
# Operations that make no result final

Moving tasks about, starting them and ending their batches changes neither the final results of any batch nor
the settlements under way.

- `Office.booked`: the final results of each batch.
- `Office.booked_fail` and the like: each of these operations leaves them as they are.
- `Office.settlements_turn`: a turn of a tick leaves the settlements as they are.
-/

namespace Postroom

namespace Office

variable {o o' : Office} {t : Task} {n : Nat}

/-- The final results of each batch. -/
def booked (o : Office) : Nat → List RecipientResult := o.ledger.settledOf

theorem booked_conclude (t : Task) (v : Verdict) : (o.conclude t v).booked = o.booked := by
  funext n
  rw [booked, ledger_conclude, Ledger.settledOf_resolve]
  rfl

theorem booked_fail (t : Task) (cause : Fault) : (o.fail t cause).booked = o.booked := booked_conclude t _

theorem booked_complete (t : Task) : (o.complete t).booked = o.booked := booked_conclude t _

theorem booked_failAll (ts : List Task) (cause : Fault) : (o.failAll ts cause).booked = o.booked := by
  induction ts generalizing o with
  | nil => rfl
  | cons t ts ih => exact (ih (o := o.fail t cause)).trans (booked_fail t cause)

theorem booked_drop (t : Task) : (o.drop t).booked = o.booked := by
  funext n
  exact Ledger.settledOf_resolve ..

theorem booked_dropAll (ts : List Task) : (ts.foldl drop o).booked = o.booked := by
  induction ts generalizing o with
  | nil => rfl
  | cons t ts ih => exact (ih (o := o.drop t)).trans (booked_drop t)

theorem booked_publishDepths (ls : List Lane) : (ls.foldl publishDepth o).booked = o.booked := by
  induction ls generalizing o with
  | nil => rfl
  | cons l ls ih => exact ih (o := o.publishDepth l)

theorem booked_withdraw (p : Task → Bool) : (o.withdraw p).2.booked = o.booked := booked_publishDepths _

theorem booked_nextTask? {bulk : BulkBudget} {k : Nat} {excluded : List Domain}
    (h : o.nextTask? bulk k excluded = some (t, o')) : o'.booked = o.booked := by
  obtain ⟨l, -, hl⟩ := List.exists_of_findSome?_eq_some h
  split at hl
  · obtain ⟨_, _, he⟩ := Option.map_eq_some_iff.1 hl
    cases he
    rfl
  · cases hl

theorem booked_requeue (t : Task) : (o.requeue t).booked = o.booked := by
  unfold requeue
  split
  · rfl
  · exact booked_fail t _

theorem booked_sleep (delay : Nat) (t : Task) : (o.sleep delay t).booked = o.booked := by
  unfold sleep
  split
  · exact booked_fail t _
  · rfl

theorem booked_wake (n : Nat) : (o.wake n).booked = o.booked := by
  unfold wake
  split
  · rfl
  · split
    · exact booked_requeue _
    · rfl

theorem booked_scheduleRetry (t : Task) (kept : List Recipient) :
    (o.scheduleRetry t kept).booked = o.booked := booked_sleep _ _

theorem booked_shortage (t : Task) : (o.shortage t).2.booked = o.booked := by
  unfold shortage
  dsimp only
  split
  · exact booked_sleep _ _
  · split
    · exact booked_scheduleRetry _ _
    · rfl

theorem booked_countEnd (l : Lane) : (o.countEnd l).booked = o.booked := by
  unfold countEnd
  split <;> rfl

theorem booked_attemptStarted (t : Task) : (o.attemptStarted t).booked = o.booked := by
  unfold attemptStarted
  split <;> rfl

theorem booked_attemptFinished (t : Task) : (o.attemptFinished t).booked = o.booked := by
  unfold attemptFinished
  split <;> rfl

theorem booked_execute (t : Task) : (o.execute t).2.booked = o.booked := by
  rw [execute_eq]
  split
  · have short := booked_shortage (o := o) t
    split
    · next h =>
      rw [h] at short
      exact short
    · next h =>
      rw [h] at short
      exact short
  · next permit o' h =>
    have taken : o'.booked = o.booked := by
      obtain ⟨_, _, h⟩ := Option.bind_eq_some_iff.1 h
      obtain ⟨_, _, h⟩ := Option.bind_eq_some_iff.1 h
      cases h
      rfl
    dsimp only
    split
    · have back : (((o'.countStart t.lane).countEnd t.lane).releasePermit permit).booked = o'.booked :=
        booked_countEnd (o := o'.countStart t.lane) t.lane
      exact ((booked_fail t _).trans back).trans taken
    · exact (booked_attemptStarted t).trans taken

theorem settlements_attemptStarted (t : Task) : (o.attemptStarted t).settlements = o.settlements := by
  unfold attemptStarted
  split <;> rfl

theorem settlements_attemptFinished (t : Task) : (o.attemptFinished t).settlements = o.settlements := by
  unfold attemptFinished
  split <;> rfl

theorem settlements_execute (t : Task) : (o.execute t).2.settlements = o.settlements := by
  rw [execute_eq]
  split
  · have short := congrArg (·.settlements) (frame_shortage (o := o) t)
    split
    · next h =>
      rw [h] at short
      exact short
    · next h =>
      rw [h] at short
      exact short
  · next permit o' h =>
    have taken : o'.settlements = o.settlements := congrArg (·.settlements) (frame_acquire? h)
    dsimp only
    split
    · have ended := congrArg (·.settlements) (frame_fail
        (o := ((o'.countStart t.lane).countEnd t.lane).releasePermit permit) t ‹Fault›)
      refine Eq.trans ended (Eq.trans ?_ taken)
      show (countEnd (o'.countStart t.lane) t.lane).settlements = _
      unfold countEnd
      split <;> rfl
    · exact (settlements_attemptStarted t).trans taken

theorem settlements_turn (h : Ticking.Turn o o') : o'.settlements = o.settlements := by
  cases h with
  | drop next _ =>
    exact congrArg (·.settlements) ((frame_fail _ _).trans (frame_nextTask? next))
  | execute next _ =>
    exact (settlements_execute _).trans (congrArg (·.settlements) (frame_nextTask? next))

theorem booked_turn (h : Ticking.Turn o o') : o'.booked = o.booked := by
  cases h with
  | drop next _ => exact (booked_fail _ _).trans (booked_nextTask? next)
  | execute next _ => exact (booked_execute _).trans (booked_nextTask? next)

theorem booked_serve (bulk : BulkBudget) (k : Nat) (s : Ticking) :
    (Ticking.serve bulk k s).office.booked = s.office.booked :=
  Ticking.serve_of_turn (P := fun o o' => o'.booked = o.booked) (fun _ => rfl)
    (fun _ _ _ first second => second.trans first) (fun _ _ => booked_turn) bulk k s

theorem booked_abortRun (t : Task) (cause : Fault) : (o.abortRun t cause).2.booked = o.booked := by
  unfold abortRun
  split
  · rfl
  · split
    · rfl
    · exact (booked_failAll _ _).trans (booked_withdraw _)

theorem booked_abortAndFail (t : Task) (cause : Fault) : (o.abortAndFail t cause).booked = o.booked :=
  (booked_fail t _).trans (booked_abortRun t cause)

theorem booked_conclusionOfAttempt (t : Task) (kept : List Recipient) :
    (o.conclusionOfAttempt t kept).booked = o.booked := by
  unfold conclusionOfAttempt
  split
  · exact booked_fail t _
  · split
    · exact booked_complete t
    · exact booked_scheduleRetry t kept

theorem booked_failAttempt (t : Task) (cause : Fault) : (o.failAttempt t cause).booked = o.booked := by
  unfold failAttempt
  split
  · exact booked_abortAndFail t cause
  · split
    · exact booked_fail t _
    · split
      · exact booked_scheduleRetry t _
      · exact booked_fail t _

theorem booked_recordRefused (n : Nat) (message : String) :
    (o.recordRefused n message).booked = o.booked := by
  unfold recordRefused
  split
  · rfl
  · next s _ =>
    have ended := booked_abortAndFail (o := o.removeSettlement n) s.task (.persistence message)
    dsimp only
    split
    · exact (booked_attemptFinished s.task).trans ended
    · exact ended

theorem booked_closeTimers : o.closeTimers.booked = o.booked := booked_failAll _ _

theorem booked_emptyLanes : o.emptyLanes.2.booked = o.booked :=
  (booked_failAll _ _).trans (booked_withdraw _)

theorem booked_abandon (numbers : List Nat) : (o.abandon numbers).booked = o.booked := booked_dropAll _

end Office

end Postroom
