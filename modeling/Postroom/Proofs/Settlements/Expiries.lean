import Postroom.Proofs.Executions
import Postroom.Proofs.Settlements.Course

/-!
# Expiries along a history

A task comes among the expiries by its execution, when it finds no resources, its wait has lasted too long, and it may
not be retried any more. It stays there until it is taken up, or until all that runs is let go of.

- `Office.expiryOf`: the expiry that an execution leaves, if it leaves one.
- `World.expiries_after`: the expiries after a happening are those that it leaves and those of its executions.
- `World.expiry_kept`: what takes an expiry away.
-/

namespace Postroom

namespace Office

/-- The expiry that the execution of `t` leaves, if it leaves one. -/
def expiryOf (o : Office) (t : Task) : Option Expiry :=
  match o.acquire? t, o.shortage t with
  | none, (.expired u, p) => some ⟨p.nextNumber, u⟩
  | _, _ => none

variable {o : Office} {t : Task}

theorem expiries_attemptFinished (t : Task) : (o.attemptFinished t).expiries = o.expiries := by
  unfold attemptFinished
  split <;> rfl

theorem expiries_countEnd (l : Lane) : (o.countEnd l).expiries = o.expiries := by
  unfold countEnd
  split <;> rfl

/-- An execution adds to the expiries the one that it leaves. -/
theorem expiries_execute (o : Office) (t : Task) :
    (o.execute t).2.expiries = o.expiries ++ (o.expiryOf t).toList := by
  rcases acquired : o.acquire? t with _ | ⟨permit, o'⟩
  · have short : (o.shortage t).2.expiries = o.expiries := congrArg (·.expiries) (frame_shortage (o := o) t)
    simp only [execute_eq, expiryOf, acquired]
    rcases hs : o.shortage t with ⟨s, p⟩
    rw [hs] at short
    cases s with
    | expired u => exact congrArg (· ++ [_]) short
    | requeued | retried => exact short.trans (List.append_nil _).symm
  · have none : o.expiryOf t = none := by
      simp only [expiryOf, acquired]
    have taken : o'.expiries = o.expiries := congrArg (·.expiries) (frame_acquire? acquired)
    rw [none, Option.toList_none, List.append_nil]
    simp only [execute_eq, acquired]
    cases (o'.countStart t.lane).workers.start (o'.countStart t.lane).nextNumber with
    | error cause =>
      have refused : ((((o'.countStart t.lane).countEnd t.lane).releasePermit permit).fail t cause).expiries =
          ((o'.countStart t.lane).countEnd t.lane).expiries := congrArg (·.expiries) (frame_fail t cause)
      exact (refused.trans (expiries_countEnd t.lane)).trans taken
    | ok workers =>
      refine Eq.trans ?_ taken
      show (attemptStarted _ t).expiries = _
      unfold attemptStarted
      split <;> rfl

theorem expiries_finishSettlement (t : Task) (purpose : Purpose) (results : List RecipientResult) :
    (o.finishSettlement t purpose results).expiries = o.expiries := by
  cases purpose with
  | attempt kept =>
    have ended : ((o.settle t results).conclusionOfAttempt t kept).expiries = o.expiries :=
      congrArg (·.expiries) (frame_conclusionOfAttempt (o := o.settle t results) t kept)
    exact (expiries_attemptFinished t).trans ended
  | expiry | unroutable => exact congrArg (·.expiries) (frame_complete t)

theorem expiries_beginSettlement (n : Nat) (t : Task) (purpose : Purpose) (results : List RecipientResult) :
    (o.beginSettlement n t purpose results).expiries = o.expiries := by
  unfold beginSettlement
  split
  · exact expiries_finishSettlement t purpose results
  · rfl

theorem expiries_recordAccepted (o : Office) (n : Nat) : (o.recordAccepted n).expiries = o.expiries := by
  have recorded := o.records n
  generalize o.recordAccepted n = p at recorded ⊢
  cases recorded with
  | idle | more => rfl
  | last s r found next => exact expiries_finishSettlement (o := o.removeSettlement n) ..

theorem expiries_recordRefused (o : Office) (n : Nat) (message : String) :
    (o.recordRefused n message).expiries = o.expiries := by
  unfold recordRefused
  split
  · rfl
  · next s _ =>
    have ended := congrArg (·.expiries)
      (frame_abortAndFail (o := o.removeSettlement n) s.task (.persistence message))
    dsimp only
    split
    · exact (expiries_attemptFinished s.task).trans ended
    · exact ended

theorem expiries_collect (o : Office) (n : Nat) : (o.collect n).expiries = o.expiries := by
  have closed : ∀ a, (o.close a).expiries = o.expiries := fun a => expiries_countEnd a.task.lane
  have collected := o.collects n
  generalize o.collect n = p at collected ⊢
  cases collected with
  | idle => rfl
  | failed a cause found reported =>
    have failed := congrArg (·.expiries)
      (frame_failAttempt (o := (o.close a).releasePermit a.permit) a.task cause)
    exact (expiries_attemptFinished a.task).trans (failed.trans (closed a))
  | lost a outcome found reported lost pool => exact closed a
  | settled a outcome found reported kept =>
    exact (expiries_beginSettlement (o := (o.close a).answer a outcome) ..).trans (closed a)

theorem expiries_beginExpiry (o : Office) (n : Nat) :
    (o.beginExpiry n).expiries = o.expiries.filter (·.number ≠ n) := by
  rw [beginExpiry_eq, gaveUp?]
  cases found : o.expiries.find? (·.number = n) with
  | none =>
    have unfound := List.find?_eq_none.1 found
    refine (List.filter_eq_self.2 fun e he => ?_).symm
    simpa using unfound e he
  | some e => exact expiries_beginSettlement (o := { o with expiries := o.expiries.filter (·.number ≠ n) }) ..

theorem expiries_submit (o : Office) (s : Submission) : (o.submit s).2.expiries = o.expiries := by
  rcases submit_cases o s with ⟨answer, same, -⟩ | ⟨-, a, -, taken⟩
  · rw [same]
  · rw [taken]
    dsimp only
    split
    · exact expiries_beginSettlement (o := { (o.enter s).2 with nextNumber := o.nextNumber + 1 }) ..
    · rfl

end Office

/-- A tick adds to the expiries those that its executions leave. -/
theorem Ticking.Serves.expiries {o o' : Office} {ps : List (Office × Task)} (h : Serves o ps o') :
    o'.expiries = o.expiries ++ ps.filterMap fun p => p.1.expiryOf p.2 := by
  induction h with
  | done => exact (List.append_nil _).symm
  | @drop o p o'' bulk n excluded t r ps next invalid rest ih =>
    have same : (p.fail t r.cause).expiries = o.expiries :=
      congrArg (·.expiries) ((Office.frame_fail t r.cause).trans (Office.frame_nextTask? next))
    rw [ih, same]
  | @execute o p o'' bulk n excluded t ps next valid rest ih =>
    have polled : p.expiries = o.expiries := congrArg (·.expiries) (Office.frame_nextTask? next)
    rw [ih, Office.expiries_execute, polled, List.append_assoc]
    cases hp : p.expiryOf t with
    | none => simp [hp]
    | some e => simp [hp]

namespace World

open Office

variable {w : World} {h : Happening}

/-- The expiries that the executions of a happening leave. -/
def lapsed (w : World) (h : Happening) : List Expiry := (w.executed h).filterMap fun p => p.1.expiryOf p.2

/-- The expiries that a happening leaves as they were. -/
def lapsing (w : World) : Happening → List Expiry
  | .beginExpiry n => w.office.expiries.filter (·.number ≠ n)
  | .abandon numbers => w.office.expiries.filter (·.number ∉ numbers)
  | _ => w.office.expiries

/-- The expiries after a happening are those that it leaves and those of its executions. -/
theorem expiries_after (w : World) (h : Happening) :
    (w.after h).office.expiries = w.lapsing h ++ w.lapsed h := by
  have still : ∀ o : Office, o.expiries = w.office.expiries →
      o.expiries = w.office.expiries ++ ([] : List Expiry) := by
    intro o same
    rw [same, List.append_nil]
  have kept : ∀ o : Office, o.frame = w.office.frame →
      o.expiries = w.office.expiries ++ ([] : List Expiry) := by
    intro o frame
    exact still o (congrArg (·.expiries) frame)
  cases h with
  | submit s =>
    rw [after, office_submit]
    exact still _ (expiries_submit w.office s)
  | tick =>
    exact (Ticking.serves w.office.bulkBudget.1 w.office.lanes.total
      { office := { w.office with hold := w.office.bulkBudget.2 } }).expiries
  | turns bulk n report bulkStarted excluded =>
    exact (Ticking.serves bulk n
      { office := w.office, report := report, bulkStarted := bulkStarted, excluded := excluded }).expiries
  | wake n => exact kept _ (frame_wake n)
  | sendEnded n report => exact still _ rfl
  | collect n => exact still _ (expiries_collect w.office n)
  | beginExpiry n => exact (expiries_beginExpiry w.office n).trans (List.append_nil _).symm
  | recordAccepted n => exact still _ (expiries_recordAccepted w.office n)
  | recordRefused n message => exact still _ (expiries_recordRefused w.office n message)
  | register runner =>
    exact still _ (congrArg (·.expiries) (frame_withdraw
      (o := { w.office with registry := w.office.registry.register runner }) _))
  | abortRun t cause => exact still _ (congrArg (·.expiries) (frame_abortRun t cause))
  | failOutside place cause => exact kept _ (frame_useOutside place fun t => frame_fail t cause)
  | dropOutside place => exact kept _ (frame_useOutside place fun _ => rfl)
  | closeTimers => exact kept _ frame_closeTimers
  | emptyLanes => exact kept _ frame_emptyLanes
  | abandon numbers => exact (congrArg (·.expiries) (frame_abandon w.office numbers)).trans (List.append_nil _).symm
  | beginTick | unregister | pass | shift | readDaily | readWindow | stopAccepting | closeWorkers | takeSends
    | takeWaiters | sessionFailed | draw =>
    exact still _ rfl

/-- An expiry stays until it is taken up or let go of. -/
theorem expiry_kept {e : Expiry} (he : e ∈ w.office.expiries) (taken : h ≠ .beginExpiry e.number)
    (kept : h.abandons e.number = false) : e ∈ (w.after h).office.expiries := by
  rw [expiries_after]
  refine List.mem_append_left _ ?_
  cases h with
  | beginExpiry n => exact List.mem_filter.2 ⟨he, decide_eq_true fun same => taken (congrArg _ same.symm)⟩
  | abandon numbers => exact List.mem_filter.2 ⟨he, decide_eq_true (of_decide_eq_false kept)⟩
  | _ => exact he

end World

end Postroom
