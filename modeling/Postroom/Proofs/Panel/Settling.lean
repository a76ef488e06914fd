import Postroom.Proofs.Panel.Gauges

/-!
# What the metrics repeat of settlements

The rest of the operations on the panel, those by which attempts and waits end. A settlement leads to a retry where it
leaves recipients, a send that failed where a later one could succeed; neither does where the run of its task was ended
meanwhile. Only an answer of which the rest is lost, and all that is let go of at once, end a batch uncounted.

- `Office.goesOn`, `Office.again`: whether a settlement leads to a retry, and to which if there is a settlement.
- `Office.resends`, `Office.sendsAgain`: whether a send that failed leads to a retry.
- `Office.follows_collect` and the like: each operation with the retries that it schedules.
-/

namespace Postroom

theorem Fault.isRetryable_of_isPersistence {f : Fault} (h : f.isPersistence) : f.isRetryable = false := by
  cases f with
  | resourceExhausted | transport => cases h
  | _ => rfl

namespace Office

open Panel

variable {lossless : Prop} {o o' : Office} {t : Task} {n : Nat}

/-! ### Operations away from the panel -/

theorem panel_attemptFinished (t : Task) : (o.attemptFinished t).panel = o.panel := by
  unfold attemptFinished
  split <;> rfl

theorem panel_settle (t : Task) (results : List RecipientResult) : (o.settle t results).panel = o.panel := by
  have same : (o.settle t results).desk.verdicts = o.desk.verdicts := congrArg Desk.verdicts (desk_settle t results)
  exact congrArg (fun vs => { o.panel with verdicts := vs }) same

theorem panel_answer (a : Attempt) (outcome : Outcome) : (o.answer a outcome).panel = o.panel := by
  have same : (o.answer a outcome).metrics.gauges = o.metrics.gauges :=
    (Metrics.gauges_failures a.task.domain.name RecipientOutcome.code _ _).trans (Metrics.gauges_delivered ..)
  exact congrArg (fun g => { o.panel with gauges := g }) same

/-! ### Settlements -/

/-- Whether a settlement leads to a retry once its results are final: it leaves recipients, and its run goes on. -/
def goesOn (o : Office) (s : Settlement) : Bool := s.purpose.kept ≠ [] && (o.registry.abortCause s.task).isNone

/-- The retry to which a settlement leads, if there is one and it does. -/
def again (o : Office) (z : Option Settlement) : List Task := (z.filter o.goesOn).toList.map (·.rest.next)

theorem map_filter_some {α β : Type} (p : α → Bool) (f : α → β) (a : α) :
    (↑(((some a).filter p).toList.map f) : Multiset β) = if p a then {f a} else 0 := by
  rw [Option.filter_some]
  cases p a <;> rfl

theorem again_some (o : Office) (s : Settlement) :
    (↑(o.again (some s)) : Multiset Task) = if o.goesOn s then {s.rest.next} else 0 := map_filter_some ..

theorem follows_conclusionOfAttempt (t : Task) (kept : List Recipient) :
    Follows lossless 0 (if decide (kept ≠ []) && (o.registry.abortCause t).isNone then
      {({ t with recipients := kept } : Task).next} else 0) o.panel (o.conclusionOfAttempt t kept).panel := by
  unfold conclusionOfAttempt
  cases o.registry.abortCause t with
  | some cause =>
    rw [Option.isNone_some, Bool.and_false]
    exact follows_fail t cause
  | none =>
    cases kept with
    | nil => exact follows_complete t
    | cons r kept => exact follows_scheduleRetry t (r :: kept)

theorem follows_finishSettlement (s : Settlement) :
    Follows lossless 0 (if o.goesOn s then {s.rest.next} else 0) o.panel
      (o.finishSettlement s.task s.purpose s.results).panel := by
  obtain ⟨n, t, purpose, written, left⟩ := s
  cases purpose with
  | attempt kept =>
    have concluded : Follows lossless 0 _ (o.settle t (written ++ left)).panel _ := follows_conclusionOfAttempt t kept
    rw [panel_settle] at concluded
    exact concluded.behind (.of_eq (panel_attemptFinished t))
  | expiry =>
    let count (m : Metrics) (r : RecipientResult) := m.recipientFailed t.domain.name r.code
    let counted : Office := { o with metrics := (written ++ left).foldl count o.metrics }
    have same : counted.panel = o.panel := congrArg (fun g => { o.panel with gauges := g })
      (Metrics.gauges_failures t.domain.name RecipientResult.code (written ++ left) o.metrics)
    have completed : Follows lossless 0 0 (counted.settle t (written ++ left)).panel _ := follows_complete t
    rw [panel_settle, same] at completed
    exact completed
  | unroutable =>
    have completed : Follows lossless 0 0 (o.settle t (written ++ left)).panel _ := follows_complete t
    rw [panel_settle] at completed
    exact completed

/-- A settlement that waits for its sink leads to no retry yet. -/
theorem follows_beginSettlement (s : Settlement) (fresh : s.written = []) :
    Follows lossless 0 ↑(o.again ((some s).filter fun z => !z.waits)) o.panel
      (o.beginSettlement s.number s.task s.purpose s.left).panel := by
  rw [beginSettlement_eq s fresh, Option.filter_some]
  cases s.waits with
  | true => exact .of_eq rfl
  | false =>
    show Follows lossless 0 ↑(o.again (some s)) _ _
    rw [again_some]
    exact follows_finishSettlement s

theorem follows_recordAccepted (n : Nat) :
    Follows lossless 0 ↑(o.again (o.recorded? n)) o.panel (o.recordAccepted n).panel := by
  have recorded := o.records n
  generalize o.recordAccepted n = p at recorded ⊢
  cases recorded with
  | idle none left =>
    rw [none]
    exact .refl _
  | more s r r' left found next =>
    rw [recorded?, found, Option.bind_some, next]
    exact .of_eq rfl
  | last s r found next =>
    rw [recorded?, found, Option.bind_some, next]
    have finished : Follows lossless 0 _ (o.removeSettlement n).panel _ :=
      follows_finishSettlement { s with written := s.written ++ [r], left := [] }
    rw [Settlement.results, List.append_nil] at finished
    exact again_some o _ ▸ finished

theorem follows_recordRefused (n : Nat) (message : String) :
    Follows lossless 0 0 o.panel (o.recordRefused n message).panel := by
  unfold recordRefused
  split
  · exact .refl _
  · next s _ =>
    have ended : Follows lossless 0 0 (o.removeSettlement n).panel _ :=
      follows_abortAndFail s.task (.persistence message)
    dsimp only
    split
    · exact ended.before (.of_eq (panel_attemptFinished s.task))
    · exact ended

/-! ### The ends of attempts and of waits -/

/-- Whether a send that failed with `cause` leads to a retry of `t`. -/
def resends (o : Office) (t : Task) (cause : Fault) : Bool :=
  cause.isRetryable && o.config.retry.hasBudget t.retries && (o.registry.abortCause t).isNone

/-- Whether the report of an attempt is that of a send that failed, and leads to a retry. -/
def sendsAgain (o : Office) (a : Attempt) : Bool :=
  match a.report with
  | some (.error cause) => o.resends a.task cause
  | _ => false

theorem follows_failAttempt (t : Task) (cause : Fault) :
    Follows lossless 0 (if o.resends t cause then {t.next} else 0) o.panel (o.failAttempt t cause).panel := by
  unfold failAttempt resends
  by_cases persistence : cause.isPersistence
  · rw [if_pos persistence, Fault.isRetryable_of_isPersistence persistence]
    exact follows_abortAndFail t cause
  · rw [if_neg persistence]
    cases o.registry.abortCause t with
    | some ended =>
      rw [Option.isNone_some, Bool.and_false]
      exact follows_fail t ended
    | none =>
      rw [Option.isNone_none, Bool.and_true]
      cases cause.isRetryable && o.config.retry.hasBudget t.retries with
      | true => exact follows_scheduleRetry t t.recipients
      | false => exact follows_fail t cause

/-- Where the report of an attempt is taken, its batch is let go of only if what follows is lost. -/
theorem follows_collect (n : Nat) (kept : lossless → ∀ a outcome, o.attempt? n = some a →
    a.report = some (.ok outcome) → o.loses a outcome = false) :
    Follows lossless 0 (↑(o.again ((o.answered? n).filter fun z => !z.waits)) +
      ↑(((o.attempt? n).filter o.sendsAgain).toList.map (·.task.next))) o.panel (o.collect n).panel := by
  have closed : ∀ a, Follows lossless 0 0 o.panel (o.close a).panel := fun a =>
    follows_countEnd (o := { o with attempts := o.attempts.filter (·.number ≠ a.number) }) a.task.lane
  have collected := o.collects n
  generalize o.collect n = p at collected ⊢
  cases collected with
  | idle unreported =>
    have none : (o.attempt? n).filter o.sendsAgain = none := by
      refine Option.filter_eq_none_iff.2 fun a found again => ?_
      rw [found, Option.bind_some] at unreported
      rw [sendsAgain, unreported] at again
      cases again
    rw [answered?_of_idle unreported, none]
    exact .refl _
  | failed a cause found reported =>
    obtain ⟨inFlight, metrics, rest⟩ := o.close_rest a
    have failed : Follows lossless 0 _ ((o.close a).releasePermit a.permit).panel _ := follows_failAttempt a.task cause
    have again : ((o.close a).releasePermit a.permit).resends a.task cause = o.sendsAgain a := by
      rw [rest, sendsAgain, reported]
      rfl
    rw [again] at failed
    rw [answered?_of_error found reported, found, map_filter_some]
    show Follows lossless 0 (0 + _) _ _
    rw [zero_add]
    exact ((closed a).before failed).behind (.of_eq (panel_attemptFinished a.task))
  | lost a outcome found reported lost pool =>
    have lets : ¬ lossless := fun holds => by
      rw [kept holds a outcome found reported] at lost
      cases lost
    rw [answered?_of_ok found reported, if_pos lost, found, map_filter_some, sendsAgain, reported]
    exact (closed a).before (follows_drop (o := { o.close a with pool := pool }) lets a.task)
  | settled a outcome found reported whole =>
    obtain ⟨inFlight, metrics, rest⟩ := o.close_rest a
    have begun : Follows lossless 0 _ ((o.close a).answer a outcome).panel _ :=
      follows_beginSettlement (o.settlementOf a outcome) rfl
    have again : ((o.close a).answer a outcome).again = o.again := by
      rw [rest]
      rfl
    rw [panel_answer, again] at begun
    rw [answered?_of_ok found reported, whole, found, map_filter_some, sendsAgain, reported]
    show Follows lossless 0 (_ + 0) _ _
    rw [add_zero]
    exact (closed a).before begun

theorem follows_beginExpiry (n : Nat) :
    Follows lossless 0 ↑(o.again ((o.gaveUp? n).filter fun z => !z.waits)) o.panel (o.beginExpiry n).panel := by
  rw [beginExpiry_eq]
  cases gaveUp : o.gaveUp? n with
  | none => exact .refl _
  | some s =>
    exact follows_beginSettlement (o := { o with expiries := o.expiries.filter (·.number ≠ n) }) s
      (gaveUp?_fresh gaveUp).1

theorem follows_abandon (lost : ¬ lossless) (numbers : List Nat) :
    Follows lossless 0 0 o.panel (o.abandon numbers).panel :=
  follows_dropAll lost (o.tasksOf numbers)

/-! ### Submission -/

/-- A batch that is entered has not ended. -/
theorem follows_enter (o : Office) (s : Submission) : Follows lossless 0 0 o.panel (o.enter s).2.panel := by
  have entered : (o.enter s).2.panel.verdicts = o.panel.verdicts ++ [none] := List.map_append
  refine Keeps.awake ⟨fun current => ⟨current.sound, current.depths, current.inFlight⟩, fun _ tallied well => ?_,
    rfl⟩ rfl
  rw [entered, List.countP_append]
  exact tallied well

theorem follows_submit (s : Submission) :
    Follows lossless 0 ↑(o.again ((o.turnedAway? s).filter fun z => !z.waits)) o.panel (o.submit s).2.panel := by
  unfold turnedAway?
  rcases submit_cases o s with ⟨answer, same, trace⟩ | ⟨-, ⟨id, _, x⟩, handle, taken⟩
  · rw [same]
    cases answer with
    | error cause => exact .refl _
    | ok a =>
      obtain ⟨id, handle, x⟩ := a
      obtain ⟨-, ended⟩ := trace _ rfl
      cases ended
      exact .refl _
  · cases handle
    rw [taken]
    dsimp only
    split
    · next unknown =>
      exact (follows_enter o s).before (follows_beginSettlement
        (o := { (o.enter s).2 with nextNumber := o.nextNumber + 1 }) ⟨o.nextNumber, (o.enter s).1, .unroutable, [],
          unroutableResults o.config.recipients (o.enter s).1⟩ rfl)
    · exact (follows_enter o s).before (follows_offer (o.enter s).1)

end Office

end Postroom
