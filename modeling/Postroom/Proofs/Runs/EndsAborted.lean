import Postroom.Proofs.Runs.Aborts
import Postroom.Proofs.Runs.UnderWay

/-!
# Attempts of an ended run end with it

An attempt that is under way when its run is ended goes on, and whatever its send comes to, its batch ends as
aborted: it neither ends well nor is it retried. Registrations and unregistrations of the job and the end of
its other attempts change nothing of that, since the record of the ended run outlives every attempt under way.

- `World.record_after`: the record outlives what happens to others.
- `World.Doomed`, `World.doomed_after`: what happens to an attempt of an ended run leaves it under way, or ends
  its batch with the run.
- `World.Spares`: the happenings that neither end another run of the job nor lose the attempt.
- `World.EndsAborted`, `World.endsAborted_after`: what the end of a run means for its attempts under way.
-/

namespace Postroom

namespace Registry

variable {r : Registry} {u : Runner} {c : Fault}

/-- A job of which attempts run keeps its record when it is unregistered. -/
theorem aborted_unregister {id id' : RunnerId} (runs : 1 ≤ r.runningAttempts id) :
    (r.unregister id').aborted.find? id = r.aborted.find? id := by
  have counted : r.running.contains id := by
    rw [Table.contains]
    cases none : r.running.find? id with
    | some n => rfl
    | none =>
      rw [runningAttempts, none] at runs
      cases runs
  rw [unregister]
  dsimp only
  split
  · rfl
  · next uncounted =>
    rw [Table.find?_erase, if_neg]
    rintro rfl
    exact uncounted counted

end Registry

namespace World

variable {w : World} {h : Happening} {u : Runner} {c : Fault} {n : Nat} {t : Task}

/-! ### The record -/

theorem running_noted (w : World) (h : Happening) :
    (w.noted h).running = w.office.registry.running := by
  unfold noted
  split
  · rfl
  · rfl
  · exact Registry.running_noteEnd _

/-- What happens ends no other run of the job of `u`. -/
def EndsNoOther (u : Runner) (w : World) (h : Happening) : Prop :=
  ∀ v c, w.aborts? h = some (v, c) → v.id = u.id → v = u

theorem record_noted (record : w.office.registry.aborted.find? u.id = some ⟨u.token, c⟩)
    (runs : 1 ≤ w.office.registry.runningAttempts u.id) (others : EndsNoOther u w h) :
    (w.noted h).aborted.find? u.id = some ⟨u.token, c⟩ := by
  unfold noted
  split
  · exact record
  · exact (Registry.aborted_unregister runs).trans record
  · exact Registry.record_noteEnd record others

/-- The record that an attempt under way needs outlives what happens to others. -/
theorem record_after (covered : w.Covered) {x : Holding} (hx : x ∈ w.holdings) (running : x.isRunning)
    (run : x.task.runner = some u) (other : ∀ n, h.number? = some n → x.number? ≠ some n)
    (record : (w.noted h).aborted.find? u.id = some ⟨u.token, c⟩) :
    (w.after h).office.registry.aborted.find? u.id = some ⟨u.token, c⟩ := by
  have job : x.task.runnerId = some u.id := congrArg (Option.map Runner.id) run
  rcases w.aborted_after h with same | ⟨y, finishes, same⟩
  · rw [same]
    exact record
  · rw [same, Registry.find?_finished]
    · exact record
    · -- the one that finishes is not x, so both are counted
      intro job'
      have apart : x ≠ y := by
        rintro rfl
        obtain ⟨n, works, number⟩ := finishes.number
        exact other n works number
      have both := two_le_runningAttempts covered hx finishes.live apart running finishes.running job job'
      rw [Registry.runningAttempts, running_noted]
      exact both

/-! ### One happening -/

/-- The attempt `n` at `t` is under way with the end of its run on record, or its batch has ended with the
run. -/
def Doomed (u : Runner) (c : Fault) (n : Nat) (t : Task) (w : World) : Prop :=
  w.UnderWay n t ∧ w.office.registry.aborted.find? u.id = some ⟨u.token, c⟩ ∨
    w.office.EndedWithRun t.ticket

/-- What happens to an attempt of a run whose end is noted leaves it under way, or ends its batch with the
run. The exception is an answer of which the rest is lost. -/
theorem doomed_after (regular : w.custody.Regular) (owned : w.custody.Owned) (covered : w.Covered)
    (underWay : w.UnderWay n t) (run : t.runner = some u)
    (record : (w.noted h).aborted.find? u.id = some ⟨u.token, c⟩) (kept : h.abandons n = false)
    (taken : ∀ a outcome, h = .collect n → w.office.attempt? n = some a →
      a.report = some (.ok outcome) → w.office.loses a outcome = false) :
    (w.after h).Doomed u c n t := by
  obtain ⟨x, hx, running, number, task⟩ := id underWay
  have unended : w.office.ledger.isOpen t.ticket := task ▸ isOpen_of_live owned hx
  by_cases own : h.number? = some n
  · have concluded := concludes regular underWay own
    generalize w.after h = w' at concluded ⊢
    cases concluded with
    | still _ underWay' registry =>
      refine .inl ⟨underWay', ?_⟩
      rw [registry]
      exact record
    | failed o cause ledger registry =>
      obtain ⟨r, d, ended⟩ := Office.endedWithRun_failAttempt (o := o) cause run
        (by rw [registry]; exact record) (by rw [ledger]; exact unended)
      refine .inr ⟨r, d, ?_⟩
      rw [Office.ledger_attemptFinished]
      exact ended
    | lost o a outcome ledger collected found reported lost =>
      rw [taken a outcome collected found reported] at lost
      cases lost
    | settled o kept results ledger registry =>
      refine .inr (Office.endedWithRun_finishSettlement (c := c) run ?_ ?_)
      · rw [registry]
        exact record
      · rw [ledger]
        exact unended
    | refused o message ledger =>
      obtain ⟨r, d, ended⟩ := Office.endedWithRun_abortAndFail (o := o) (.persistence message) run
        (by rw [ledger]; exact unended)
      refine .inr ⟨r, d, ?_⟩
      rw [Office.ledger_attemptFinished]
      exact ended
  · refine .inl ⟨underWay_after underWay own kept, ?_⟩
    refine record_after covered hx running (task ▸ run) ?_ record
    intro k works same
    rw [number] at same
    cases same
    exact own works

/-! ### All that follows -/

/-- What happens, as long as the attempt `n` at `t` is under way, ends no other run of the job of `u`, does not let
go of the attempt, and does not lose what follows from the answer of the attempt. -/
structure Spares (u : Runner) (n : Nat) (t : Task) (w : World) (h : Happening) : Prop where
  others : w.UnderWay n t → ∀ v c, w.aborts? h = some (v, c) → v.id = u.id → v = u
  kept : w.UnderWay n t → h.abandons n = false
  taken : w.UnderWay n t → ∀ a outcome, h = .collect n → w.office.attempt? n = some a →
    a.report = some (.ok outcome) → w.office.loses a outcome = false

/-- Whatever follows, the attempt `n` at `t` is under way, and so the one live task of its batch, until its
batch ends as aborted, with no live task from then on. -/
def EndsAborted (u : Runner) (n : Nat) (t : Task) (w : World) : Prop :=
  ∀ hs, Along (Spares u n t) w hs →
    (∃ x, (w.run hs).heldOf t.ticket = [x] ∧ x.isRunning ∧ x.number? = some n ∧ x.task = t) ∨
    (∃ r d, (w.run hs).office.verdict? (.ticket t.ticket) = some (.error (.aborted r d))) ∧
      (w.run hs).heldOf t.ticket = []

/-- An attempt that is doomed ends as aborted. -/
theorem endsAborted_of_doomed (regular : w.custody.Regular) (owned : w.custody.Owned) (covered : w.Covered)
    (run : t.runner = some u) (doomed : w.Doomed u c n t) : EndsAborted u n t w := by
  intro hs spared
  have all : (w.run hs).custody.Regular ∧ (w.run hs).custody.Owned ∧ (w.run hs).Covered ∧
      (w.run hs).Doomed u c n t := by
    refine run_of_step (P := Spares u n t)
      (I := fun w => w.custody.Regular ∧ w.custody.Owned ∧ w.Covered ∧ w.Doomed u c n t) ?_ spared
      ⟨regular, owned, covered, doomed⟩
    rintro w h spares ⟨regular, owned, covered, doomed⟩
    refine ⟨regular_after regular h, owned_after regular owned h, covered_after regular covered h, ?_⟩
    rcases doomed with ⟨underWay, record⟩ | ⟨r, d, ended⟩
    · obtain ⟨x, hx, running, number, rfl⟩ := id underWay
      have runs := one_le_runningAttempts covered hx running (congrArg (Option.map Runner.id) run)
      exact doomed_after regular owned covered underWay run
        (record_noted record runs (spares.others underWay)) (spares.kept underWay) (spares.taken underWay)
    · exact .inr ⟨r, d, verdict?_after regular h ended⟩
  obtain ⟨-, owned, -, ⟨⟨x, hx, running, number, rfl⟩, -⟩ | ⟨r, d, ended⟩⟩ := all
  · exact .inl ⟨x, heldOf_of_live owned hx, running, number, rfl⟩
  · exact .inr ⟨⟨r, d, ended⟩, heldOf_of_ended owned ended⟩

/-- Whatever happened before in a new office: an attempt that is under way when its run is ended ends as
aborted. -/
theorem endsAborted_after (config : Config) (workers : Nat) (wall : Calendar.Moment) (hs : List Happening)
    (h : Happening) (u : Runner) (c : Fault) (n : Nat) (t : Task)
    (underWay : ((opening config workers wall).run hs).UnderWay n t) (run : t.runner = some u)
    (abort : ((opening config workers wall).run hs).aborts? h = some (u, c)) :
    EndsAborted u n t (((opening config workers wall).run hs).after h) := by
  have regular := regular_run (regular_opening config workers wall) hs
  have owned := owned_run (regular_opening config workers wall) (owned_opening config workers wall) hs
  have covered := covered_run (regular_opening config workers wall) (covered_opening config workers wall) hs
  obtain ⟨d, record⟩ := Registry.exists_record_noteEnd
    ((opening config workers wall).run hs).office.registry u c
  rw [← noted_of_aborts? abort] at record
  refine endsAborted_of_doomed (regular_after regular h) (owned_after regular owned h)
    (covered_after regular covered h) run (doomed_after regular owned covered underWay run record ?_ ?_)
  · refine Bool.not_eq_true _ ▸ fun abandons => ?_
    obtain ⟨numbers, rfl, -⟩ := Happening.abandons_iff.1 abandons
    cases abort
  · -- an answer ends no run
    rintro a outcome rfl found reported
    rw [aborts?, found, Option.bind_some, Office.endedByReport, reported] at abort
    cases abort

/-- The attempt of `parcel` with its run, as far as the worker. -/
def parcelSent : List Happening := [.register ⟨⟨"job"⟩, 1⟩, .submit parcel, .tick]

/-- Its recipient is delivered. -/
def parcelDelivered : Outcome where
  recipients := [⟨{ address := "a@example.org" }, 250, "OK", .delivered⟩]

/-- The run of a parcel under way is ended and its job unregistered, before all is delivered. -/
theorem endsAborted_parcel :
    ((opening {} 4 0).run parcelSent).UnderWay 0 (parcel.task 0) ∧
      (parcel.task 0).runner = some ⟨⟨"job"⟩, 1⟩ ∧
      ((opening {} 4 0).run parcelSent).aborts? (.abortRun (parcel.task 0) (.persistence "full")) =
        some (⟨⟨"job"⟩, 1⟩, .persistence "full") ∧
      Along (Spares ⟨⟨"job"⟩, 1⟩ 0 (parcel.task 0))
        (((opening {} 4 0).run parcelSent).after (.abortRun (parcel.task 0) (.persistence "full")))
        [.unregister ⟨"job"⟩, .sendEnded 0 (.ok parcelDelivered), .collect 0] ∧
      EndsAborted ⟨⟨"job"⟩, 1⟩ 0 (parcel.task 0)
        (((opening {} 4 0).run parcelSent).after (.abortRun (parcel.task 0) (.persistence "full"))) := by
  have underWay : ((opening {} 4 0).run parcelSent).UnderWay 0 (parcel.task 0) :=
    ⟨.attempt ⟨0, parcel.task 0, ⟨⟨0, .v4 [0, 0, 0, 0], ⟨"example.org"⟩⟩, none⟩, none⟩,
      mem_holdings_attempt.2 List.mem_cons_self, rfl, rfl, rfl⟩
  refine ⟨underWay, rfl, rfl, ⟨?_, ?_, ?_, trivial⟩,
    endsAborted_after {} 4 0 parcelSent _ _ _ 0 (parcel.task 0) underWay rfl rfl⟩
  · exact ⟨fun _ _ _ abort => (nomatch abort), fun _ => rfl, fun _ _ _ collected => (nomatch collected)⟩
  · exact ⟨fun _ _ _ abort => (nomatch abort), fun _ => rfl, fun _ _ _ collected => (nomatch collected)⟩
  · refine ⟨fun _ _ _ abort => (nomatch abort), fun _ => rfl, ?_⟩
    intro _ a outcome _ found reported
    cases found
    cases reported
    decide

/-- An answer is lost where the cooldown that it brings would end beyond the calendar: then even an attempt of
an ended run does not end as aborted. -/
example : ((opening { addresses := { cooldownSeconds := twoTo 63 } } 4 0).run
    (parcelSent ++ [.abortRun (parcel.task 0) (.persistence "full"),
      .sendEnded 0 (.ok { sessionFailure := some 421 }), .collect 0])).office.verdict? (.ticket 0) =
    some (.error .cancelled) := by
  decide

end World

end Postroom
