import Postroom.Proofs.Runs.Coverage
import Postroom.Proofs.Tables

/-!
# Records of ended runs are reclaimed

The record of an ended run is kept for its job while a run of the job is active and for its attempts while any are
running. It goes when both are over, at the unregistration of the job or at the end of its last attempt, whichever
comes last. So a job of which nothing is active and nothing runs has no record, provided that none is made then: an
attempt that ends its run is still running at that time, but a refused result of a batch that never got to an
attempt, or the end of a run by a caller, can come when both are over already, and nothing takes such a record back.

- `Registry.Tidy`: a record is kept only for a job that is active or running. `Registry.Tidy.tallies`: attempts that
  start and finish keep it so.
- `World.NotesInTime`: an end that no attempt reports is noted in time.
- `World.Reclaims`: a job starts anew. `World.reclaims_run`: after every history with all ends noted in time.
-/

namespace Postroom

namespace Registry

variable {r r' : Registry} {u : Runner} {id : RunnerId}

/-- The job has an active run, or attempts of it are running. -/
def InUse (r : Registry) (id : RunnerId) : Prop := r.active.contains id ∨ r.running.contains id

/-- No count of running attempts is kept at nothing, and a job that is not in use has no record. -/
structure Tidy (r : Registry) : Prop where
  counts : ∀ id, r.running.find? id ≠ some 0
  reclaimed : ∀ id, r.aborted.contains id → r.InUse id

/-- Where every count is kept above nothing, a job is counted if attempts of it are running. -/
theorem contains_running_iff (tidy : r.Tidy) : r.running.contains id ↔ 1 ≤ r.runningAttempts id := by
  rw [Table.contains, runningAttempts]
  cases found : r.running.find? id with
  | none => exact ⟨fun counted => absurd counted Bool.false_ne_true, fun one => absurd one (Nat.not_succ_le_zero 0)⟩
  | some n =>
    have some_zero := tidy.counts id
    rw [found, ne_eq, Option.some.injEq] at some_zero
    exact ⟨fun _ => Nat.one_le_iff_ne_zero.2 some_zero, fun _ => rfl⟩

theorem Tidy.register (tidy : r.Tidy) (v : Runner) : (r.register v).Tidy := by
  refine ⟨tidy.counts, fun id recorded => ?_⟩
  exact (tidy.reclaimed id recorded).imp_left fun active => Table.contains_insert_iff.2 (.inr active)

theorem Tidy.unregister (tidy : r.Tidy) (id : RunnerId) : (r.unregister id).Tidy := by
  refine ⟨tidy.counts, fun id' recorded => ?_⟩
  unfold Registry.unregister at recorded ⊢
  dsimp only at recorded
  split at recorded
  · next running =>
    -- the job goes on with its running attempts
    by_cases same : id = id'
    · exact .inr (same ▸ running)
    · exact (tidy.reclaimed id' recorded).imp_left fun active => Table.contains_erase_iff.2 ⟨same, active⟩
  · obtain ⟨other, old⟩ := Table.contains_erase_iff.1 recorded
    exact (tidy.reclaimed id' old).imp_left fun active => Table.contains_erase_iff.2 ⟨other, active⟩

/-- The end of a run is noted in time where its job is in use. -/
theorem Tidy.noteEnd (tidy : r.Tidy) {e : Option (Runner × Fault)}
    (inTime : ∀ u c, e = some (u, c) → r.InUse u.id) : (r.noteEnd e).Tidy := by
  constructor
  · rw [running_noteEnd]
    exact tidy.counts
  · intro id recorded
    rw [InUse, active_noteEnd, running_noteEnd]
    by_cases own : ∃ u c, e = some (u, c) ∧ u.id = id
    · obtain ⟨u, c, noted, rfl⟩ := own
      exact inTime u c noted
    · rw [Table.contains, find?_noteEnd_of_ne fun v d he same => own ⟨v, d, he, same⟩] at recorded
      exact tidy.reclaimed id recorded

theorem Tidy.attemptStarted (tidy : r.Tidy) (id : RunnerId) : (r.attemptStarted id).Tidy := by
  constructor
  · intro id'
    rw [Registry.attemptStarted, Table.find?_insert]
    split
    · exact fun h => absurd (Option.some.inj h) (Nat.succ_ne_zero _)
    · exact tidy.counts id'
  · intro id' recorded
    exact (tidy.reclaimed id' recorded).imp_right fun running => Table.contains_insert_iff.2 (.inr running)

/-- The last attempt of a job takes the record with it, unless a run of the job is active. -/
theorem Tidy.attemptFinished (tidy : r.Tidy) (id : RunnerId) : (r.attemptFinished id).Tidy := by
  unfold Registry.attemptFinished
  split
  · next more =>
    constructor
    · intro id'
      rw [Table.find?_insert]
      split
      · exact fun h => absurd (Option.some.inj h) (Nat.sub_ne_zero_of_lt more)
      · exact tidy.counts id'
    · intro id' recorded
      exact (tidy.reclaimed id' recorded).imp_right fun running => Table.contains_insert_iff.2 (.inr running)
  · constructor
    · intro id'
      rw [Table.find?_erase]
      split
      · rintro ⟨⟩
      · exact tidy.counts id'
    · intro id' recorded
      dsimp only at recorded
      split at recorded
      · next active =>
        by_cases same : id = id'
        · exact .inl (same ▸ active)
        · exact (tidy.reclaimed id' recorded).imp_right fun running => Table.contains_erase_iff.2 ⟨same, running⟩
      · obtain ⟨other, old⟩ := Table.contains_erase_iff.1 recorded
        exact (tidy.reclaimed id' old).imp_right fun running => Table.contains_erase_iff.2 ⟨other, running⟩

theorem Tidy.tallies (tidy : r.Tidy) (h : r.Tallies r') : r'.Tidy := by
  induction h with
  | refl => exact tidy
  | tail _ tally ih =>
    cases tally with
    | started id => exact ih.attemptStarted id
    | finished id => exact ih.attemptFinished id

end Registry

namespace World

open Registry Usage

variable {w : World} {h : Happening} {id : RunnerId}

/-- Where the end of a run is noted that no attempt reports, its job is in use: when a caller ends the run, and when
the sink refuses a result of a batch that got to no attempt. -/
def NotesInTime (w : World) : Happening → Prop
  | .abortRun t _ => ∀ u, t.runner = some u → w.office.registry.InUse u.id
  | .recordRefused n _ => ∀ s u, w.office.settlement? n = some s → (∀ kept, s.purpose ≠ .attempt kept) →
      s.task.runner = some u → w.office.registry.InUse u.id
  | _ => True

/-- A job of which an attempt is under way is in use. -/
theorem inUse_of_underWay (tidy : w.office.registry.Tidy) (covered : w.Covered) {x : Holding} {u : Runner}
    (hx : x ∈ w.holdings) (runs : x.isRunning) (run : x.task.runner = some u) :
    w.office.registry.InUse u.id :=
  .inr ((contains_running_iff tidy).2 (one_le_runningAttempts covered hx runs (congrArg (Option.map Runner.id) run)))

/-- Every end of a run is noted in time. -/
theorem inUse_of_aborts? (tidy : w.office.registry.Tidy) (covered : w.Covered) (inTime : NotesInTime w h)
    {u : Runner} {c : Fault} (abort : w.aborts? h = some (u, c)) : w.office.registry.InUse u.id := by
  cases h with
  | abortRun t cause =>
    obtain ⟨v, run, same⟩ := Option.map_eq_some_iff.1 abort
    cases same
    exact inTime u run
  | collect n =>
    obtain ⟨a, found, ended⟩ := Option.bind_eq_some_iff.1 abort
    have underWay := mem_holdings_attempt.2 (List.mem_of_find?_eq_some found)
    have run : a.task.runner = some u := by
      unfold Office.endedByReport at ended
      split at ended
      · next cause _ =>
        unfold Office.endedByFault at ended
        split at ended
        · obtain ⟨v, run, same⟩ := Option.map_eq_some_iff.1 ended
          cases same
          exact run
        · cases ended
      · cases ended
      · cases ended
    exact inUse_of_underWay (x := .attempt a) tidy covered underWay rfl run
  | recordRefused n message =>
    obtain ⟨s, found, ended⟩ := Option.bind_eq_some_iff.1 abort
    obtain ⟨v, run, same⟩ := Option.map_eq_some_iff.1 ended
    cases same
    have live := mem_holdings_settlement.2 (List.mem_of_find?_eq_some found)
    obtain ⟨k, t, purpose, written, left⟩ := s
    cases purpose with
    | attempt kept => exact inUse_of_underWay (x := .settlement _) tidy covered live rfl run
    | expiry => exact inTime _ u found nofun run
    | unroutable => exact inTime _ u found nofun run
  | _ => cases abort

theorem tidy_after (covered : w.Covered) (tidy : w.office.registry.Tidy) (inTime : NotesInTime w h) :
    (w.after h).office.registry.Tidy := by
  have noted : (w.noted h).Tidy := by
    unfold noted
    split
    · exact tidy.register _
    · exact tidy.unregister _
    · exact tidy.noteEnd fun u c abort => inUse_of_aborts? tidy covered inTime abort
  exact noted.tallies (w.proceeds h).tallies

theorem tidy_opening (config : Config) (workers : Nat) (wall : Calendar.Moment) :
    (opening config workers wall).office.registry.Tidy :=
  ⟨fun _ none => (nomatch none), fun _ recorded => (nomatch recorded)⟩

theorem tidy_run (regular : w.custody.Regular) (covered : w.Covered) (tidy : w.office.registry.Tidy)
    {hs : List Happening} (inTime : Along NotesInTime w hs) : (w.run hs).office.registry.Tidy := by
  have all : (w.run hs).custody.Regular ∧ (w.run hs).Covered ∧ (w.run hs).office.registry.Tidy := by
    refine run_of_step (P := NotesInTime)
      (I := fun w => w.custody.Regular ∧ w.Covered ∧ w.office.registry.Tidy) ?_ inTime ⟨regular, covered, tidy⟩
    rintro w h inTime ⟨regular, covered, tidy⟩
    exact ⟨regular_after regular h, covered_after regular covered h, tidy_after covered tidy inTime⟩
  exact all.2.2

/-! ### Jobs that start anew -/

/-- A job has no record: the batches of any run of it are turned away since the job is not registered, and a run of it
that is registered has no record to begin with and is let through. -/
structure Reclaims (w : World) (id : RunnerId) : Prop where
  unrecorded : w.office.registry.aborted.find? id = none
  rejected : ∀ t u, t.runner = some u → u.id = id →
    w.office.registry.validate t = .error ⟨.unregistered, Fault.unregistered id⟩
  clean : ∀ v, v.id = id → (w.after (.register v)).office.registry.aborted.find? id = none ∧
    ∀ t, t.runner = some v → (w.after (.register v)).office.registry.validate t = .ok ()

theorem reclaims_of_unrecorded (unregistered : w.office.registry.active.find? id = none)
    (unrecorded : w.office.registry.aborted.find? id = none) : w.Reclaims id := by
  refine ⟨unrecorded, ?_, ?_⟩
  · rintro t u run rfl
    refine validate_eq_error run ?_
    rw [rejectionOf, endOf, unrecorded, unregistered]
  · rintro v rfl
    have registry : (w.after (.register v)).office.registry = w.office.registry.register v :=
      congrArg (·.registry) (Office.frame_withdraw
        (o := { w.office with registry := w.office.registry.register v }) _)
    rw [registry]
    refine ⟨unrecorded, fun t run => validate_eq_ok.2 fun u run' => ?_⟩
    cases run.symm.trans run'
    have record : (w.office.registry.register v).aborted.find? v.id = none := unrecorded
    rw [rejectionOf, endOf, record, Registry.register, Table.find?_insert_self]
    exact if_pos rfl

/-- Where nothing is lost, the registry counts exactly what is under way. -/
theorem runningAttempts_of_losesNothing (config : Config) (workers : Nat) (wall : Calendar.Moment) {hs : List Happening}
    (kept : Along LosesNothing (opening config workers wall) hs) (id : RunnerId) :
    ((opening config workers wall).run hs).office.registry.runningAttempts id =
      ((opening config workers wall).run hs).office.runningTasks.countP (·.runnerId = some id) := by
  have all : ((opening config workers wall).run hs).custody.Regular ∧
      (((opening config workers wall).run hs).office.usage 0).Accounted :=
    run_of_step (P := LosesNothing) (I := fun w => w.custody.Regular ∧ (w.office.usage 0).Accounted)
      (fun w h kept both => ⟨regular_after both.1 h, both.2.draws (draws_after both.1 kept)⟩) kept
      ⟨regular_opening config workers wall, accounted_opening config workers wall⟩
  have counted := all.2.running id
  rw [tasks_usage, Multiset.coe_countP] at counted
  exact counted

/-- After any history of a new office in which every end is noted in time: a job without an active run and without
running attempts starts anew. Running are those that the registry counts, which, where nothing was lost, are those
that are under way. -/
theorem reclaims_run (config : Config) (workers : Nat) (wall : Calendar.Moment) (hs : List Happening)
    (inTime : Along NotesInTime (opening config workers wall) hs) (id : RunnerId)
    (unregistered : ((opening config workers wall).run hs).office.registry.active.find? id = none)
    (idle : ((opening config workers wall).run hs).office.registry.runningAttempts id = 0 ∨
      Along LosesNothing (opening config workers wall) hs ∧
        ∀ t ∈ ((opening config workers wall).run hs).office.runningTasks, t.runnerId ≠ some id) :
    ((opening config workers wall).run hs).Reclaims id := by
  have tidy := tidy_run (regular_opening config workers wall) (covered_opening config workers wall)
    (tidy_opening config workers wall) inTime
  have none : ((opening config workers wall).run hs).office.registry.runningAttempts id = 0 := by
    rcases idle with none | ⟨kept, nobody⟩
    · exact none
    · rw [runningAttempts_of_losesNothing config workers wall kept, List.countP_eq_zero]
      exact fun t ht job => nobody t ht (of_decide_eq_true job)
  refine reclaims_of_unrecorded unregistered (Table.find?_eq_none_of_not_contains fun recorded => ?_)
  rcases tidy.reclaimed id recorded with active | running
  · rw [Table.contains, unregistered] at active
    cases active
  · have some := (contains_running_iff tidy).1 running
    omega

/-- The run of a parcel under way is ended and its job unregistered, and then the attempt fails. -/
def parcelGivenUp : List Happening :=
  [.register ⟨⟨"job"⟩, 1⟩, .submit parcel, .tick, .abortRun (parcel.task 0) (.persistence "full"),
    .unregister ⟨"job"⟩, .sendEnded 0 (.error (.transport (.connectionLost "gone"))), .collect 0]

/-- With the attempt goes the record of its run, and the job starts anew. -/
theorem reclaims_parcel :
    Along NotesInTime (opening {} 4 0) parcelGivenUp ∧
      ((opening {} 4 0).run parcelGivenUp).office.registry.active.find? ⟨"job"⟩ = none ∧
      ((opening {} 4 0).run parcelGivenUp).office.registry.runningAttempts ⟨"job"⟩ = 0 ∧
      ((opening {} 4 0).run parcelGivenUp).Reclaims ⟨"job"⟩ := by
  have inTime : Along NotesInTime (opening {} 4 0) parcelGivenUp := by
    refine ⟨trivial, trivial, trivial, fun u run => ?_, trivial, trivial, trivial, trivial⟩
    cases run
    exact .inl rfl
  have unregistered : ((opening {} 4 0).run parcelGivenUp).office.registry.active.find? ⟨"job"⟩ = none := by decide
  have idle : ((opening {} 4 0).run parcelGivenUp).office.registry.runningAttempts ⟨"job"⟩ = 0 := by decide
  exact ⟨inTime, unregistered, idle, reclaims_run {} 4 0 parcelGivenUp inTime _ unregistered (.inl idle)⟩

/-- A result refused for a batch that gets to no attempt leaves a record that nothing takes back. -/
example : ((opening {} 4 0).run [.submit { parcel with domain := .unroutable, sink := some "book" },
    .recordRefused 0 "full"]).office.registry.aborted.contains ⟨"job"⟩ := by decide

end World

end Postroom
