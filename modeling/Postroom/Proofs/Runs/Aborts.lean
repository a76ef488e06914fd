import Postroom.Proofs.Runs.Course

/-!
# Ended runs stay ended

Once a run of a registered job has been ended, its batches are turned away with the cause of its end, and no
attempt of it starts, until the job is unregistered or another run of the job is ended. The registry keeps one
record for each job, so the end of another run takes the place of the first. Even then the run stays out as
long as another one is the active run of the job.

- `World.KeepsRecord`, `World.LeavesOut`: the happenings that leave the record of a run, and the registration
  of another run, in place.
- `World.StaysEnded`, `World.staysEnded_after`: what the end of a run means for all that follows.
-/

namespace Postroom

open Registry

namespace World

variable {w : World} {h : Happening} {u : Runner} {c : Fault}

/-- The job of `u` is not unregistered, and no other run of it is ended. -/
def KeepsRecord (u : Runner) (w : World) (h : Happening) : Prop :=
  h ≠ .unregister u.id ∧ ∀ v c, w.aborts? h = some (v, c) → v.id = u.id → v = u

/-- The job of `u` is not unregistered, and `u` is not registered again. -/
def LeavesOut (u : Runner) (_ : World) (h : Happening) : Prop :=
  h ≠ .unregister u.id ∧ h ≠ .register u

/-- No attempt of `u` starts. -/
def StartsNone (u : Runner) (w : World) (h : Happening) : Prop :=
  ∀ a, w.Starts h a → a.task.runner ≠ some u

/-! ### One happening -/

theorem noted_of_aborts? (abort : w.aborts? h = some (u, c)) :
    w.noted h = w.office.registry.noteEnd (some (u, c)) := by
  unfold noted
  split
  · cases abort
  · cases abort
  · rw [abort]

theorem ended_noted (ended : w.office.registry.Ended u c) (keeps : KeepsRecord u w h) :
    (w.noted h).Ended u c := by
  unfold noted
  split
  · exact ended.register _
  · next id => exact ended.unregister fun same => keeps.1 (congrArg _ same)
  · exact ended.noteEnd keeps.2

theorem ended_after (w : World) (h : Happening) (keeps : KeepsRecord u w h)
    (ended : w.office.registry.Ended u c) : (w.after h).office.registry.Ended u c :=
  (ended_noted ended keeps).tallies (w.proceeds h).tallies

theorem superseded_noted (superseded : w.office.registry.Superseded u) (leaves : LeavesOut u w h) :
    (w.noted h).Superseded u := by
  unfold noted
  split
  · next v => exact superseded.register fun same => leaves.2 (congrArg _ same)
  · next id => exact superseded.unregister fun same => leaves.1 (congrArg _ same)
  · exact superseded.congr (by rw [active_noteEnd])

theorem superseded_after (w : World) (h : Happening) (leaves : LeavesOut u w h)
    (superseded : w.office.registry.Superseded u) : (w.after h).office.registry.Superseded u :=
  (superseded_noted superseded leaves).congr (by rw [(w.proceeds h).tallies.active])

/-- A run that is turned away starts no attempt. -/
theorem startsNone_of_rejectionOf {e : Rejection}
    (rejected : w.office.registry.rejectionOf u = some e) : StartsNone u w h := by
  intro a starts runner
  rw [validate_eq_ok.1 (validate_of_starts starts) u runner] at rejected
  cases rejected

/-! ### All that follows -/

/-- What the end of `u` because of `c` means for all that follows. -/
structure StaysEnded (u : Runner) (c : Fault) (w : World) : Prop where
  /-- As long as its record is kept, its batches are turned away with the cause of its end. -/
  recorded : ∀ hs, Along (KeepsRecord u) w hs → Along (StartsNone u) w hs ∧
    ∀ t, t.runner = some u →
      (w.run hs).office.registry.validate t = .error ⟨.aborted, Fault.abortedBy u.id c⟩
  /-- From when another run of the job is the active one, and until `u` is registered again, its batches are
  turned away, as those of a run that was replaced where the end of `u` is not on record any more. -/
  superseded : ∀ hs ks, (w.run hs).office.registry.Superseded u → Along (LeavesOut u) (w.run hs) ks →
    Along (StartsNone u) (w.run hs) ks ∧ ∀ t, t.runner = some u →
      (w.run (hs ++ ks)).office.registry.validate t =
        .error (match (w.run (hs ++ ks)).office.registry.endOf u with
          | some cause => ⟨.aborted, cause⟩
          | none => ⟨.stale, Fault.superseded u.id⟩)

/-- Once a run of a registered job is ended for the first time, it stays ended. -/
theorem staysEnded_after (w : World) (h : Happening) (u : Runner) (c : Fault)
    (registered : w.office.registry.active.contains u.id)
    (first : w.office.registry.endOf u = none) (abort : w.aborts? h = some (u, c)) :
    StaysEnded u c (w.after h) := by
  -- the end is noted, and attempts that finish do not take it back
  have ended : (w.after h).office.registry.Ended u c := by
    have noted : (w.noted h).Ended u c := by
      rw [noted_of_aborts? abort]
      exact .of_noteEnd registered first
    exact noted.tallies (w.proceeds h).tallies
  constructor
  · intro hs keeps
    have still := run_of_step ended_after keeps ended
    exact ⟨along_of_step ended_after (fun _ _ ended => startsNone_of_rejectionOf ended.rejectionOf)
      keeps ended, fun t runner => validate_eq_error runner still.rejectionOf⟩
  · intro hs ks superseded leaves
    have still := run_of_step superseded_after leaves superseded
    rw [← run_append] at still
    exact ⟨along_of_step superseded_after
      (fun _ _ superseded => startsNone_of_rejectionOf superseded.rejectionOf) leaves superseded,
      fun t runner => validate_eq_error runner still.rejectionOf⟩

/-- A task of a run of one job. -/
def taskOfRun (token : Nat) : Task where
  ticket := 0
  batch := ⟨⟨"b1"⟩, ⟨"example.org"⟩, .bulk, ⟨"s@example.org", 5, false⟩, some ⟨⟨"job"⟩, token⟩, none⟩
  id := ⟨"b1"⟩
  lane := .bulkFresh
  retries := 0
  recipients := [{ address := "a@example.org" }]

/-- The run of a registered job is ended. -/
theorem staysEnded_job :
    ((opening {} 4 0).run [.register ⟨⟨"job"⟩, 1⟩]).office.registry.active.contains ⟨"job"⟩ ∧
      ((opening {} 4 0).run [.register ⟨⟨"job"⟩, 1⟩]).office.registry.endOf ⟨⟨"job"⟩, 1⟩ = none ∧
      StaysEnded ⟨⟨"job"⟩, 1⟩ (.persistence "full")
        (((opening {} 4 0).run [.register ⟨⟨"job"⟩, 1⟩]).after
          (.abortRun (taskOfRun 1) (.persistence "full"))) :=
  ⟨by decide, by decide, staysEnded_after _ _ _ _ (by decide) (by decide) rfl⟩

/-- There is one record for each job: the end of a run that replaced another one takes the place of the
record of the first, whose batches are then turned away as replaced, not as ended. -/
theorem record_replaced :
    ¬ ∀ (config : Config) (workers : Nat) (wall : Calendar.Moment) (hs : List Happening) (h : Happening)
        (u : Runner) (c : Fault) (ks : List Happening) (t : Task),
      ((opening config workers wall).run hs).office.registry.active.contains u.id →
      ((opening config workers wall).run hs).office.registry.endOf u = none →
      ((opening config workers wall).run hs).aborts? h = some (u, c) →
      (∀ k ∈ ks, k ≠ .unregister u.id) → t.runner = some u →
      ((((opening config workers wall).run hs).after h).run ks).office.registry.validate t =
        .error ⟨.aborted, Fault.abortedBy u.id c⟩ := by
  intro claim
  have ended := claim {} 4 0 [.register ⟨⟨"job"⟩, 1⟩] (.abortRun (taskOfRun 1) (.persistence "full"))
    ⟨⟨"job"⟩, 1⟩ (.persistence "full")
    [.register ⟨⟨"job"⟩, 2⟩, .abortRun (taskOfRun 2) (.persistence "gone")] (taskOfRun 1)
    (by decide) (by decide) rfl (by simp) rfl
  have replaced : ((((opening {} 4 0).run [.register ⟨⟨"job"⟩, 1⟩]).after
      (.abortRun (taskOfRun 1) (.persistence "full"))).run
        [.register ⟨⟨"job"⟩, 2⟩, .abortRun (taskOfRun 2) (.persistence "gone")]).office.registry.validate
      (taskOfRun 1) = .error ⟨.stale, Fault.superseded ⟨"job"⟩⟩ := rfl
  rw [replaced] at ended
  cases ended

end World

end Postroom
