import Postroom.Proofs.Executions
import Postroom.Proofs.Runs.Aborts

/-!
# Nothing is sent for a run that is not valid

Whatever way a task took back to a worker, from its lane, from a timer or out of an attempt with recipients
left, it is checked at the last moment: in the office in which an attempt starts, its run is the active one of
its job and no end of it is on record. Which run of a job is active only registrations and unregistrations of
the job decide. So no attempt of a run starts from when another one takes its place until it is registered
again, and none of a job from when it is unregistered until it is registered.

- `Office.LetsThrough`: an office in which a task may run.
- `World.active_after`: the active runs after a happening.
- `World.SendsValid`, `World.sendsValid`: what this means for all that follows.
-/

namespace Postroom

open Registry

namespace Registry

variable {r : Registry} {u : Runner}

/-- A run that is let through has no end on record. -/
theorem endOf_of_rejectionOf (h : r.rejectionOf u = none) : r.endOf u = none := by
  unfold rejectionOf at h
  split at h
  · cases h
  · next unended => exact unended

/-- A run that is not the active one of its job is not let through. -/
theorem rejectionOf_of_inactive (h : r.active.find? u.id ≠ some u.token) :
    r.rejectionOf u ≠ none := fun valid => h (active_of_rejectionOf valid)

end Registry

namespace Office

/-- The run of `t`, if it belongs to one, is the active one of its job, and has no end on record. -/
def LetsThrough (o : Office) (t : Task) : Prop :=
  ∀ u, t.runner = some u → o.registry.isActive u ∧ o.registry.endOf u = none

theorem letsThrough_of_validate {o : Office} {t : Task} (valid : o.registry.validate t = .ok ()) :
    o.LetsThrough t := by
  intro u runner
  have through : o.registry.rejectionOf u = none := validate_eq_ok.1 valid u runner
  constructor
  · rw [isActive, active_of_rejectionOf through]
    exact decide_eq_true rfl
  · exact endOf_of_rejectionOf through

end Office

namespace World

variable {w : World} {h : Happening} {u : Runner}

/-- The active runs after a happening. -/
def activeAfter (w : World) : Happening → Table RunnerId Nat
  | .register v => w.office.registry.active.insert v.id v.token
  | .unregister id => w.office.registry.active.erase id
  | _ => w.office.registry.active

theorem active_after (w : World) (h : Happening) :
    (w.after h).office.registry.active = w.activeAfter h := by
  rw [(w.proceeds h).tallies.active]
  cases h with
  | register v => rfl
  | unregister id => rfl
  | _ => exact active_noteEnd _

/-- A run that is not active becomes so only when it is registered. -/
theorem inactive_after (w : World) (h : Happening) (unregistered : h ≠ .register u)
    (inactive : w.office.registry.active.find? u.id ≠ some u.token) :
    (w.after h).office.registry.active.find? u.id ≠ some u.token := by
  rw [active_after]
  cases h with
  | register v =>
    rw [activeAfter, Table.find?_insert]
    by_cases same : v.id = u.id
    · rw [if_pos same]
      intro token
      -- the same job and the same token are the same run
      have whole : v = u := by
        cases v
        cases u
        cases same
        cases token
        rfl
      exact unregistered (congrArg _ whole)
    · rw [if_neg same]
      exact inactive
  | unregister id =>
    rw [activeAfter, Table.find?_erase]
    split
    · intro token
      cases token
    · exact inactive
  | _ => exact inactive

/-- A job without an active run gets one only when it is registered. -/
theorem unregistered_after {id : RunnerId} (w : World) (h : Happening)
    (unregistered : ∀ v, h = .register v → v.id ≠ id)
    (idle : w.office.registry.active.find? id = none) :
    (w.after h).office.registry.active.find? id = none := by
  rw [active_after]
  cases h with
  | register v =>
    rw [activeAfter, Table.find?_insert, if_neg (unregistered v rfl)]
    exact idle
  | unregister id' =>
    rw [activeAfter, Table.find?_erase]
    split
    · rfl
    · exact idle
  | _ => exact idle

theorem startsNone_of_inactive (inactive : w.office.registry.active.find? u.id ≠ some u.token) :
    StartsNone u w h := by
  obtain ⟨e, rejected⟩ := Option.ne_none_iff_exists'.1 (rejectionOf_of_inactive inactive)
  exact startsNone_of_rejectionOf rejected

/-- An attempt that starts is executed in an office that lets its task through. -/
theorem letsThrough_of_starts {a : Attempt} (starts : w.Starts h a) :
    ∃ o, (o, a.task) ∈ w.executed h ∧ o.attemptOf a.task = some a ∧ o.LetsThrough a.task := by
  obtain ⟨⟨o, t⟩, executed, attempt⟩ := List.mem_filterMap.1 (mem_started starts)
  have task : a.task = t := Office.task_attemptOf attempt
  subst task
  exact ⟨o, executed, attempt, Office.letsThrough_of_validate (validate_of_executed executed)⟩

/-- No attempt of a job starts. -/
def StartsNoneOf (id : RunnerId) (w : World) (h : Happening) : Prop :=
  ∀ a, w.Starts h a → a.task.runnerId ≠ some id

/-- What can follow in a world sends nothing for runs that are not valid. -/
structure SendsValid (w : World) : Prop where
  /-- An attempt that starts is executed in an office in which its run, if it has one, is the active one of
  its job and has no end on record. -/
  started : ∀ hs, Along (fun w h => ∀ a, w.Starts h a → ∃ o, (o, a.task) ∈ w.executed h ∧
    o.attemptOf a.task = some a ∧ o.LetsThrough a.task) w hs
  /-- From when `v` is registered, no attempt of another run `u` of its job starts until `u` is registered. -/
  superseded : ∀ u v hs, u.id = v.id → u ≠ v → (∀ h ∈ hs, h ≠ .register u) →
    Along (StartsNone u) (w.after (.register v)) hs
  /-- From when a job is unregistered, no attempt of it starts until a run of it is registered. -/
  unregistered : ∀ id hs, (∀ h ∈ hs, ∀ v, h = .register v → v.id ≠ id) →
    Along (StartsNoneOf id) (w.after (.unregister id)) hs

/-- A condition on happenings alone, along a history. -/
theorem along_of_mem {P : Happening → Prop} {hs : List Happening} (all : ∀ h ∈ hs, P h) (w : World) :
    Along (fun _ h => P h) w hs := by
  induction hs generalizing w with
  | nil => trivial
  | cons h hs ih =>
    exact ⟨all h List.mem_cons_self, ih (fun k hk => all k (List.mem_cons_of_mem h hk)) _⟩

/-- Whatever happens in whatever order, nothing is sent for a run that is not valid. -/
theorem sendsValid (w : World) : SendsValid w := by
  refine ⟨fun hs => along_of_forall (fun _ _ _ => letsThrough_of_starts) w hs, ?_, ?_⟩
  · intro u v hs job other others
    have replaced : (w.after (.register v)).office.registry.active.find? u.id ≠ some u.token := by
      rw [active_after, activeAfter, job, Table.find?_insert_self]
      intro token
      refine other ?_
      cases u
      cases v
      cases job
      cases token
      rfl
    exact along_of_step inactive_after (fun _ _ => startsNone_of_inactive)
      (along_of_mem others _) replaced
  · intro id hs others
    have gone : (w.after (.unregister id)).office.registry.active.find? id = none := by
      rw [active_after, activeAfter, Table.find?_erase_self]
    refine along_of_step (I := fun w => w.office.registry.active.find? id = none)
      unregistered_after ?_ (along_of_mem others _) gone
    intro w h idle a starts job
    -- the job would be that of the run of the attempt, which is not active
    obtain ⟨u, runner, rfl⟩ := Option.map_eq_some_iff.1 job
    refine startsNone_of_inactive ?_ a starts runner
    rw [idle]
    exact nofun

end World

end Postroom
