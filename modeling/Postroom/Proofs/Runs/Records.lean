import Mathlib.Logic.Relation
import Postroom.Registry

/-!
# Records of ended runs

The registry keeps one record for each job: the run of it that was ended last. What each operation does to the
record of a job that has an active run, and to the verdict on its batches.

- `Registry.noteEnd`: the registry after the end of a run was reported.
- `Registry.Tallies`: attempts start and finish. The verdict on a registered job's runs stays the same.
- `Registry.Ended`: the record of a run. It is kept until the job is unregistered or another run of the job is
  ended.
- `Registry.Superseded`: another run of the job is the active one, which only a registration of the job changes.
-/

namespace Postroom.Registry

variable {r r' : Registry} {u : Runner} {c : Fault}

/-! ### Verdicts -/

theorem validate_eq_error {t : Task} {e : Rejection} (runner : t.runner = some u)
    (h : r.rejectionOf u = some e) : r.validate t = .error e := by
  rw [validate, runner, Option.bind_some, h]

theorem validate_eq_ok {t : Task} :
    r.validate t = .ok () ↔ ∀ u, t.runner = some u → r.rejectionOf u = none := by
  unfold validate
  cases t.runner with
  | none => simp
  | some u => cases h : r.rejectionOf u <;> simp [h]

/-- A run that is let through is the active one of its job. -/
theorem active_of_rejectionOf (h : r.rejectionOf u = none) : r.active.find? u.id = some u.token := by
  unfold rejectionOf at h
  split at h
  · cases h
  · split at h
    · next token found =>
      split at h
      · next same => rw [found, same]
      · cases h
    · cases h

/-- The verdict on a run is read off the two entries of its job. -/
theorem rejectionOf_congr (active : r'.active.find? u.id = r.active.find? u.id)
    (aborted : r'.aborted.find? u.id = r.aborted.find? u.id) : r'.rejectionOf u = r.rejectionOf u := by
  simp only [rejectionOf, endOf, active, aborted]

/-! ### The end of a run -/

/-- The registry once the end of a run is noted, where there is one. -/
def noteEnd (r : Registry) : Option (Runner × Fault) → Registry
  | some (u, c) => (r.abort? u c).getD r
  | none => r

theorem active_noteEnd (e : Option (Runner × Fault)) : (r.noteEnd e).active = r.active := by
  unfold noteEnd
  split
  · unfold abort?
    split <;> rfl
  · rfl

theorem running_noteEnd (e : Option (Runner × Fault)) : (r.noteEnd e).running = r.running := by
  unfold noteEnd
  split
  · unfold abort?
    split <;> rfl
  · rfl

/-- The end of another job's run leaves the record of a job alone. -/
theorem find?_noteEnd_of_ne {e : Option (Runner × Fault)} {id : RunnerId}
    (h : ∀ v d, e = some (v, d) → v.id ≠ id) :
    (r.noteEnd e).aborted.find? id = r.aborted.find? id := by
  unfold noteEnd
  split
  · next v d =>
    unfold abort?
    split
    · rfl
    · rw [Option.getD_some, Table.find?_insert, if_neg (h v d rfl)]
  · rfl

/-- Where the end of a run is noted, a record of that run stands. -/
theorem exists_record_noteEnd (r : Registry) (u : Runner) (c : Fault) :
    ∃ d, (r.noteEnd (some (u, c))).aborted.find? u.id = some ⟨u.token, d⟩ := by
  rw [noteEnd, abort?]
  by_cases noted : (r.aborted.find? u.id).any (·.token = u.token)
  · obtain ⟨⟨token, d⟩, found, same⟩ := (Option.any_eq_true _ _).1 noted
    rw [decide_eq_true_iff] at same
    subst same
    rw [if_pos noted]
    exact ⟨d, found⟩
  · rw [if_neg noted, Option.getD_some, Table.find?_insert_self]
    exact ⟨c, rfl⟩

/-- A record stays where the end of no other run of its job is noted. -/
theorem record_noteEnd (record : r.aborted.find? u.id = some ⟨u.token, c⟩) {e : Option (Runner × Fault)}
    (only : ∀ v d, e = some (v, d) → v.id = u.id → v = u) :
    (r.noteEnd e).aborted.find? u.id = some ⟨u.token, c⟩ := by
  -- a second end of the same run is not noted; another job has its own record
  by_cases own : ∃ d, e = some (u, d)
  · obtain ⟨d, rfl⟩ := own
    have noted : (r.aborted.find? u.id).any (·.token = u.token) := by simp [record]
    rw [Registry.noteEnd, abort?, if_pos noted]
    exact record
  · rw [find?_noteEnd_of_ne, record]
    intro v d he same
    exact own ⟨d, only v d he same ▸ he⟩

/-! ### Attempts that start and finish -/

/-- An attempt of some job starts or finishes. -/
inductive Tally : Registry → Registry → Prop where
  | started (r : Registry) (id : RunnerId) : Tally r (r.attemptStarted id)
  | finished (r : Registry) (id : RunnerId) : Tally r (r.attemptFinished id)

/-- Attempts start and finish. -/
def Tallies : Registry → Registry → Prop := Relation.ReflTransGen Tally

theorem Tallies.of_eq (h : r = r') : r.Tallies r' := h ▸ .refl

theorem active_attemptFinished (id : RunnerId) : (r.attemptFinished id).active = r.active := by
  unfold attemptFinished
  split <;> rfl

/-- Where the job of a record has an active run, the record outlives its attempts. -/
theorem find?_attemptFinished {id id' : RunnerId} (h : r.active.contains id) :
    (r.attemptFinished id').aborted.find? id = r.aborted.find? id := by
  unfold attemptFinished
  split
  · rfl
  · dsimp only
    split
    · rfl
    · next unregistered =>
      rw [Table.find?_erase, if_neg]
      rintro rfl
      exact unregistered h

theorem Tallies.active (h : r.Tallies r') : r'.active = r.active := by
  induction h with
  | refl => rfl
  | tail _ tally ih =>
    cases tally with
    | started => exact ih
    | finished id => exact (active_attemptFinished id).trans ih

theorem Tallies.find?_aborted (h : r.Tallies r') {id : RunnerId} (active : r.active.contains id) :
    r'.aborted.find? id = r.aborted.find? id := by
  induction h with
  | refl => rfl
  | tail tallies tally ih =>
    cases tally with
    | started => exact ih
    | finished id' =>
      refine (find?_attemptFinished ?_).trans ih
      rw [Tallies.active tallies]
      exact active

/-- What is let through after some attempts was let through before them. -/
theorem Tallies.validate_ok (h : r.Tallies r') {t : Task} (valid : r'.validate t = .ok ()) :
    r.validate t = .ok () := by
  rw [validate_eq_ok] at valid ⊢
  intro u hu
  -- u is active afterwards, so its job has been registered all along
  have active := active_of_rejectionOf (valid u hu)
  rw [h.active] at active
  have contains : r.active.contains u.id := by rw [Table.contains, active]; rfl
  rw [← valid u hu]
  exact (rejectionOf_congr (congrArg (·.find? u.id) h.active) (h.find?_aborted contains)).symm

/-! ### Ended and superseded runs -/

/-- The job of the run has an active run, and `u` is the run of it that was ended last, because of `c`. -/
structure Ended (r : Registry) (u : Runner) (c : Fault) : Prop where
  registered : r.active.contains u.id
  record : r.aborted.find? u.id = some ⟨u.token, c⟩

/-- Another run of the job is the active one. -/
def Superseded (r : Registry) (u : Runner) : Prop :=
  ∃ token, r.active.find? u.id = some token ∧ token ≠ u.token

theorem Ended.rejectionOf (h : r.Ended u c) :
    r.rejectionOf u = some ⟨.aborted, Fault.abortedBy u.id c⟩ := by
  have ended : r.endOf u = some (Fault.abortedBy u.id c) := by
    simp only [endOf, h.record, if_true]
  rw [Registry.rejectionOf, ended]

/-- A run that has ended is not let through. Where its job has an active run, its end is on record. -/
def TurnedAway (r : Registry) (u : Runner) : Prop :=
  r.rejectionOf u ≠ none ∧ (r.active.contains u.id → ∃ c, r.endOf u = some (Fault.abortedBy u.id c))

/-- The end of a run is noted, and then attempts start and finish. -/
theorem TurnedAway.of_tallies (tallies : (r.noteEnd (some (u, c))).Tallies r') : r'.TurnedAway u := by
  have active : r'.active = r.active := tallies.active.trans (active_noteEnd _)
  have recorded : r'.active.contains u.id → ∃ d, r'.endOf u = some (Fault.abortedBy u.id d) := by
    intro registered
    obtain ⟨d, record⟩ := exists_record_noteEnd r u c
    have still : (r.noteEnd (some (u, c))).active.contains u.id := by
      rwa [active_noteEnd, ← active]
    have kept := tallies.find?_aborted still
    refine ⟨d, ?_⟩
    rw [endOf, kept, record]
    exact if_pos rfl
  refine ⟨fun through => ?_, recorded⟩
  -- a run that is let through is active, and then its end is on record
  have registered : r'.active.contains u.id := by
    rw [Table.contains, active_of_rejectionOf through]
    rfl
  obtain ⟨d, ended⟩ := recorded registered
  rw [Registry.rejectionOf, ended] at through
  cases through

theorem Superseded.rejectionOf (h : r.Superseded u) : r.rejectionOf u =
    some (match r.endOf u with
      | some cause => ⟨.aborted, cause⟩
      | none => ⟨.stale, Fault.superseded u.id⟩) := by
  obtain ⟨token, active, other⟩ := h
  unfold Registry.rejectionOf
  cases r.endOf u with
  | some cause => rfl
  | none => simp only [active, if_neg other]

/-- The first end of a run is the one that is recorded. -/
theorem Ended.of_noteEnd (registered : r.active.contains u.id) (first : r.endOf u = none) :
    (r.noteEnd (some (u, c))).Ended u c := by
  -- a record of this run would be its end
  have unnoted : ¬ (r.aborted.find? u.id).any (·.token = u.token) := by
    intro noted
    obtain ⟨record, found, same⟩ := (Option.any_eq_true _ _).1 noted
    rw [decide_eq_true_iff] at same
    simp [endOf, found, same] at first
  refine ⟨by rw [active_noteEnd]; exact registered, ?_⟩
  rw [noteEnd, abort?, if_neg unnoted, Option.getD_some, Table.find?_insert_self]

theorem Ended.noteEnd (h : r.Ended u c) {e : Option (Runner × Fault)}
    (only : ∀ v d, e = some (v, d) → v.id = u.id → v = u) : (r.noteEnd e).Ended u c :=
  ⟨by rw [active_noteEnd]; exact h.registered, record_noteEnd h.record only⟩

theorem Ended.tallies (h : r.Ended u c) (tallies : r.Tallies r') : r'.Ended u c :=
  ⟨by rw [tallies.active]; exact h.registered, (tallies.find?_aborted h.registered).trans h.record⟩

theorem Ended.register (h : r.Ended u c) (v : Runner) : (r.register v).Ended u c := by
  refine ⟨?_, h.record⟩
  rw [Registry.register, Table.contains, Table.find?_insert]
  split
  · rfl
  · exact h.registered

theorem Ended.unregister (h : r.Ended u c) {id : RunnerId} (other : id ≠ u.id) :
    (r.unregister id).Ended u c := by
  constructor
  · rw [Registry.unregister, Table.contains, Table.find?_erase, if_neg other]
    exact h.registered
  · unfold Registry.unregister
    dsimp only
    split
    · exact h.record
    · rw [Table.find?_erase, if_neg other]
      exact h.record

theorem Superseded.congr (h : r.Superseded u)
    (same : r'.active.find? u.id = r.active.find? u.id) : r'.Superseded u := by
  obtain ⟨token, active, other⟩ := h
  exact ⟨token, same.trans active, other⟩

theorem Superseded.register (h : r.Superseded u) {v : Runner} (other : v ≠ u) :
    (r.register v).Superseded u := by
  by_cases same : v.id = u.id
  · refine ⟨v.token, ?_, fun token => other ?_⟩
    · rw [Registry.register, ← same, Table.find?_insert_self]
    · cases v
      cases u
      cases same
      cases token
      rfl
  · refine h.congr ?_
    rw [Registry.register, Table.find?_insert, if_neg same]

theorem Superseded.unregister (h : r.Superseded u) {id : RunnerId} (other : id ≠ u.id) :
    (r.unregister id).Superseded u :=
  h.congr (by rw [Registry.unregister, Table.find?_erase, if_neg other])

end Postroom.Registry
