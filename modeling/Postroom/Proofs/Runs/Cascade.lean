import Postroom.Proofs.Desk.Course
import Postroom.Proofs.Queue.Withdrawal
import Postroom.Proofs.Runs.EndsAborted
import Postroom.Proofs.Tables

/-!
# The cascade of the end of a run

When a run is ended for the first time, exactly its queued tasks are taken out of the lanes, and their batches end
with the run. When a run is registered, exactly the queued tasks of the other runs of its job are taken out and handed
to the caller, with their batches open. All other queued tasks stay where they are, in their order. A second end of
the same run does nothing at all, for as long as the first one is on record: until the job is unregistered, another
run of it is ended, or the last running attempt of the job ends while no run of the job is active.

- `World.aborted_by`: whatever ends a run does so in an office with the lanes, the ledger and the runs of before.
- `World.EndsLast`: the happening that takes the record of an unregistered job with it.
- `World.Cascades`, `World.cascades_run`: what ends, registrations and unregistrations do to the queued tasks.
-/

namespace Postroom

/-- The task belongs to another run of the job of `v`. -/
def Task.replacedBy (t : Task) (v : Runner) : Bool := t.runner.any fun u => u.id = v.id && u.token ≠ v.token

theorem Task.replacedBy_eq (t : Task) (v : Runner) : (t.ownedByJob v.id && !t.ownedBy v) = t.replacedBy v := by
  unfold ownedByJob ownedBy runnerId replacedBy
  show (decide (t.runner.map Runner.id = some v.id) && !decide (t.runner = some v)) = _
  cases t.runner with
  | none => rfl
  | some u =>
    obtain ⟨id, token⟩ := u
    obtain ⟨id', token'⟩ := v
    by_cases job : id = id' <;> by_cases run : token = token' <;> simp [job, run]

namespace Registry

variable {r : Registry} {u : Runner} {c : Fault}

/-- The end of a run that is not on record is noted. -/
theorem exists_abort? (first : r.endOf u = none) (c : Fault) : ∃ r', r.abort? u c = some r' := by
  unfold abort?
  split
  · next noted =>
    obtain ⟨record, found, same⟩ := (Option.any_eq_true _ _).1 noted
    rw [decide_eq_true_iff] at same
    simp [endOf, found, same] at first
  · exact ⟨_, rfl⟩

/-- The end of a run that is on record is not noted again. -/
theorem abort?_of_record (record : r.aborted.find? u.id = some ⟨u.token, c⟩) (d : Fault) : r.abort? u d = none := by
  rw [abort?, record]
  exact if_pos (decide_eq_true rfl)

theorem record_unregister {id : RunnerId} (other : id ≠ u.id)
    (record : r.aborted.find? u.id = some ⟨u.token, c⟩) :
    (r.unregister id).aborted.find? u.id = some ⟨u.token, c⟩ := by
  unfold unregister
  dsimp only
  split
  · exact record
  · rw [Table.find?_erase, if_neg other]
    exact record

/-- A run that has no record gets none where records only go. -/
theorem endOf_of_gone {r' : Registry}
    (gone : r'.aborted.find? u.id = r.aborted.find? u.id ∨ r'.aborted.find? u.id = none)
    (first : r.endOf u = none) : r'.endOf u = none := by
  rcases gone with same | gone
  · rw [endOf, same]
    exact first
  · rw [endOf, gone]

theorem endOf_unregister {id : RunnerId} (first : r.endOf u = none) : (r.unregister id).endOf u = none := by
  refine endOf_of_gone ?_ first
  unfold unregister
  dsimp only
  split
  · exact .inl rfl
  · rw [Table.find?_erase]
    split
    · exact .inr rfl
    · exact .inl rfl

/-- A run that has no record gets none by the ends of other runs. -/
theorem endOf_noteEnd {e : Option (Runner × Fault)} (others : ∀ d, e ≠ some (u, d)) (first : r.endOf u = none) :
    (r.noteEnd e).endOf u = none := by
  by_cases job : ∃ v d, e = some (v, d) ∧ v.id = u.id
  · obtain ⟨v, d, rfl, job⟩ := job
    obtain ⟨d', record⟩ := exists_record_noteEnd r v d
    rw [job] at record
    rw [endOf, record]
    refine if_neg fun token => others d ?_
    cases v
    cases u
    cases job
    cases token
    rfl
  · rw [endOf, find?_noteEnd_of_ne fun v d he same => job ⟨v, d, he, same⟩]
    exact first

/-- What attempts do to the records only takes some away. -/
theorem Tallies.endOf {r' : Registry} (h : r.Tallies r') (first : r.endOf u = none) : r'.endOf u = none := by
  refine endOf_of_gone ?_ first
  induction h with
  | refl => exact .inl rfl
  | tail _ tally ih =>
    cases tally with
    | started => exact ih
    | finished id =>
      unfold attemptFinished
      split
      · exact ih
      · dsimp only
        split
        · exact ih
        · rw [Table.find?_erase]
          split
          · exact .inr rfl
          · exact ih

end Registry

namespace Office

variable {o : Office} {t : Task} {u : Runner} {c : Fault}

theorem lanes_failAll (ts : List Task) (cause : Fault) : (o.failAll ts cause).lanes = o.lanes := by
  have desk := congrArg Desk.lanes (desk_failAll (o := o) ts cause)
  rwa [Desk.lanes_concludeAll] at desk

theorem lanes_withdraw (p : Task → Bool) : (o.withdraw p).2.lanes = (o.lanes.withdraw p).2 :=
  congrArg Desk.lanes (desk_withdraw (o := o) p)

/-- The first end of a run: its queued tasks are counted, taken out, and end with it. -/
structure EndsQueued (o : Office) (u : Runner) (c : Fault) (n : Nat) (o' : Office) : Prop where
  count : n = o.lanes.tasks.countP (·.ownedBy u)
  lanes : o'.lanes = (o.lanes.withdraw (·.ownedBy u)).2
  ledger : o'.ledger = o.ledger.resolveAll (o.lanes.tasks.filter (·.ownedBy u)) (.error (.abortedBy u.id c))

theorem endsQueued_abortRun (run : t.runner = some u) (first : o.registry.endOf u = none) :
    o.EndsQueued u c (o.abortRun t c).1 (o.abortRun t c).2 := by
  obtain ⟨r, noted⟩ := Registry.exists_abort? first c
  have taken : (withdraw { o with registry := r } (·.ownedBy u)).1 = o.lanes.tasks.filter (·.ownedBy u) :=
    Lanes.taken_withdraw o.lanes _
  unfold abortRun
  rw [run]
  dsimp only
  rw [noted]
  dsimp only
  constructor
  · rw [taken, List.countP_eq_length_filter]
  · show (failAll _ _ _).lanes = _
    rw [lanes_failAll, lanes_withdraw]
  · show (failAll _ _ _).ledger = _
    rw [ledger_failAll, ledger_withdraw, taken]

/-- The end of a run that is on record does nothing. -/
theorem abortRun_of_record (run : t.runner = some u)
    (record : o.registry.aborted.find? u.id = some ⟨u.token, c⟩) (d : Fault) : o.abortRun t d = (0, o) := by
  unfold abortRun
  rw [run]
  dsimp only
  rw [Registry.abort?_of_record record]

theorem lanes_attemptFinished : (o.attemptFinished t).lanes = o.lanes := by
  unfold attemptFinished
  split <;> rfl

theorem lanes_abortAndFail (cause : Fault) : (o.abortAndFail t cause).lanes = (o.abortRun t cause).2.lanes :=
  lanes_failAll [t] _

/-- Whoever ended with the run stays so when the task that brought it down ends, too. -/
theorem verdict?_abortAndFail_of_some {cause : Fault} {n : Nat} {v : Verdict}
    (ended : (o.abortRun t cause).2.ledger.verdict? n = some v) :
    (o.abortAndFail t cause).ledger.verdict? n = some v := by
  rw [abortAndFail, fail, ledger_conclude]
  exact Ledger.verdict?_resolve_of_some _ _ _ _ _ ended

end Office

namespace World

open Registry

variable {w : World} {h : Happening} {u : Runner} {c : Fault}

/-! ### The first end of a run -/

/-- The office `o'` is left by the end of a run in `o`, perhaps with more batches ended and attempts finished. -/
structure LeftBy (o o' : Office) : Prop where
  lanes : o'.lanes = o.lanes
  ended : ∀ n v, o.ledger.verdict? n = some v → o'.ledger.verdict? n = some v

/-- Whatever ends a run does so in an office with the lanes, the ledger and the runs of before, and takes nothing
back. -/
theorem aborted_by (abort : w.aborts? h = some (u, c)) : ∃ (o : Office) (t : Task), t.runner = some u ∧
    o.lanes = w.office.lanes ∧ o.ledger = w.office.ledger ∧ o.registry = w.office.registry ∧
    LeftBy (o.abortRun t c).2 (w.after h).office := by
  have left : ∀ (o : Office) (t : Task) (cause : Fault),
      LeftBy (o.abortRun t cause).2 ((o.abortAndFail t cause).attemptFinished t) := by
    intro o t cause
    refine ⟨?_, fun n v ended => ?_⟩
    · rw [Office.lanes_attemptFinished, Office.lanes_abortAndFail]
    · rw [Office.ledger_attemptFinished]
      exact Office.verdict?_abortAndFail_of_some ended
  cases h with
  | abortRun t cause =>
    obtain ⟨v, run, same⟩ := Option.map_eq_some_iff.1 abort
    cases same
    exact ⟨w.office, t, run, rfl, rfl, rfl, rfl, fun _ _ ended => ended⟩
  | collect n =>
    have collected := w.office.collects n
    obtain ⟨a, found, ended⟩ := Option.bind_eq_some_iff.1 abort
    show ∃ o t, _ ∧ _ ∧ _ ∧ _ ∧ LeftBy _ (w.office.collect n)
    generalize w.office.collect n = p at collected ⊢
    cases collected with
    | idle unreported =>
      rw [found, Option.bind_some] at unreported
      rw [Office.endedByReport, unreported] at ended
      cases ended
    | failed b cause found' reported =>
      cases found.symm.trans found'
      rw [Office.endedByReport, reported] at ended
      dsimp only at ended
      unfold Office.endedByFault at ended
      split at ended
      · next persistence =>
        obtain ⟨v, run, same⟩ := Option.map_eq_some_iff.1 ended
        cases same
        obtain ⟨inFlight, metrics, rest⟩ := w.office.close_rest a
        refine ⟨(w.office.close a).releasePermit a.permit, a.task, run, ?_, ?_, ?_, ?_⟩
        · rw [rest]
          rfl
        · rw [rest]
          rfl
        · rw [rest]
          rfl
        · rw [Office.failAttempt, if_pos persistence]
          exact left _ _ _
      · cases ended
    | lost b outcome found' reported lost pool =>
      cases found.symm.trans found'
      rw [Office.endedByReport, reported] at ended
      cases ended
    | settled b outcome found' reported settles =>
      cases found.symm.trans found'
      rw [Office.endedByReport, reported] at ended
      cases ended
  | recordRefused n message =>
    obtain ⟨s, found, ended⟩ := Option.bind_eq_some_iff.1 abort
    obtain ⟨v, run, same⟩ := Option.map_eq_some_iff.1 ended
    cases same
    refine ⟨w.office.removeSettlement n, s.task, run, rfl, rfl, rfl, ?_⟩
    show LeftBy _ (w.office.recordRefused n message)
    unfold Office.recordRefused
    rw [found]
    dsimp only
    split
    · exact left _ _ _
    · exact ⟨Office.lanes_abortAndFail _, fun _ _ ended => Office.verdict?_abortAndFail_of_some ended⟩
  | _ => cases abort

/-! ### Runs that have not ended -/

/-- A run gets a record only when it is ended. -/
theorem endOf_after (unended : ∀ c, w.aborts? h ≠ some (u, c)) (first : w.office.registry.endOf u = none) :
    (w.after h).office.registry.endOf u = none := by
  refine (w.proceeds h).tallies.endOf ?_
  unfold noted
  split
  · exact first
  · exact endOf_unregister first
  · exact endOf_noteEnd unended first

/-! ### Further ends of a run -/

/-- The last running attempt of a job ends while no run of the job is active. -/
def EndsLast (id : RunnerId) (w : World) (h : Happening) : Prop :=
  w.office.registry.active.find? id = none ∧ w.office.registry.runningAttempts id ≠ 0 ∧
    (w.after h).office.registry.runningAttempts id = 0

/-- The job of `u` is not unregistered, no other run of it is ended, and its last running attempt does not end while
no run of the job is active. -/
def KeepsOnRecord (u : Runner) (w : World) (h : Happening) : Prop := KeepsRecord u w h ∧ ¬ EndsLast u.id w h

theorem record_of_keeps (record : w.office.registry.aborted.find? u.id = some ⟨u.token, c⟩)
    (keeps : KeepsRecord u w h) : (w.noted h).aborted.find? u.id = some ⟨u.token, c⟩ := by
  unfold noted
  split
  · exact record
  · exact record_unregister (fun same => keeps.1 (congrArg _ same)) record
  · exact record_noteEnd record keeps.2

/-- A record that stands once a happening has noted its ends outlives the attempt that finishes then, unless it is the
last one of a job without active run. -/
theorem record_of_noted (covered : w.Covered) (stays : ¬ EndsLast u.id w h)
    (record : (w.noted h).aborted.find? u.id = some ⟨u.token, c⟩) :
    (w.after h).office.registry.aborted.find? u.id = some ⟨u.token, c⟩ := by
  rcases w.aborted_after h with same | ⟨-, ⟨-, -, n, works, -⟩, -⟩
  · rw [same]
    exact record
  · rcases notes_after w works with same | ⟨x, finishes, same⟩
    · rw [same]
      exact record
    · have running : (w.noted h).runningAttempts u.id = w.office.registry.runningAttempts u.id := by
        rw [runningAttempts, running_noted]
        rfl
      have active : (w.noted h).active = w.office.registry.active := by
        cases h with
        | register => cases works
        | unregister => cases works
        | _ => exact active_noteEnd _
      rw [same]
      by_cases last : x.task.runnerId = some u.id ∧ (w.noted h).runningAttempts u.id < 2
      · obtain ⟨job, few⟩ := last
        have one := one_le_runningAttempts covered finishes.live finishes.running job
        rw [finished, job]
        rw [finished, job] at same
        refine (find?_attemptFinished ?_).trans record
        by_contra idle
        refine stays ⟨?_, by omega, ?_⟩
        · rw [← active]
          exact Table.find?_eq_none_of_not_contains idle
        · rw [same, runningAttempts_attemptFinished, if_pos rfl]
          omega
      · rw [find?_finished fun job => Nat.le_of_not_lt fun few => last ⟨job, few⟩]
        exact record

theorem record_run {ks : List Happening} (regular : w.custody.Regular) (covered : w.Covered)
    (record : w.office.registry.aborted.find? u.id = some ⟨u.token, c⟩) (keeps : Along (KeepsOnRecord u) w ks) :
    (w.run ks).office.registry.aborted.find? u.id = some ⟨u.token, c⟩ := by
  have all : (w.run ks).custody.Regular ∧ (w.run ks).Covered ∧
      (w.run ks).office.registry.aborted.find? u.id = some ⟨u.token, c⟩ := by
    refine run_of_step (P := KeepsOnRecord u) (I := fun w => w.custody.Regular ∧ w.Covered ∧
      w.office.registry.aborted.find? u.id = some ⟨u.token, c⟩) ?_ keeps ⟨regular, covered, record⟩
    rintro w h ⟨keeps, stays⟩ ⟨regular, covered, record⟩
    exact ⟨regular_after regular h, covered_after regular covered h,
      record_of_noted covered stays (record_of_keeps record keeps)⟩
  exact all.2.2

/-! ### The cascade -/

/-- What ends of runs, registrations and unregistrations do to the queued tasks. -/
structure Cascades (w : World) : Prop where
  /-- The end of a run that has no record takes exactly its queued tasks out, and their batches end with it. -/
  ends : ∀ h u c, w.aborts? h = some (u, c) → w.office.registry.endOf u = none →
    w.office.lanes.Without (·.ownedBy u) (w.after h).office.lanes ∧
      ∀ t ∈ w.office.lanes.tasks, t.ownedBy u →
        (w.after h).office.ledger.verdict? t.ticket = some (.error (.abortedBy u.id c))
  /-- A caller who ends such a run is told their number. -/
  counts : ∀ t u c, t.runner = some u → w.office.registry.endOf u = none →
    (w.office.abortRun t c).1 = w.office.lanes.tasks.countP (·.ownedBy u)
  /-- A registration hands out exactly the queued tasks of the other runs of the job, one of each batch, and ends
  nothing. -/
  registers : ∀ v, w.office.lanes.Without (·.replacedBy v) (w.after (.register v)).office.lanes ∧
    (w.office.register v).1 = w.office.lanes.tasks.filter (·.replacedBy v) ∧
    ((w.office.register v).1.map (·.ticket)).Nodup ∧
    (w.after (.register v)).outside = w.outside ++ (w.office.register v).1 ∧
    (w.after (.register v)).office.ledger = w.office.ledger ∧
    ∀ t ∈ (w.office.register v).1, (w.after (.register v)).office.ledger.isOpen t.ticket
  /-- An unregistration takes nothing out and ends nothing. -/
  unregisters : ∀ id, (w.after (.unregister id)).office.lanes = w.office.lanes ∧
    (w.after (.unregister id)).office.ledger = w.office.ledger
  /-- Whatever stays in the lanes is open. -/
  unresolved : ∀ h, ∀ t ∈ (w.after h).office.lanes.tasks, (w.after h).office.ledger.isOpen t.ticket
  /-- As long as the end of a run is kept on record, ending it again does nothing. -/
  again : ∀ h u c, w.aborts? h = some (u, c) → ¬ EndsLast u.id w h →
    ∀ ks, Along (KeepsOnRecord u) (w.after h) ks → ∀ t d, t.runner = some u →
      ((w.after h).run ks).office.abortRun t d = (0, ((w.after h).run ks).office)

theorem open_of_queued (owned : w.custody.Owned) {t : Task} (ht : t ∈ w.office.lanes.tasks) :
    w.office.ledger.isOpen t.ticket := by
  obtain ⟨l, hl⟩ := (Lanes.mem_tasks_iff w.office.lanes).1 ht
  exact isOpen_of_live (x := .queued l t) owned (mem_holdings_queued.2 hl)

theorem cascades (regular : w.custody.Regular) (owned : w.custody.Owned) (covered : w.Covered)
    (sound : w.office.lanes.Sound) : w.Cascades where
  ends h u c abort first := by
    obtain ⟨o, t, run, lanes, ledger, registry, left⟩ := aborted_by abort
    have ends : o.EndsQueued u c _ _ := Office.endsQueued_abortRun run (by rw [registry]; exact first)
    refine ⟨?_, fun t ht own => left.ended _ _ ?_⟩
    · rw [left.lanes, ends.lanes, lanes]
      exact Lanes.without_withdraw sound _
    · rw [ends.ledger, lanes, ledger]
      exact Ledger.verdict?_resolveAll (List.mem_filter.2 ⟨ht, own⟩) (open_of_queued owned ht)
  counts t u c run first := (Office.endsQueued_abortRun run first).count
  registers v := by
    have taken : (w.office.register v).1 = w.office.lanes.tasks.filter (·.replacedBy v) := by
      rw [← funext fun t => Task.replacedBy_eq t v]
      exact Lanes.taken_withdraw w.office.lanes _
    have lanes : (w.after (.register v)).office.lanes = (w.office.lanes.withdraw (·.replacedBy v)).2 := by
      rw [← funext fun t => Task.replacedBy_eq t v]
      exact Office.lanes_withdraw (o := { w.office with registry := w.office.registry.register v }) _
    have ledger : (w.after (.register v)).office.ledger = w.office.ledger := Office.ledger_withdraw _
    refine ⟨?_, taken, ?_, rfl, ledger, fun t ht => ?_⟩
    · rw [lanes]
      exact Lanes.without_withdraw sound _
    · rw [taken]
      exact (nodup_queued owned).sublist (List.filter_sublist.map _)
    · rw [ledger]
      rw [taken] at ht
      exact open_of_queued owned (List.mem_filter.1 ht).1
  unregisters id := ⟨rfl, rfl⟩
  unresolved h t ht := open_of_queued (owned_after regular owned h) ht
  again h u c abort stays ks keeps t d run := by
    obtain ⟨c', record⟩ := exists_record_noteEnd w.office.registry u c
    rw [← noted_of_aborts? abort] at record
    exact Office.abortRun_of_record run (record_run (regular_after regular h) (covered_after regular covered h)
      (record_of_noted covered stays record) keeps) d

/-- Whatever happened before in a new office, ends of runs, registrations and unregistrations do this to the queued
tasks; and a run that was never ended has no record. -/
theorem cascades_run (config : Config) (workers : Nat) (wall : Calendar.Moment) (hs : List Happening) :
    ((opening config workers wall).run hs).Cascades ∧
      ∀ u, Along (fun w h => ∀ c, w.aborts? h ≠ some (u, c)) (opening config workers wall) hs →
        ((opening config workers wall).run hs).office.registry.endOf u = none := by
  have regular := regular_opening config workers wall
  refine ⟨cascades (regular_run regular hs) (owned_run regular (owned_opening config workers wall) hs)
    (covered_run regular (covered_opening config workers wall) hs)
    (sound_run (sound_opening config workers wall) hs), fun u unended => ?_⟩
  exact run_of_step (P := fun w h => ∀ c, w.aborts? h ≠ some (u, c))
    (I := fun w => w.office.registry.endOf u = none) (fun _ _ => endOf_after) unended rfl

/-- Two parcels of a run and one of none are queued. -/
def parcelsQueued : List Happening :=
  [.register ⟨⟨"job"⟩, 1⟩, .submit parcel, .submit { parcel with id := "b2" },
    .submit { parcel with id := "b3", runner := none }]

/-- The run of the parcels is ended: both are taken out and end, and ending the run again does nothing. -/
theorem cascades_parcels :
    ((opening {} 4 0).run parcelsQueued).office.registry.endOf ⟨⟨"job"⟩, 1⟩ = none ∧
      (((opening {} 4 0).run parcelsQueued).office.abortRun (parcel.task 0) (.persistence "full")).1 = 2 ∧
      (((opening {} 4 0).run parcelsQueued).after
        (.abortRun (parcel.task 0) (.persistence "full"))).office.ledger.verdict? 1 =
          some (.error (.aborted ⟨"job"⟩ (.persistence "full"))) ∧
      (((opening {} 4 0).run parcelsQueued).after
        (.abortRun (parcel.task 0) (.persistence "full"))).office.abortRun (parcel.task 0) (.persistence "gone") =
          (0, (((opening {} 4 0).run parcelsQueued).after
            (.abortRun (parcel.task 0) (.persistence "full"))).office) := by
  obtain ⟨cascades, unended⟩ := cascades_run {} 4 0 parcelsQueued
  have first : ((opening {} 4 0).run parcelsQueued).office.registry.endOf ⟨⟨"job"⟩, 1⟩ = none := by
    refine unended _ ⟨?_, ?_, ?_, ?_, trivial⟩
    · rintro c ⟨⟩
    · rintro c ⟨⟩
    · rintro c ⟨⟩
    · rintro c ⟨⟩
  refine ⟨first, ?_, ?_, ?_⟩
  · rw [cascades.counts (parcel.task 0) _ _ rfl first]
    decide
  · obtain ⟨-, ends⟩ := cascades.ends (.abortRun (parcel.task 0) (.persistence "full")) _ _ rfl first
    exact ends { parcel.task 1 with id := ⟨"b2"⟩, batch := { parcel.batch with root := ⟨"b2"⟩ } }
      (by decide) rfl
  · refine cascades.again (.abortRun (parcel.task 0) (.persistence "full")) ⟨⟨"job"⟩, 1⟩ _ rfl ?_
      [] trivial _ _ rfl
    rintro ⟨inactive, -⟩
    exact absurd inactive (by decide)

/-- The parcel of a job that is not registered any more is under way. -/
def parcelUnderWay : List Happening := parcelSent ++ [.unregister ⟨"job"⟩]

/-- The attempt at the parcel fails, and another parcel of the same run is submitted. -/
def parcelFollowed : List Happening :=
  [.sendEnded 0 (.error (.transport (.connectionLost "gone"))), .collect 0, .submit { parcel with id := "b2" }]

/-- A run can be ended twice without an unregistration or the end of another run in between: the last running attempt
of a job without active run takes the record with it. -/
theorem ended_again :
    ¬ ∀ (config : Config) (workers : Nat) (wall : Calendar.Moment) (hs : List Happening) (h : Happening)
      (u : Runner) (c : Fault) (ks : List Happening) (t : Task) (d : Fault),
      ((opening config workers wall).run hs).aborts? h = some (u, c) →
      Along (KeepsRecord u) (((opening config workers wall).run hs).after h) ks → t.runner = some u →
      ((((opening config workers wall).run hs).after h).run ks).office.abortRun t d =
        (0, ((((opening config workers wall).run hs).after h).run ks).office) := by
  intro claim
  have nothing := claim {} 4 0 parcelUnderWay (.abortRun (parcel.task 0) (.persistence "full")) ⟨⟨"job"⟩, 1⟩
    (.persistence "full") parcelFollowed (parcel.task 0) (.persistence "full") rfl ?_ rfl
  · have again : (((((opening {} 4 0).run parcelUnderWay).after
        (.abortRun (parcel.task 0) (.persistence "full"))).run parcelFollowed).office.abortRun
          (parcel.task 0) (.persistence "full")).1 = 1 := by decide
    rw [nothing] at again
    cases again
  · refine ⟨⟨nofun, ?_⟩, ⟨nofun, ?_⟩, ⟨nofun, ?_⟩, trivial⟩
    · rintro v e ⟨⟩
    · rintro v e ⟨⟩
    · rintro v e ⟨⟩

end World

end Postroom
