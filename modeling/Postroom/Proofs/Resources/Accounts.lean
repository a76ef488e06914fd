import Postroom.Proofs.Custody.Course
import Postroom.Proofs.Resources.Drawing
import Postroom.Proofs.Settlements.Steps

/-!
# Resources are accounted for

Along every history in which no attempt is let go of and every cooldown has an end, each counter of an office
is the number of attempts that it counts. So what an attempt gives back is there to be given back, no bound
is exceeded, and where nothing runs nothing is taken.

- `World.Orderly`: the histories.
- `World.draws_after`, `World.draws_run`: a happening, and a history, as a chain of steps of the resources.
- `Office.Accounted`, `World.accounted_run`: what this means for the counters, after every such history.
-/

namespace Postroom

open Usage

/-- Every bound stays what it was. -/
theorem Usage.Draws.bounds {u v : Usage} (h : Draws u v) :
    v.addresses = u.addresses ∧ v.limit = u.limit ∧ v.size = u.size := by
  refine h.keeps (I := fun v => v.addresses = u.addresses ∧ v.limit = u.limit ∧ v.size = u.size)
    (fun _ _ step hv => ?_) ⟨rfl, rfl, rfl⟩
  cases step <;> exact hv

namespace World

variable {w : World}

/-- No attempt is let go of, and when a report is taken a cooldown would have an end. -/
def Orderly (c : AddressConfig) (w : World) : Happening → Prop
  | .abandon _ => False
  | .collect _ => (c.cooldownEnd? w.office.now).isSome
  | _ => True

theorem draws_useOutside {f : Office → Task → Office} (place : Nat)
    (uses : ∀ t, (f w.office t).usage 0 = w.office.usage 0) :
    Draws (w.office.usage 0) ((w.useOutside place f).office.usage 0) := by
  unfold useOutside
  split
  · exact .of_eq (uses _).symm
  · exact .refl _

/-- No attempt is let go of, and nothing that follows from an answer is lost. -/
def LosesNothing (w : World) : Happening → Prop
  | .abandon _ => False
  | .collect n => ∀ a outcome, w.office.attempt? n = some a → a.report = some (.ok outcome) →
      w.office.loses a outcome = false
  | _ => True

theorem Orderly.losesNothing {h : Happening} (orderly : Orderly w.office.pool.config w h) :
    LosesNothing w h := by
  cases h with
  | abandon numbers => exact orderly
  | collect n =>
    intro a outcome _ _
    exact decide_eq_false (w.office.pool.record_representable a.permit.lease outcome.statusCode
      outcome.anySuccess orderly)
  | _ => trivial

/-- What happens to the resources is a chain of steps. -/
theorem draws_after (regular : w.custody.Regular) {h : Happening} (kept : LosesNothing w h) :
    Draws (w.office.usage 0) ((w.after h).office.usage 0) := by
  cases h with
  | submit s =>
    rw [after, office_submit]
    exact Office.draws_submit s
  | tick =>
    exact Office.draws_serve w.office.bulkBudget.1 w.office.lanes.total
      { office := { w.office with hold := w.office.bulkBudget.2 } }
  | beginTick => exact .refl _
  | turns bulk n report bulkStarted excluded =>
    exact Office.draws_serve bulk n
      { office := w.office, report := report, bulkStarted := bulkStarted, excluded := excluded }
  | wake n => exact .of_eq (Office.usage_of_frame (Office.frame_wake n)).symm
  | sendEnded n report => exact Office.draws_sendEnded n report (nodup_attempts regular)
  | collect n =>
    exact Office.draws_collect n (nodup_attempts regular) fun a outcome found reported =>
      of_decide_eq_false (kept a outcome found reported)
  | beginExpiry n => exact Office.draws_beginExpiry n
  | recordAccepted n => exact Office.draws_recordAccepted n (nodup_settlements regular)
  | recordRefused n message => exact Office.draws_recordRefused n message (nodup_settlements regular)
  | register runner => exact .of_eq (Office.usage_of_frame
      (o := { w.office with registry := w.office.registry.register runner })
      (Office.frame_withdraw _)).symm
  | unregister id => exact .refl _
  | abortRun t cause => exact .of_eq (Office.usage_of_noteEnd (Office.frame_abortRun t cause)).symm
  | failOutside place cause => exact draws_useOutside place fun t => Office.usage_of_frame (Office.frame_fail t cause)
  | dropOutside place => exact draws_useOutside place fun t => rfl
  | pass ms => exact .refl _
  | shift ms => exact .refl _
  | readDaily => exact .refl _
  | readWindow window => exact .refl _
  | stopAccepting => exact .refl _
  | closeWorkers => exact .refl _
  | closeTimers => exact .of_eq (Office.usage_of_frame Office.frame_closeTimers).symm
  | emptyLanes => exact .of_eq (Office.usage_of_frame Office.frame_emptyLanes).symm
  | takeSends => exact .refl _
  | takeWaiters => exact .refl _
  | abandon numbers => exact kept.elim
  | sessionFailed domain code => exact .refl _
  | draw draws => exact .refl _

theorem draws_run (regular : w.custody.Regular) {hs : List Happening}
    (orderly : Along (Orderly w.office.pool.config) w hs) :
    Draws (w.office.usage 0) ((w.run hs).office.usage 0) := by
  induction hs generalizing w with
  | nil => exact .refl _
  | cons h hs ih =>
    have first := draws_after regular orderly.1.losesNothing
    -- the settings of the pool stay, so the rest of the history is orderly too
    have config : (w.after h).office.pool.config = w.office.pool.config := first.bounds.1
    exact first.trans (ih (regular_after regular h) (by rw [config]; exact orderly.2))

end World

/-! ### Counts -/

theorem countP_lt_succ {α : Type} (f : α → Nat) (as : List α) (n : Nat) :
    as.countP (f · < n) + as.countP (f · = n) = as.countP (f · < n + 1) := by
  induction as with
  | nil => rfl
  | cons a as ih =>
    simp only [List.countP_cons, decide_eq_true_iff]
    split_ifs <;> omega

/-- Counting by the value of a function below a bound counts all that lies below it. -/
theorem sumOf_countP {α : Type} (f : α → Nat) (as : List α) (n : Nat) :
    sumOf ((List.range n).map fun i => as.countP (f · = i)) = as.countP (f · < n) := by
  induction n with
  | zero => simp
  | succ n ih =>
    rw [List.range_succ, List.map_append, sumOf_append, ih, ← countP_lt_succ]
    simp only [List.map_cons, List.map_nil, sumOf_cons, sumOf_nil, Nat.add_zero]

/-- The tasks of the attempts of an office that run: until what follows from the report is over. -/
def Office.runningTasks (o : Office) : List Task := o.attempts.map (·.task) ++ o.settling

/-- Every counter of an office is the number of attempts that it counts. `c` are its settings, and `workers`
the number of workers where these name none. -/
structure Office.Accounted (c : Config) (workers : Nat) (o : Office) : Prop where
  inFlight : ∀ l, o.inFlight.get l = o.attempts.countP (·.task.lane = l)
  leases : ∀ i d, o.pool.leasesAt i d =
    o.attempts.countP fun a => a.permit.lease.index = i ∧ a.task.domain = d
  entries : ∀ i, o.pool.totalAt i = o.attempts.countP (·.permit.lease.index = i)
  allLeases : o.pool.activeLeases = o.attempts.length
  slots : ∀ k, (c.slots.limit k).isSome → o.slots.inUse k =
    o.attempts.countP fun a => a.task.traffic = k ∧ a.task.batch.message.hasAttachment
  running : ∀ id, o.registry.runningAttempts id = o.runningTasks.countP (·.runnerId = some id)
  sends : o.workers.busy = o.attempts.countP (·.report = none)
  /-- What an attempt gives back when its report comes, and when it is taken, is there. -/
  held : ∀ a ∈ o.attempts, 0 < o.inFlight.get a.task.lane ∧
    0 < o.pool.leasesAt a.permit.lease.index a.permit.lease.domain ∧
    0 < o.pool.totalAt a.permit.lease.index ∧
    (∀ k, a.permit.slot = some k → 0 < o.slots.inUse k) ∧
    (a.report = none → 0 < o.workers.busy)
  /-- What is given back when all is over is there. -/
  counted : ∀ t ∈ o.runningTasks, ∀ id, t.runnerId = some id → 0 < o.registry.runningAttempts id
  capacity : ∀ i d, o.pool.leasesAt i d ≤ c.addresses.capacity d
  limit : ∀ k bound, c.slots.limit k = some bound → o.slots.inUse k ≤ bound
  workers : o.attempts.countP (·.report = none) ≤ max (c.workers.maxWorkers.getD workers) 1
  /-- Where nothing runs, nothing is taken. -/
  idle : o.runningTasks = [] → (∀ l, o.inFlight.get l = 0) ∧ (∀ i d, o.pool.leasesAt i d = 0) ∧
    o.pool.activeLeases = 0 ∧ (∀ k, o.slots.inUse k = 0) ∧
    (∀ id, o.registry.runningAttempts id = 0) ∧ o.workers.busy = 0

namespace World

theorem tasks_usage (o : Office) : (o.usage 0).tasks = ↑o.runningTasks := by
  rw [tasks, Office.usage, zero_add, Multiset.map_coe, Multiset.coe_add, Office.runningTasks]

/-- All leases are those of the entries, and no attempt has a lease of another. -/
theorem activeLeases_of_usage {o : Office} (accounted : (o.usage 0).Accounted) :
    o.pool.activeLeases = o.attempts.length := by
  have total : ∀ i, o.pool.totalAt i = o.attempts.countP (·.permit.lease.index = i) := fun i =>
    (accounted.total i).trans (Multiset.coe_countP _ _)
  have inside : ∀ a ∈ o.attempts, a.permit.lease.index < o.pool.sources.length := by
    intro a ha
    by_contra outside
    -- an entry that is not there has no leases, but the attempt is counted there
    have none : o.pool.totalAt a.permit.lease.index = 0 := by
      rw [AddressPool.totalAt, List.getElem?_eq_none (by omega)]
      rfl
    rw [total] at none
    exact List.countP_eq_zero.1 none a ha (decide_eq_true rfl)
  rw [AddressPool.activeLeases_eq, funext total, sumOf_countP]
  exact List.countP_eq_length.2 fun a ha => decide_eq_true (inside a ha)

/-- What the steps of the resources keep, seen from the office. -/
theorem accounted_of_usage {c : Config} {workers : Nat} {o : Office}
    (accounted : (o.usage 0).Accounted) (addresses : o.pool.config = c.addresses)
    (limit : o.slots.limit = c.slots.limit)
    (size : o.workers.size = max (c.workers.maxWorkers.getD workers) 1) : o.Accounted c workers := by
  have inFlight : ∀ l, o.inFlight.get l = o.attempts.countP (·.task.lane = l) := fun l =>
    (accounted.inFlight l).trans (Multiset.coe_countP _ _)
  have leases : ∀ i d, o.pool.leasesAt i d =
      o.attempts.countP fun a => a.permit.lease.index = i ∧ a.permit.lease.domain = d := fun i d =>
    (accounted.leases i d).trans (Multiset.coe_countP _ _)
  have total : ∀ i, o.pool.totalAt i = o.attempts.countP (·.permit.lease.index = i) := fun i =>
    (accounted.total i).trans (Multiset.coe_countP _ _)
  have slots : ∀ k, o.slots.inUse k = o.attempts.countP (·.permit.slot = some k) := fun k =>
    (accounted.slots k).trans (Multiset.coe_countP _ _)
  have busy : o.workers.busy = o.attempts.countP (·.report = none) :=
    ((congrArg Multiset.card accounted.sending).trans (card_awaited _)).trans (Multiset.coe_countP _ _)
  have running : ∀ id, o.registry.runningAttempts id =
      o.runningTasks.countP (·.runnerId = some id) := by
    intro id
    have counted := accounted.running id
    rw [tasks_usage, Multiset.coe_countP] at counted
    exact counted
  have allLeases := activeLeases_of_usage accounted
  have present : ∀ (p : Attempt → Prop) [DecidablePred p], ∀ a ∈ o.attempts, p a →
      0 < o.attempts.countP p := fun p _ a ha hp => List.countP_pos_iff.2 ⟨a, ha, decide_eq_true hp⟩
  refine ⟨inFlight, ?_, total, allLeases, ?_, running, busy, ?_, ?_, ?_, ?_, ?_, ?_⟩
  · intro i d
    rw [leases]
    refine List.countP_congr fun a ha => ?_
    have domain : a.permit.lease.domain = a.task.domain := accounted.domain a ha
    rw [domain]
  · intro k hk
    rw [slots]
    refine List.countP_congr fun a ha => ?_
    have slot : a.permit.slot = a.task.slotNeeded c.slots.limit := limit ▸ accounted.slot a ha
    rw [slot, Task.slotNeeded]
    by_cases same : a.task.traffic = k
    · subst same
      simp [hk]
    · simp [same]
  · intro a ha
    refine ⟨?_, ?_, ?_, ?_, ?_⟩
    · rw [inFlight]
      exact present _ a ha rfl
    · rw [leases]
      exact present _ a ha ⟨rfl, rfl⟩
    · rw [total]
      exact present _ a ha rfl
    · intro k hk
      rw [slots]
      exact present _ a ha hk
    · intro unreported
      rw [busy]
      exact present _ a ha unreported
  · intro t ht id hid
    rw [running]
    exact List.countP_pos_iff.2 ⟨t, ht, decide_eq_true hid⟩
  · intro i d
    rw [← addresses]
    exact accounted.capacity i d
  · intro k bound hk
    exact accounted.room k bound ((congrFun limit k).trans hk)
  · rw [← busy, ← size]
    exact accounted.workers
  · intro idle
    obtain ⟨none, -⟩ := List.append_eq_nil_iff.1 idle
    have none := List.map_eq_nil_iff.1 none
    refine ⟨?_, ?_, ?_, ?_, ?_, ?_⟩
    · intro l
      rw [inFlight, none, List.countP_nil]
    · intro i d
      rw [leases, none, List.countP_nil]
    · rw [allLeases, none, List.length_nil]
    · intro k
      rw [slots, none, List.countP_nil]
    · intro id
      rw [running, idle, List.countP_nil]
    · rw [busy, none, List.countP_nil]

theorem accounted_opening (config : Config) (workers : Nat) (wall : Calendar.Moment) :
    ((opening config workers wall).office.usage 0).Accounted := by
  have leases : ∀ i d, (AddressPool.ofConfig config.addresses).leasesAt i d = 0 := by
    intro i d
    rw [AddressPool.leasesAt, AddressPool.ofConfig, List.getElem?_map, Option.map_map]
    cases config.addresses.sources[i]? <;> rfl
  have total : ∀ i, (AddressPool.ofConfig config.addresses).totalAt i = 0 := by
    intro i
    rw [AddressPool.totalAt, AddressPool.ofConfig, List.getElem?_map, Option.map_map]
    cases config.addresses.sources[i]? <;> rfl
  have none : ∀ a, a ∉ ((opening config workers wall).office.usage 0).attempts := Multiset.notMem_zero
  refine ⟨PerLane.get_const 0, leases, total, ?_, fun _ => rfl, rfl, fun a ha => absurd ha (none a),
    fun a ha => absurd ha (none a), ?_, ?_, Nat.zero_le _⟩
  · intro k
    cases k <;> rfl
  · intro i d
    exact (leases i d).trans_le (Nat.zero_le _)
  · intro k bound _
    cases k <;> exact Nat.zero_le _

/-- After every history in which no attempt is let go of and every cooldown has an end, every counter of the
office is the number of attempts that it counts. -/
theorem accounted_run (config : Config) (workers : Nat) (wall : Calendar.Moment) (hs : List Happening)
    (orderly : Along (Orderly config.addresses) (opening config workers wall) hs) :
    ((opening config workers wall).run hs).office.Accounted config workers := by
  have drawn := draws_run (regular_opening config workers wall) orderly
  obtain ⟨addresses, limit, size⟩ := drawn.bounds
  exact accounted_of_usage ((accounted_opening config workers wall).draws drawn) addresses limit size

/-- Settings with one slot for each class. -/
def oneSlot : Config := { slots := { common := 1 } }

/-- A submission with an attachment, of a run. -/
def parcel : Submission where
  id := "b1"
  domain := ⟨"example.org"⟩
  recipients := ["a@example.org"]
  traffic := .bulk
  message := ⟨"s@example.org", 5, true⟩
  runner := some ⟨⟨"job"⟩, 1⟩

/-- A history in which an attempt takes a slot and ends with a retry. -/
theorem accounted_parcel :
    Along (Orderly oneSlot.addresses) (opening oneSlot 4 0)
        [.register ⟨⟨"job"⟩, 1⟩, .submit parcel, .tick,
          .sendEnded 0 (.error (.transport (.connectionLost "gone"))), .collect 0] ∧
      ((opening oneSlot 4 0).run
        [.register ⟨⟨"job"⟩, 1⟩, .submit parcel, .tick,
          .sendEnded 0 (.error (.transport (.connectionLost "gone"))), .collect 0]).office.Accounted
        oneSlot 4 := by
  have ends : (oneSlot.addresses.cooldownEnd? 0).isSome := by decide
  have orderly : Along (Orderly oneSlot.addresses) (opening oneSlot 4 0)
      [.register ⟨⟨"job"⟩, 1⟩, .submit parcel, .tick,
        .sendEnded 0 (.error (.transport (.connectionLost "gone"))), .collect 0] :=
    ⟨trivial, trivial, trivial, trivial, ends, trivial⟩
  exact ⟨orderly, accounted_run oneSlot 4 0 _ orderly⟩

end World

end Postroom
