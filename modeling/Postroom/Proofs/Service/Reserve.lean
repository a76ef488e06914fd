import Postroom.Proofs.Custody.Recipients
import Postroom.Proofs.Policy.Quota
import Postroom.Proofs.Queue.Fairness
import Postroom.Proofs.Service.Picks
import Postroom.Proofs.Service.Resting

/-!
# The reserve for fresh work

Retries of a class share the workers with the other class, and some workers are kept from them. The limit on them
is worked out anew for every retry, from what is in flight when it is picked; between one start and the next,
whatever happens only takes attempts out of flight. So a retry that starts beside another one leaves the reserve,
and no history leaves more retries in flight than that, or one. One retry is let through whatever the shares are,
as long as the other class does not hold all workers.

- `Office.Eases`: no more is in flight, the workers and the quota are the same. All but ticks does only this.
- `Office.SparesFresh`: a retry is the only one, or the workers of the reserve are left.
- `Ticking.Serves.sparesFresh`: every retry that a tick starts leaves it so.
- `Office.KeepsReserve`, `World.keepsReserve_after`: the bound on retries in flight, kept by every happening.
-/

namespace Postroom

namespace Office

variable {o o' o'' : Office} {t : Task} {l : Lane}

/-! ### What takes attempts out of flight -/

/-- No more is in flight in any lane, and the workers and the quota are the same. -/
structure Eases (o o' : Office) : Prop where
  inFlight : ∀ l, o'.inFlight.get l ≤ o.inFlight.get l
  size : o'.workers.size = o.workers.size
  quota : o'.config.quota = o.config.quota

namespace Eases

theorem refl (o : Office) : Eases o o := ⟨fun _ => Nat.le_refl _, rfl, rfl⟩

theorem trans (h : Eases o o') (h' : Eases o' o'') : Eases o o'' :=
  ⟨fun l => (h'.inFlight l).trans (h.inFlight l), h'.size.trans h.size, h'.quota.trans h.quota⟩

/-- Where the workers rest, no more is in flight. -/
theorem of_rests (h : Rests o o') : Eases o o' :=
  ⟨h.inFlight, congrArg (·.size) h.workers, congrArg (·.quota) h.config⟩

/-- The frame shows what is in flight, the workers and the quota. -/
theorem of_frame (h : o'.frame = o.frame) : Eases o o' := of_rests (.of_frame h)

end Eases

/-! ### Starts -/

/-- What is in flight in the lane of a started task is one more, and nothing else is. -/
theorem inFlight_of_started (started : (o.attemptOf t).isSome) (l : Lane) :
    (o.execute t).2.inFlight.get l = o.inFlight.get l + (if t.lane = l then 1 else 0) ∧
      (o.execute t).2.workers.size = o.workers.size ∧ (o.execute t).2.config = o.config := by
  rcases acquired : o.acquire? t with _ | ⟨permit, o'⟩
  · rw [attemptOf, acquired] at started
    cases started
  · have taken : o'.inFlight = o.inFlight := congrArg (·.inFlight) (frame_acquire? acquired)
    have workers : o'.workers = o.workers := congrArg (·.workers) (frame_acquire? acquired)
    have config : o'.config = o.config := congrArg (·.config) (frame_acquire? acquired)
    simp only [attemptOf, acquired, execute_eq] at started ⊢
    rcases starts : (o'.countStart t.lane).workers.start (o'.countStart t.lane).nextNumber with cause | busier
    · rw [starts] at started
      cases started
    · -- the counting of running attempts touches the registry only
      have finished : ∀ p : Office, (p.attemptStarted t).inFlight = p.inFlight ∧
          (p.attemptStarted t).workers = p.workers ∧ (p.attemptStarted t).config = p.config := by
        intro p
        unfold attemptStarted
        split <;> exact ⟨rfl, rfl, rfl⟩
      dsimp only
      obtain ⟨inFlight, workers', config'⟩ := finished
        { o'.countStart t.lane with
          workers := busier.await (o'.countStart t.lane).isWaiting (o'.countStart t.lane).nextNumber
          attempts := (o'.countStart t.lane).attempts ++
            [{ number := (o'.countStart t.lane).nextNumber, task := t, permit := permit }]
          nextNumber := (o'.countStart t.lane).nextNumber + 1 }
      refine ⟨?_, ?_, config'.trans config⟩
      · rw [inFlight]
        refine (congrFun (get_countStart (o := o') t.lane) l).trans ?_
        rw [taken]
      · rw [workers', ← workers]
        rw [(start_eq_ok starts).2]
        rfl

/-- Where no attempt starts, no more is in flight. -/
theorem eases_of_idle (idle : o.attemptOf t = none) : Eases o (o.execute t).2 := by
  rcases acquired : o.acquire? t with _ | ⟨permit, o'⟩
  · have short := Eases.of_frame (frame_shortage (o := o) t)
    simp only [execute_eq, acquired]
    rcases hs : o.shortage t with ⟨s, p⟩
    rw [hs] at short
    cases s with
    | expired u => exact short.trans ⟨fun _ => Nat.le_refl _, rfl, rfl⟩
    | requeued delay => exact short
    | retried => exact short
  · simp only [attemptOf, acquired, execute_eq] at idle ⊢
    rcases starts : (o'.countStart t.lane).workers.start (o'.countStart t.lane).nextNumber with cause | busier
    · -- what was counted is taken back, so that nothing more is in flight
      have taken : o'.inFlight = o.inFlight := congrArg (·.inFlight) (frame_acquire? acquired)
      have back : Eases o ((o'.countStart t.lane).countEnd t.lane) := by
        unfold countEnd
        refine ⟨fun l => ?_, ?_, ?_⟩
        · split
          · next none =>
            rw [get_countStart] at none
            simp at none
          · rw [PerLane.get_modify, get_countStart, taken]
            split <;> simp [*]
        · split <;> exact congrArg (·.workers.size) (frame_acquire? acquired)
        · split <;> exact congrArg (·.config.quota) (frame_acquire? acquired)
      have released : Eases o (((o'.countStart t.lane).countEnd t.lane).releasePermit permit) :=
        back.trans ⟨fun _ => Nat.le_refl _, rfl, rfl⟩
      exact released.trans (.of_frame (frame_fail t cause))
    · rw [starts] at idle
      cases idle

/-! ### Retries that start -/

/-- A retry in flight in this lane is the only one, or what is in flight there and of the other class leaves the
reserve. -/
def SparesFresh (o : Office) (l : Lane) : Prop :=
  o.inFlight.get l = 1 ∨
    o.inFlight.get l + o.inFlightOf l.traffic.other ≤ o.workers.size - o.config.quota.freshReserve

/-- Of each class no more retries are in flight than the reserve allows, or one. -/
def KeepsReserve (o : Office) : Prop :=
  ∀ k : TrafficClass, o.inFlight.get k.retryLane ≤ max 1 (o.workers.size - o.config.quota.freshReserve)

theorem retryAdmits_iff {excluded : List Domain} :
    o.retryAdmits l excluded ↔ o.inFlight.get l < o.retryLimit l excluded := decide_eq_true_iff

/-- One retry is let through as long as the other class does not hold all workers. -/
theorem retryAdmits_of_none (none : o.inFlight.get l = 0) (room : o.inFlightOf l.traffic.other < o.workers.size)
    (excluded : List Domain) : o.retryAdmits l excluded := by
  rw [retryAdmits_iff, none]
  exact RetryQuota.one_le_limit (Nat.sub_pos_of_lt room)

/-- The next task comes from a lane that may be served; a lane of retries admits one more. -/
theorem admits_of_nextTask? {bulk : BulkBudget} {n : Nat} {excluded : List Domain} (sound : o.lanes.Sound)
    (next : o.nextTask? bulk n excluded = some (t, o')) :
    o'.frame = o.frame ∧ o'.lanes.Sound ∧ (t.lane.isRetry → o.retryAdmits t.lane excluded) := by
  refine ⟨frame_nextTask? next, ?_⟩
  obtain ⟨l, -, polled⟩ := List.exists_of_findSome?_eq_some next
  split at polled
  · next served =>
    have taken := Ticking.lanes_of_polled (s := { office := o, excluded := excluded }) polled
    obtain rfl := sound.lane_of_poll? taken
    refine ⟨sound.poll? taken, fun isRetry => ?_⟩
    have admitted := (Bool.and_eq_true _ _ ▸ served).2
    rwa [isRetry, Bool.not_true, Bool.false_or] at admitted
  · cases polled

/-- A retry that is admitted and started spares the reserve. -/
theorem sparesFresh_of_started {p : Office} {excluded : List Domain} (frame : p.frame = o.frame)
    (admitted : o.retryAdmits t.lane excluded) (started : (p.attemptOf t).isSome) :
    (p.execute t).2.SparesFresh t.lane := by
  have inFlight : p.inFlight = o.inFlight := congrArg (·.inFlight) frame
  have workers : p.workers = o.workers := congrArg (·.workers) frame
  have config : p.config = o.config := congrArg (·.config) frame
  have counted := inFlight_of_started started
  have own : (p.execute t).2.inFlight.get t.lane = o.inFlight.get t.lane + 1 := by
    rw [(counted _).1, if_pos rfl, inFlight]
  -- the start counts in no lane of the other class
  have others : (p.execute t).2.inFlightOf t.lane.traffic.other = o.inFlightOf t.lane.traffic.other := by
    have fresh : t.lane ≠ t.lane.traffic.other.freshLane := by cases t.lane <;> decide
    have retry : t.lane ≠ t.lane.traffic.other.retryLane := by cases t.lane <;> decide
    rw [inFlightOf, (counted _).1, (counted _).1, if_neg fresh, if_neg retry, inFlight]
    rfl
  have below := Nat.lt_of_lt_of_le (retryAdmits_iff.1 admitted) RetryQuota.limit_le
  rw [SparesFresh, own, others, (counted t.lane).2.1, (counted t.lane).2.2, workers, config]
  omega

/-- A start keeps the bound: it is one of fresh work, or a retry that spares the reserve. -/
theorem keepsReserve_of_started (keeps : o.KeepsReserve) (started : (o.attemptOf t).isSome)
    (spares : t.lane.isRetry → (o.execute t).2.SparesFresh t.lane) : (o.execute t).2.KeepsReserve := by
  intro k
  by_cases own : t.lane = k.retryLane
  · have isRetry : t.lane.isRetry := by
      rw [own]
      cases k <;> rfl
    have spared := spares isRetry
    rw [← own]
    rw [SparesFresh] at spared
    omega
  · have counted := inFlight_of_started started k.retryLane
    rw [counted.1, if_neg own, counted.2.1, counted.2.2]
    exact keeps k

theorem Eases.keepsReserve (eases : Eases o o') (keeps : o.KeepsReserve) : o'.KeepsReserve := by
  intro k
  rw [eases.size, eases.quota]
  exact (eases.inFlight _).trans (keeps k)

/-- The workers and the quota are the same. -/
def SameStaff (o o' : Office) : Prop := o'.workers.size = o.workers.size ∧ o'.config.quota = o.config.quota

theorem Eases.sameStaff (eases : Eases o o') : SameStaff o o' := ⟨eases.size, eases.quota⟩

theorem SameStaff.trans (h : SameStaff o o') (h' : SameStaff o' o'') : SameStaff o o'' :=
  ⟨h'.1.trans h.1, h'.2.trans h.2⟩

theorem sameStaff_execute (o : Office) (t : Task) : SameStaff o (o.execute t).2 := by
  cases started : o.attemptOf t with
  | none => exact (eases_of_idle started).sameStaff
  | some a =>
    obtain ⟨-, size, config⟩ := inFlight_of_started (o := o) (t := t) (by rw [started]; rfl) .realtimeFresh
    exact ⟨size, congrArg (·.quota) config⟩

end Office

/-! ### Ticks -/

namespace Ticking.Serves

open Office

variable {o o' : Office} {ps : List (Office × Task)}

/-- The workers and the quota are the same in all turns of a tick, and whatever starts a retry spares the reserve. -/
theorem sparesFresh (serves : Serves o ps o') (sound : o.lanes.Sound) : ∀ p ∈ ps, (p.1.attemptOf p.2).isSome →
    p.2.lane.isRetry → SameStaff o (p.1.execute p.2).2 ∧ (p.1.execute p.2).2.SparesFresh p.2.lane := by
  induction serves with
  | done =>
    intro p hp
    cases hp
  | @drop o p o'' bulk n excluded t r ps next invalid rest ih =>
    obtain ⟨frame, sound', -⟩ := admits_of_nextTask? sound next
    have dropped : Eases o (p.fail t r.cause) := .of_frame ((frame_fail t r.cause).trans frame)
    intro q hq started isRetry
    have kept : (p.fail t r.cause).lanes.Sound := by
      rw [Ticking.lanes_fail]
      exact sound'
    obtain ⟨staff, spares⟩ := ih kept q hq started isRetry
    exact ⟨dropped.sameStaff.trans staff, spares⟩
  | @execute o p o'' bulk n excluded t ps next valid rest ih =>
    obtain ⟨frame, sound', admits⟩ := admits_of_nextTask? sound next
    have polled : SameStaff o (p.execute t).2 :=
      (Eases.of_frame frame).sameStaff.trans (sameStaff_execute p t)
    intro q hq started isRetry
    rcases List.mem_cons.1 hq with rfl | hq
    · exact ⟨polled, sparesFresh_of_started frame (admits isRetry) started⟩
    · have kept : (p.execute t).2.lanes.Sound := by
        rw [lanes_execute]
        exact sound'
      obtain ⟨staff, spares⟩ := ih kept q hq started isRetry
      exact ⟨polled.trans staff, spares⟩

theorem sameStaff (serves : Serves o ps o') : SameStaff o o' := by
  induction serves with
  | done => exact ⟨rfl, rfl⟩
  | @drop o p o'' bulk n excluded t r ps next invalid rest ih =>
    have dropped : Eases o (p.fail t r.cause) := .of_frame ((frame_fail t r.cause).trans (frame_nextTask? next))
    exact dropped.sameStaff.trans ih
  | execute next valid rest ih =>
    have polled := Eases.of_frame (frame_nextTask? next)
    exact (polled.sameStaff.trans (sameStaff_execute _ _)).trans ih

theorem keepsReserve (serves : Serves o ps o') (sound : o.lanes.Sound) (keeps : o.KeepsReserve) :
    o'.KeepsReserve := by
  induction serves with
  | done => exact keeps
  | @drop o p o'' bulk n excluded t r ps next invalid rest ih =>
    obtain ⟨frame, sound', -⟩ := admits_of_nextTask? sound next
    refine ih ?_ (Eases.keepsReserve (.of_frame ((frame_fail t r.cause).trans frame)) keeps)
    rw [Ticking.lanes_fail]
    exact sound'
  | @execute o p o'' bulk n excluded t ps next valid rest ih =>
    obtain ⟨frame, sound', admits⟩ := admits_of_nextTask? sound next
    have polled : p.KeepsReserve := (Eases.of_frame frame).keepsReserve keeps
    refine ih ?_ ?_
    · rw [lanes_execute]
      exact sound'
    · cases started : p.attemptOf t with
      | none => exact (eases_of_idle started).keepsReserve polled
      | some a =>
        have started : (p.attemptOf t).isSome := by rw [started]; rfl
        exact keepsReserve_of_started polled started fun isRetry =>
          sparesFresh_of_started frame (admits isRetry) started

end Ticking.Serves

/-! ### Histories -/

namespace World

open Office

variable {w : World} {h : Happening}

/-- Whatever happens is some turns of a tick, or executes nothing and at most takes attempts out of flight. -/
theorem eases_or_serves (w : World) (h : Happening) : (w.executed h = [] ∧ Eases w.office (w.after h).office) ∨
    ∃ o, o.lanes = w.office.lanes ∧ Eases w.office o ∧ Ticking.Serves o (w.executed h) (w.after h).office := by
  by_cases uses : h.usesWorkers
  · cases h with
    | tick =>
      exact .inr ⟨{ w.office with hold := w.office.bulkBudget.2 }, rfl, ⟨fun _ => Nat.le_refl _, rfl, rfl⟩,
        Ticking.serves w.office.bulkBudget.1 w.office.lanes.total
          { office := { w.office with hold := w.office.bulkBudget.2 } }⟩
    | turns bulk n report bulkStarted excluded =>
      exact .inr ⟨w.office, rfl, .refl _, Ticking.serves bulk n
        { office := w.office, report := report, bulkStarted := bulkStarted, excluded := excluded }⟩
    | sendEnded | closeWorkers | takeSends | takeWaiters => exact .inl ⟨rfl, fun _ => Nat.le_refl _, rfl, rfl⟩
    | _ => cases uses
  · exact .inl ⟨executed_of_idle (Bool.not_eq_true _ ▸ uses), .of_rests (rests_after w (Bool.not_eq_true _ ▸ uses))⟩

theorem sameStaff_after (w : World) (h : Happening) : SameStaff w.office (w.after h).office := by
  rcases w.eases_or_serves h with ⟨-, eases⟩ | ⟨o, -, begun, serves⟩
  · exact eases.sameStaff
  · exact begun.sameStaff.trans serves.sameStaff

theorem keepsReserve_after (sound : w.office.lanes.Sound) (keeps : w.office.KeepsReserve) (h : Happening) :
    (w.after h).office.KeepsReserve := by
  rcases w.eases_or_serves h with ⟨-, eases⟩ | ⟨o, lanes, begun, serves⟩
  · exact eases.keepsReserve keeps
  · exact serves.keepsReserve (lanes ▸ sound) (begun.keepsReserve keeps)

/-- Whatever a happening executes is executed in turns of a tick that begin with the lanes and the staff as they
are. -/
theorem sparesFresh_executed (sound : w.office.lanes.Sound) {p : Office × Task} (hp : p ∈ w.executed h)
    (started : (p.1.attemptOf p.2).isSome) (isRetry : p.2.lane.isRetry) :
    SameStaff w.office (p.1.execute p.2).2 ∧ (p.1.execute p.2).2.SparesFresh p.2.lane := by
  rcases w.eases_or_serves h with ⟨idle, -⟩ | ⟨o, lanes, begun, serves⟩
  · rw [idle] at hp
    cases hp
  · obtain ⟨staff, spares⟩ := serves.sparesFresh (lanes ▸ sound) p hp started isRetry
    exact ⟨begun.sameStaff.trans staff, spares⟩

theorem sameStaff_run (w : World) (hs : List Happening) : SameStaff w.office (w.run hs).office := by
  induction hs generalizing w with
  | nil => exact ⟨rfl, rfl⟩
  | cons h hs ih => exact (sameStaff_after w h).trans (ih (w.after h))

theorem keepsReserve_run (sound : w.office.lanes.Sound) (keeps : w.office.KeepsReserve) (hs : List Happening) :
    (w.run hs).office.KeepsReserve := by
  induction hs generalizing w with
  | nil => exact keeps
  | cons h hs ih => exact ih (sound_after h sound) (keepsReserve_after sound keeps h)

/-- After every history: a retry that is started now is the only one of its class in flight, or it leaves the
reserve besides the other class; no more retries of a class are in flight than the reserve allows, or one; and
where none is, one is let through, unless the other class holds all workers. -/
theorem freshReserve_run (config : Config) (workers : Nat) (wall : Calendar.Moment) (hs : List Happening) :
    let w := (opening config workers wall).run hs
    let maxWorkers := max (config.workers.maxWorkers.getD workers) 1
    (∀ h, ∀ p ∈ w.executed h, (p.1.attemptOf p.2).isSome → p.2.lane.isRetry →
      (p.1.execute p.2).2.inFlight.get p.2.lane = 1 ∨
        (p.1.execute p.2).2.inFlight.get p.2.lane + (p.1.execute p.2).2.inFlightOf p.2.lane.traffic.other ≤
          maxWorkers - config.quota.freshReserve) ∧
    (∀ k : TrafficClass, w.office.inFlight.get k.retryLane ≤ max 1 (maxWorkers - config.quota.freshReserve)) ∧
    ∀ (k : TrafficClass) (excluded : List Domain), w.office.inFlight.get k.retryLane = 0 →
      w.office.inFlightOf k.other < maxWorkers → w.office.retryAdmits k.retryLane excluded := by
  intro w maxWorkers
  have sound : w.office.lanes.Sound := sound_run (sound_opening config workers wall) hs
  obtain ⟨size, quota⟩ := sameStaff_run (opening config workers wall) hs
  have size : w.office.workers.size = maxWorkers := size
  have quota : w.office.config.quota = config.quota := quota
  refine ⟨fun h p hp started isRetry => ?_, fun k => ?_, fun k excluded none room => ?_⟩
  · obtain ⟨staff, spares⟩ := sparesFresh_executed sound hp started isRetry
    rwa [SparesFresh, staff.1, staff.2, size, quota] at spares
  · have empty : (opening config workers wall).office.KeepsReserve := by
      intro k
      exact (Nat.le_of_eq (PerLane.get_const 0 k.retryLane)).trans (Nat.zero_le _)
    have kept := keepsReserve_run (sound_opening config workers wall) empty hs k
    rwa [size, quota] at kept
  · refine retryAdmits_of_none none ?_ excluded
    rw [size]
    cases k <;> exact room

/-- The first attempt at a letter loses its connection; its retry is in the lane again. -/
def letterBack : List Happening :=
  [.submit letter, .tick, .sendEnded 0 (.error (.transport (.connectionLost "gone"))), .collect 0, .pass 1000,
    .wake 1]

/-- The only worker is kept for fresh work; the retry starts alone. -/
theorem freshReserve_letterBack :
    let w := (opening {} 1 0).run letterBack
    (w.executed .tick).map (fun p => ((p.1.attemptOf p.2).isSome, p.2.lane.isRetry)) = [(true, true)] ∧
      ∀ p ∈ w.executed .tick, (p.1.execute p.2).2.inFlight.get p.2.lane = 1 := by
  intro w
  have executed : (w.executed .tick).map (fun p => ((p.1.attemptOf p.2).isSome, p.2.lane.isRetry)) =
      [(true, true)] := by decide
  refine ⟨executed, fun p hp => ?_⟩
  have both := List.mem_map_of_mem (f := fun p : Office × Task =>
    ((p.1.attemptOf p.2).isSome, p.2.lane.isRetry)) hp
  rw [executed, List.mem_singleton] at both
  obtain ⟨started, isRetry⟩ := Prod.mk.inj both
  rcases (freshReserve_run {} 1 0 letterBack).1 .tick p hp started isRetry with
    alone | spares
  · exact alone
  · -- the reserve leaves no worker, but the retry holds one
    have held : (w.executed .tick).all (fun p => 1 ≤ (p.1.execute p.2).2.inFlight.get p.2.lane) := by decide
    have one := of_decide_eq_true (List.all_eq_true.1 held p hp)
    have none : max ((none : Option Nat).getD 1) 1 - 1 = 0 := rfl
    exact absurd (spares.trans (Nat.le_of_eq none)) (by omega)

end World

end Postroom
