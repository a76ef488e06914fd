import Postroom.Proofs.Custody.Recipients
import Postroom.Proofs.Shutdown.Idle
import Postroom.Proofs.Tables
import Postroom.Proofs.Waits.Course

/-!
# Every wait on record is waited

A wait on record is that of a live task that is queued, sleeps since a shortage, or is in the hands of a caller, as
long as callers end or keep what a registration hands out: whatever takes a task off the bench ends its wait. A
task that is sent, settled or sleeps until a retry is not on the bench in this sense, so where no two live tasks
have one name it has no wait on record, and neither has a batch that has ended.

- `Bench.Attended`: the invariant. `Bench.attendedBy_step`: every step keeps it that lets go of no task, also with a
  mark on the tasks that have waits.
- `World.shelvedAlong`: the sleepers that fell asleep in a shortage along a history.
- `World.WaitsAttended`, `World.waitsAttended_run`: what this means for the record, also after a shutdown.
- `World.wait_left_behind`: a caller that drops a task leaves its wait behind.
-/

namespace Postroom

namespace WaitTable

variable {w : WaitTable} {e : BatchId × Wait} {id : BatchId}

theorem mem_clear : e ∈ (w.clear id).waits.entries ↔ e ∈ w.waits.entries ∧ e.1 ≠ id := by
  rw [clear, Table.erase, List.mem_filter, decide_eq_true_iff]

theorem mem_of_clearJob {job : RunnerId} (h : e ∈ (w.clearJob job).waits.entries) : e ∈ w.waits.entries :=
  (List.mem_filter.1 h).1

/-- A wait that begins is the only one that comes to the record. -/
theorem mem_of_since {runner : Option RunnerId} {now : Int} (h : e ∈ (w.since id runner now).2.waits.entries) :
    e = (id, ⟨runner, now⟩) ∨ e ∈ w.waits.entries := by
  unfold since at h
  split at h
  · exact .inr h
  · exact Table.mem_of_insertPairs h

theorem mem_of_wait? {wait : Wait} (h : w.wait? id = some wait) : (id, wait) ∈ w.waits.entries := by
  obtain ⟨⟨k, v⟩, found, rfl⟩ := Option.map_eq_some_iff.1 h
  have same : decide (k = id) = true := List.find?_some (p := fun e : BatchId × Wait => decide (e.1 = id)) found
  obtain rfl : k = id := of_decide_eq_true same
  exact List.mem_of_find?_eq_some found

end WaitTable

namespace Bench

/-- A task is queued, in the hands, or asleep as sleepers are that satisfy `short`. -/
def Seats (short : Sleeper → Prop) (b : Bench) (t : Task) : Prop :=
  t ∈ b.queued ∨ t ∈ b.hands ∨ ∃ s ∈ b.asleep, short s ∧ s.task = t

/-- Every wait on record is that of a task with a place that satisfies `marked`, where sleepers count that satisfy
`short`. -/
def AttendedBy (marked : Task → Prop) (short : Sleeper → Prop) (b : Bench) : Prop :=
  ∀ e ∈ b.waits.waits.entries, ∃ t : Task, t.id = e.1 ∧ t.runnerId = e.2.runner ∧ marked t ∧ b.Seats short t

/-- Every wait on record is that of a task with a place, where sleepers count that satisfy `short`. -/
def Attended (short : Sleeper → Prop) (b : Bench) : Prop :=
  ∀ e ∈ b.waits.waits.entries, ∃ t : Task, t.id = e.1 ∧ t.runnerId = e.2.runner ∧ b.Seats short t

variable {marked : Task → Prop} {short : Sleeper → Prop} {ok : Effect → Prop} {b c : Bench}

theorem AttendedBy.attended (attended : b.AttendedBy marked short) : b.Attended short := by
  intro e he
  obtain ⟨t, id, runner, -, seats⟩ := attended e he
  exact ⟨t, id, runner, seats⟩

theorem attended_iff : b.Attended short ↔ b.AttendedBy (fun _ => True) short := by
  refine ⟨fun attended e he => ?_, fun attended => attended.attended⟩
  obtain ⟨t, id, runner, seats⟩ := attended e he
  exact ⟨t, id, runner, trivial, seats⟩

theorem AttendedBy.mono {marked' : Task → Prop} (more : ∀ t, marked t → marked' t)
    (attended : b.AttendedBy marked short) : b.AttendedBy marked' short := by
  intro e he
  obtain ⟨t, id, runner, mark, seats⟩ := attended e he
  exact ⟨t, id, runner, more t mark, seats⟩

/-- Where no wait comes to the record, and whatever has a wait keeps a place, the waits stay attended. -/
theorem AttendedBy.moved (attended : b.AttendedBy marked short)
    (fewer : ∀ e ∈ c.waits.waits.entries, e ∈ b.waits.waits.entries)
    (seated : ∀ e ∈ c.waits.waits.entries, ∀ t : Task, t.id = e.1 → marked t → b.Seats short t →
      ∃ u : Task, u.id = t.id ∧ u.runnerId = t.runnerId ∧ marked u ∧ c.Seats short u) :
    c.AttendedBy marked short := by
  intro e he
  obtain ⟨t, id, runner, mark, seats⟩ := attended e (fewer e he)
  obtain ⟨u, sameId, sameRunner, mark, seats⟩ := seated e he t id mark seats
  exact ⟨u, sameId.trans id, sameRunner.trans runner, mark, seats⟩

/-- Every step keeps the waits attended that lets go of no task, where a task that finds no resources is marked, and
stays so in its lane. -/
theorem attendedBy_step (shelves : ∀ s, ok (.shelve s) → short s) (holds : ∀ t, ¬ ok (.letGo t))
    (lacks : ∀ t, ok (.lack t) → marked t) (stays : ∀ t now, marked t → marked { t with enqueuedAt := now })
    (step : Step ok b c) (attended : b.AttendedBy marked short) : c.AttendedBy marked short := by
  cases step with
  | @poll w q z H t =>
    refine attended.moved (fun e he => he) fun e _ u _ mark seats => ⟨u, rfl, rfl, mark, ?_⟩
    simp only [Seats, Multiset.mem_cons] at seats ⊢
    tauto
  | @rouse w q z H s =>
    refine attended.moved (fun e he => he) fun e _ u _ mark seats => ⟨u, rfl, rfl, mark, ?_⟩
    rcases seats with queued | held | ⟨v, hv, shelved, rfl⟩
    · exact .inl queued
    · exact .inr (.inl (Multiset.mem_cons_of_mem held))
    · rcases Multiset.mem_cons.1 hv with rfl | hv
      · exact .inr (.inl (Multiset.mem_cons_self ..))
      · exact .inr (.inr ⟨v, hv, shelved, rfl⟩)
  | bring t =>
    refine attended.moved (fun e he => he) fun e _ u _ mark seats => ⟨u, rfl, rfl, mark, ?_⟩
    exact seats.imp_right (Or.imp_left Multiset.mem_cons_of_mem)
  | @queue w q z H t now =>
    refine attended.moved (fun e he => he) fun e _ u _ mark seats => ?_
    rcases seats with queued | held | asleep
    · exact ⟨u, rfl, rfl, mark, .inl (Multiset.mem_cons_of_mem queued)⟩
    · rcases Multiset.mem_cons.1 held with rfl | held
      · exact ⟨{ u with enqueuedAt := now }, rfl, rfl, stays u now mark, .inl (Multiset.mem_cons_self ..)⟩
      · exact ⟨u, rfl, rfl, mark, .inr (.inl held)⟩
    · exact ⟨u, rfl, rfl, mark, .inr (.inr asleep)⟩
  | @shelve w q z H s permitted =>
    refine attended.moved (fun e he => he) fun e _ u _ mark seats => ⟨u, rfl, rfl, mark, ?_⟩
    rcases seats with queued | held | ⟨v, hv, shelved, rfl⟩
    · exact .inl queued
    · rcases Multiset.mem_cons.1 held with rfl | held
      · exact .inr (.inr ⟨s, Multiset.mem_cons_self .., shelves s permitted, rfl⟩)
      · exact .inr (.inl held)
    · exact .inr (.inr ⟨v, Multiset.mem_cons_of_mem hv, shelved, rfl⟩)
  | nap s =>
    refine attended.moved (fun e he => he) fun e _ u _ mark seats => ⟨u, rfl, rfl, mark, ?_⟩
    rcases seats with queued | held | ⟨v, hv, shelved, rfl⟩
    · exact .inl queued
    · exact .inr (.inl held)
    · exact .inr (.inr ⟨v, Multiset.mem_cons_of_mem hv, shelved, rfl⟩)
  | @lack w q z H t now permitted =>
    intro e he
    rcases WaitTable.mem_of_since he with rfl | old
    · exact ⟨t, rfl, rfl, lacks t permitted, .inr (.inl (Multiset.mem_cons_self ..))⟩
    · exact attended e old
  | @leave w q z H t permitted =>
    -- the task that leaves has no wait any more
    refine attended.moved (fun e he => (WaitTable.mem_clear.1 he).1) fun e he u id mark seats => ⟨u, rfl, rfl, mark, ?_⟩
    refine seats.imp_right (Or.imp_left fun held => (Multiset.mem_cons.1 held).resolve_left ?_)
    rintro rfl
    exact (WaitTable.mem_clear.1 he).2 id.symm
  | clearJob job permitted =>
    exact attended.moved (fun e he => WaitTable.mem_of_clearJob he) fun e _ u _ mark seats => ⟨u, rfl, rfl, mark, seats⟩
  | letGo t permitted => exact absurd permitted (holds t)

end Bench

/-- What can have a wait on record: a task that is queued, asleep as one of `short`, or taken out. -/
def Holding.awaits (short : List Sleeper) : Holding → Bool
  | .queued .. | .outside _ => true
  | .asleep s => s ∈ short
  | .attempt _ | .expiry _ | .settlement _ => false

theorem Holding.onBench_of_awaits {short : List Sleeper} {x : Holding} (awaits : x.awaits short) : x.onBench := by
  cases x with
  | queued | asleep | outside => rfl
  | attempt | expiry | settlement => cases awaits

namespace World

open Bench Office Custody

variable {w : World} {h : Happening} {short : List Sleeper}

/-- Whoever took a task out of the office ends it or keeps it. -/
def HoldsOn (_ : World) (h : Happening) : Prop := ∀ place, h ≠ .dropOutside place

/-- The sleepers that fall asleep in a shortage along a history. -/
def shelvedAlong : World → List Happening → List Sleeper
  | _, [] => []
  | w, h :: hs => w.shelved h ++ shelvedAlong (w.after h) hs

theorem shelvedAlong_append (w : World) (hs ks : List Happening) :
    w.shelvedAlong (hs ++ ks) = w.shelvedAlong hs ++ (w.run hs).shelvedAlong ks := by
  induction hs generalizing w with
  | nil => rfl
  | cons h hs ih => rw [List.cons_append, shelvedAlong, ih, shelvedAlong, List.append_assoc, run_cons]

/-- Where callers hold on to what they took out, the waits stay attended by marked tasks. -/
theorem attendedBy_after {marked : Task → Prop} (regular : w.custody.Regular) (owned : w.custody.Owned)
    (holds : HoldsOn w h) (shelved : ∀ s ∈ w.shelved h, s ∈ short)
    (lacks : ∀ o t, (o, t) ∈ w.executed h → o.acquire? t = none → marked t)
    (stays : ∀ t now, marked t → marked { t with enqueuedAt := now })
    (attended : w.bench.AttendedBy marked (· ∈ short)) : (w.after h).bench.AttendedBy marked (· ∈ short) := by
  have step : ∀ b c, Step (w.Affects h) b c → b.AttendedBy marked (· ∈ short) → c.AttendedBy marked (· ∈ short) := by
    refine fun b c => attendedBy_step (fun s may => ?_) (fun t may => ?_) (fun t may => ?_) stays
    · cases may with
      | shelves hs => exact shelved s hs
    · cases may with
      | drops same => exact holds _ same
    · cases may with
      | lacks executed none => exact lacks _ t executed none
  exact (affects_after regular owned h).keeps step attended

theorem attended_after (regular : w.custody.Regular) (owned : w.custody.Owned) (holds : HoldsOn w h)
    (shelved : ∀ s ∈ w.shelved h, s ∈ short) (attended : w.bench.Attended (· ∈ short)) :
    (w.after h).bench.Attended (· ∈ short) :=
  (attendedBy_after regular owned holds shelved (fun _ _ _ _ => trivial) (fun _ _ _ => trivial)
    (attended_iff.1 attended)).attended

theorem attended_run (regular : w.custody.Regular) (owned : w.custody.Owned) {hs : List Happening}
    (holds : Along HoldsOn w hs) (shelved : ∀ s ∈ w.shelvedAlong hs, s ∈ short)
    (attended : w.bench.Attended (· ∈ short)) : (w.run hs).bench.Attended (· ∈ short) := by
  induction hs generalizing w with
  | nil => exact attended
  | cons h hs ih =>
    refine ih (regular_after regular h) (owned_after regular owned h) holds.2
      (fun s hs => shelved s (List.mem_append_right _ hs)) ?_
    exact attended_after regular owned holds.1 (fun s hs => shelved s (List.mem_append_left _ hs)) attended

theorem attended_opening (config : Config) (workers : Nat) (wall : Calendar.Moment) :
    (opening config workers wall).bench.Attended (· ∈ short) := nofun

/-- Of a task that has a place there is a live task that can have a wait. -/
theorem exists_awaiting {t : Task} (seats : w.bench.Seats (· ∈ short) t) :
    ∃ x ∈ w.holdings, x.task = t ∧ x.awaits short := by
  rcases seats with queued | outside | ⟨s, asleep, shelved, rfl⟩
  · obtain ⟨l, queued⟩ := (Lanes.mem_tasks_iff _).1 (Multiset.mem_coe.1 queued)
    exact ⟨.queued l t, mem_holdings_queued.2 queued, rfl, rfl⟩
  · exact ⟨.outside t, mem_holdings_outside.2 (Multiset.mem_coe.1 outside), rfl, rfl⟩
  · exact ⟨.asleep s, mem_holdings_asleep.2 (Multiset.mem_coe.1 asleep), rfl, decide_eq_true shelved⟩

/-- No two live tasks have one name. -/
def Distinct (w : World) : Prop := (w.holdings.map (·.task.id)).Nodup

instance : Decidable w.Distinct := inferInstanceAs (Decidable (w.holdings.map (·.task.id)).Nodup)

theorem eq_of_id (distinct : w.Distinct) {x y : Holding} (hx : x ∈ w.holdings) (hy : y ∈ w.holdings)
    (same : x.task.id = y.task.id) : x = y := List.inj_on_of_nodup_map distinct hx hy same

/-- Where no two live tasks have one name, a task with a wait on record can have one, and its job is the one that
is on record. -/
theorem awaits_of_wait? (attended : w.bench.Attended (· ∈ short)) (distinct : w.Distinct) {x : Holding}
    (hx : x ∈ w.holdings) {wait : Wait} (found : w.office.waits.wait? x.task.id = some wait) :
    x.awaits short ∧ x.task.runnerId = wait.runner := by
  obtain ⟨t, id, runner, seats⟩ := attended _ (WaitTable.mem_of_wait? found)
  obtain ⟨y, hy, rfl, awaits⟩ := exists_awaiting seats
  obtain rfl := eq_of_id distinct hy hx id
  exact ⟨awaits, runner⟩

/-- The waits on record are waited, where `short` are the sleepers that fell asleep in a shortage. -/
structure WaitsAttended (w : World) (short : List Sleeper) : Prop where
  /-- Every wait on record is that of a live task that is queued, asleep since a shortage, or taken out. -/
  attended : ∀ e ∈ w.office.waits.waits.entries,
    ∃ x ∈ w.holdings, x.task.id = e.1 ∧ x.awaits short ∧ w.office.ledger.isOpen x.task.ticket
  /-- A task that is sent, settled or sleeps until a retry has no wait on record. -/
  others : w.Distinct → ∀ x ∈ w.holdings, x.awaits short = false → w.office.waits.start? x.task.id = none
  none : (∀ x ∈ w.holdings, x.awaits short = false) → w.office.waits.size = 0

theorem waitsAttended_of_attended (owned : w.custody.Owned) (attended : w.bench.Attended (· ∈ short)) :
    WaitsAttended w short where
  attended e he := by
    obtain ⟨t, id, -, seats⟩ := attended e he
    obtain ⟨x, hx, rfl, awaits⟩ := exists_awaiting seats
    exact ⟨x, hx, id, awaits, isOpen_of_live owned hx⟩
  others distinct x hx away := by
    refine Option.map_eq_none_iff.2 (Option.eq_none_iff_forall_ne_some.2 fun wait found => ?_)
    have awaits := (awaits_of_wait? attended distinct hx found).1
    rw [away] at awaits
    cases awaits
  none away := by
    refine List.length_eq_zero_iff.2 (List.eq_nil_iff_forall_not_mem.2 fun e he => ?_)
    obtain ⟨t, -, -, seats⟩ := attended e he
    obtain ⟨x, hx, -, awaits⟩ := exists_awaiting seats
    rw [away x hx] at awaits
    cases awaits

/-- When a shutdown is over and no caller holds a task, nothing can have a wait. -/
theorem away_of_cleared (cleared : w.Cleared) (returned : w.outside = []) :
    ∀ x ∈ w.holdings, x.awaits short = false := by
  intro x hx
  cases x with
  | queued l t =>
    have queued := (Lanes.mem_tasks_iff w.office.lanes).2 ⟨l, mem_holdings_queued.1 hx⟩
    rw [cleared.emptied] at queued
    cases queued
  | asleep s =>
    have asleep := mem_holdings_asleep.1 hx
    rw [show w.office.timers.sleepers = [] from cleared.awake.none] at asleep
    cases asleep
  | outside t =>
    have outside := mem_holdings_outside.1 hx
    rw [returned] at outside
    cases outside
  | attempt | expiry | settlement => rfl

/-- After every history in which callers end or keep what they took out, the waits on record are waited, and none
is left when a shutdown is over and no caller holds a task. -/
theorem waitsAttended_run (config : Config) (workers : Nat) (wall : Calendar.Moment) (hs : List Happening)
    (holds : Along HoldsOn (opening config workers wall) hs) :
    WaitsAttended ((opening config workers wall).run hs) ((opening config workers wall).shelvedAlong hs) ∧
      ∀ before (s : Shutdown) afterwards, hs = before ++ s.course ++ afterwards →
        ((opening config workers wall).run hs).outside = [] →
        ((opening config workers wall).run hs).office.waits.size = 0 := by
  have regular := regular_opening config workers wall
  have owned := owned_opening config workers wall
  have attended := attended_run regular owned holds (fun s hs => hs) (attended_opening config workers wall)
  have waits := waitsAttended_of_attended (owned_run regular owned hs) attended
  refine ⟨waits, ?_⟩
  rintro before s afterwards rfl returned
  refine waits.none (away_of_cleared ?_ returned)
  rw [run_append, run_append]
  exact cleared_run (cleared_of_shutdown s _) afterwards

/-- Settings under which no session to one domain is allowed. -/
def noSessions : Config := { addresses := { domainSessions := ⟨[("example.org", 0)]⟩ } }

/-- A letter finds no resources twice. -/
def letterShort : List Happening := [.submit letter, .tick, .pass 200, .wake 0, .tick]

/-- A letter that finds no resources has a wait on record, and none when it has ended with a shutdown. -/
theorem waitsAttended_letterShort :
    Along HoldsOn (opening noSessions 4 0) letterShort ∧
      WaitsAttended ((opening noSessions 4 0).run letterShort) ((opening noSessions 4 0).shelvedAlong letterShort) ∧
      ((opening noSessions 4 0).run letterShort).office.waits.size = 1 := by
  have holds : Along HoldsOn (opening noSessions 4 0) letterShort :=
    ⟨fun _ => nofun, fun _ => nofun, fun _ => nofun, fun _ => nofun, fun _ => nofun, trivial⟩
  exact ⟨holds, (waitsAttended_run noSessions 4 0 letterShort holds).1, by decide⟩

/-- A parcel that has found no resources is handed out by the registration of another run, and dropped. -/
def parcelDropped : List Happening :=
  [.register ⟨⟨"job"⟩, 1⟩, .submit parcel, .tick, .pass 200, .wake 0, .register ⟨⟨"job"⟩, 2⟩, .dropOutside 0]

/-- A caller that drops a task leaves its wait behind, though no task is live any more. -/
theorem wait_left_behind :
    ¬ ∀ (config : Config) (workers : Nat) (wall : Calendar.Moment) (hs : List Happening),
      Along (fun w _ => w.Distinct) (opening config workers wall) hs →
      ((opening config workers wall).run hs).Distinct →
      ∀ e ∈ ((opening config workers wall).run hs).office.waits.waits.entries,
        ∃ x ∈ ((opening config workers wall).run hs).holdings, x.task.id = e.1 := by
  intro all
  have distinct : Along (fun w _ => w.Distinct) (opening noSessions 4 0) parcelDropped := by decide
  have after : ((opening noSessions 4 0).run parcelDropped).Distinct := by decide
  have none : ((opening noSessions 4 0).run parcelDropped).holdings.map (·.task.id) = [] := by decide
  have left : (⟨"b1"⟩, ⟨some ⟨"job"⟩, 0⟩) ∈
      ((opening noSessions 4 0).run parcelDropped).office.waits.waits.entries := by decide
  obtain ⟨x, hx, -⟩ := all noSessions 4 0 parcelDropped distinct after _ left
  rw [List.map_eq_nil_iff.1 none] at hx
  cases hx

end World

end Postroom
