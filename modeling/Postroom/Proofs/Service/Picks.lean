import Postroom.Proofs.Desk.Course

/-!
# What a tick picks

Turn by turn, a tick picks the next task of the first lane that is ready: a lane of bulk work only while the
bulk budget lasts, a lane of retries only while the quota of its class allows another one, and any lane only
where it has a task of a domain that met no shortage in this tick. It stops where the dispatch cap is reached,
no worker is free or no lane is ready, and nothing else stops it.

- `Ticking.Ready`, `Ticking.Over`: a lane may be served; the tick may not go on.
- `Ticking.Takes`: a turn takes a task from the first lane that is ready.
- `Pick`, `Ticking.Turns`: a task with what became of it; the turn in which it is picked.
- `Ticking.Picks`: a tick as a list of picks.
- `Ticking.picks_serve`, `Ticking.picks_tick`: with sound lanes and turns for all queued tasks, a tick is such a list
  of picks.
-/

namespace Postroom

/-- How many retries may be in flight in a lane, given the work that is queued and in flight. -/
def Office.retryLimit (o : Office) (l : Lane) (excluded : List Domain) : Nat :=
  o.config.quota.limit (o.workers.size - o.inFlightOf l.traffic.other)
    ((o.lanes.line l.traffic.freshLane).hasAvailable excluded) (o.oldestWait l excluded)

/-- What became of a task that a tick picked. -/
inductive Fate where
  /-- Its run is not valid, and it ended. -/
  | dropped
  | started
  /-- It met a shortage. -/
  | deferred
  deriving DecidableEq

/-- A task picked by a tick. -/
structure Pick where
  /-- The tick when the task was picked. -/
  before : Ticking
  lane : Lane
  task : Task
  fate : Fate

namespace Ticking

variable {bulk : BulkBudget} {s s' : Ticking} {l : Lane} {t : Task} {o : Office}

/-- A lane may be served. -/
structure Ready (bulk : BulkBudget) (s : Ticking) (l : Lane) : Prop where
  /-- If it is a lane of bulk work, the bulk budget is not used up. -/
  budget : l.traffic = .bulk → bulk.allows s.bulkStarted
  /-- If it is a lane of retries, fewer of them are in flight than may be. -/
  quota : l.isRetry → s.office.inFlight.get l < s.office.retryLimit l s.excluded
  /-- It has a task of a domain that met no shortage. -/
  work : ∃ t ∈ (s.office.lanes.line l).tasks, t.domain ∉ s.excluded

/-- Why a tick goes no further. -/
inductive Over (bulk : BulkBudget) (s : Ticking) : Prop where
  | full (cap : Nat) (set : s.office.config.workers.maxDispatchPerTick = some cap)
      (reached : cap ≤ s.report.dispatched)
  | busy (none : s.office.workers.hasCapacity = false)
  | idle (none : ∀ l, ¬ Ready bulk s l)

/-- A turn takes `t` from `l`, the first lane that is ready, and leaves `o`. -/
structure Takes (bulk : BulkBudget) (s : Ticking) (l : Lane) (t : Task) (o : Office) : Prop where
  /-- Not enough tasks were started, and a worker is free. -/
  may : s.mayStart
  ready : Ready bulk s l
  first : ∀ l' : Lane, l'.index < l.index → ¬ Ready bulk s l'
  polled : s.office.poll? l s.excluded = some (t, o)

/-- One turn, from one state of a tick to the next, with the task that is picked. -/
inductive Turns (bulk : BulkBudget) (s : Ticking) : Pick → Ticking → Prop where
  | drop {l : Lane} {t : Task} {o : Office} {r : Rejection} (taken : Takes bulk s l t o)
      (invalid : o.registry.validate t = .error r) : Turns bulk s ⟨s, l, t, .dropped⟩ (s.dropped o t r)
  | start {l : Lane} {t : Task} {o o' : Office} {number : Nat} (taken : Takes bulk s l t o)
      (valid : o.registry.validate t = .ok ()) (started : o.execute t = (.started number, o')) :
      Turns bulk s ⟨s, l, t, .started⟩ (s.started o' t number)
  | defer {l : Lane} {t : Task} {o o' : Office} {expiry : Option Nat} (taken : Takes bulk s l t o)
      (valid : o.registry.validate t = .ok ()) (deferred : o.execute t = (.deferred expiry, o')) :
      Turns bulk s ⟨s, l, t, .deferred⟩ (s.deferred o' t expiry)

/-- The rest of a tick, from one state to its end, with the tasks that are picked. -/
inductive Picks (bulk : BulkBudget) : Ticking → List Pick → Ticking → Prop where
  | stop {s : Ticking} (ends : Over bulk s) : Picks bulk s [] s
  | turn {s s' s'' : Ticking} {p : Pick} {ps : List Pick} (turn : Turns bulk s p s')
      (rest : Picks bulk s' ps s'') : Picks bulk s (p :: ps) s''

/-! ### The next task -/

theorem isServed_iff : s.office.isServed bulk s.bulkStarted s.excluded l ↔
    (l.traffic = .bulk → bulk.allows s.bulkStarted) ∧
      (l.isRetry → s.office.inFlight.get l < s.office.retryLimit l s.excluded) := by
  have admits : s.office.retryAdmits l s.excluded ↔
      s.office.inFlight.get l < s.office.retryLimit l s.excluded := decide_eq_true_iff
  rw [Office.isServed, Bool.and_eq_true, Bool.or_eq_true, Bool.or_eq_true, Bool.not_eq_true', admits,
    decide_eq_true_iff]
  refine and_congr ?_ ?_
  · cases l.traffic <;> simp
  · cases l.isRetry <;> simp

/-- The next task of a lane, if it may be served. -/
def nextOf (bulk : BulkBudget) (s : Ticking) (l : Lane) : Option (Task × Office) :=
  if s.office.isServed bulk s.bulkStarted s.excluded l then s.office.poll? l s.excluded else none

/-- A lane is ready where it may be served and has a next task. -/
theorem ready_iff (sound : s.office.lanes.Sound) : Ready bulk s l ↔ (nextOf bulk s l).isSome := by
  have work : (s.office.poll? l s.excluded).isSome ↔
      ∃ t ∈ (s.office.lanes.line l).tasks, t.domain ∉ s.excluded := by
    rw [Office.poll?, Option.isSome_map, sound.isSome_poll?, (sound l).hasAvailable_iff]
  rw [nextOf]
  by_cases served : s.office.isServed bulk s.bulkStarted s.excluded l
  · obtain ⟨budget, quota⟩ := isServed_iff.1 served
    rw [if_pos served, work]
    exact ⟨fun ready => ready.work, fun some => ⟨budget, quota, some⟩⟩
  · rw [if_neg served]
    exact ⟨fun ready => absurd (isServed_iff.2 ⟨ready.budget, ready.quota⟩) served, nofun⟩

/-- The lanes before another one in the service order are those of smaller index. -/
theorem mem_of_index_lt {before behind : List Lane} {l' : Lane} (order : Lane.serviceOrder = before ++ l :: behind)
    (less : l'.index < l.index) : l' ∈ before := by
  have sorted : (before ++ l :: behind).Pairwise fun a b => a.index < b.index := order ▸ (by decide)
  have listed : l' ∈ before ++ l :: behind := order ▸ Lane.mem_serviceOrder l'
  rcases List.mem_append.1 listed with first | later
  · exact first
  · rcases List.mem_cons.1 later with rfl | later
    · omega
    · have after := (List.pairwise_cons.1 (List.pairwise_append.1 sorted).2.1).1 l' later
      omega

/-- The next task of a tick comes from the first lane that is ready. -/
theorem takes_of_nextTask? (sound : s.office.lanes.Sound) (may : s.mayStart)
    (next : s.office.nextTask? bulk s.bulkStarted s.excluded = some (t, o)) : ∃ l, Takes bulk s l t o := by
  obtain ⟨before, l, behind, order, here, none⟩ := List.findSome?_eq_some_iff.1 next
  have here : nextOf bulk s l = some (t, o) := here
  refine ⟨l, may, (ready_iff sound).2 (by rw [here]; rfl), fun l' less ready => ?_, ?_⟩
  · have gone : nextOf bulk s l' = .none := none l' (mem_of_index_lt order less)
    rw [ready_iff sound, gone] at ready
    cases ready
  · rw [nextOf] at here
    split at here
    · exact here
    · cases here

/-- Without a next task no lane is ready. -/
theorem not_ready_of_nextTask? (sound : s.office.lanes.Sound)
    (none : s.office.nextTask? bulk s.bulkStarted s.excluded = none) : ∀ l, ¬ Ready bulk s l := by
  intro l ready
  have gone : nextOf bulk s l = .none := List.findSome?_eq_none_iff.1 none l (Lane.mem_serviceOrder l)
  rw [ready_iff sound, gone] at ready
  cases ready

/-- Where no more may be started, the tick is over. -/
theorem over_of_mayStart (none : s.mayStart = false) : Over bulk s := by
  unfold mayStart at none
  rcases Bool.and_eq_false_iff.1 none with full | busy
  · split at full
    · next cap set => exact .full cap set (Nat.le_of_not_lt (of_decide_eq_false full))
    · cases full
  · exact .busy busy

/-! ### The office after a turn -/

theorem lanes_fail (o : Office) (t : Task) (cause : Fault) : (o.fail t cause).lanes = o.lanes := by
  have same := congrArg Desk.lanes (Office.desk_conclude (o := o) t (.error cause))
  exact same.trans (Desk.lanes_conclude ..)

/-- A task is taken out of its lane, and everything else stays in the lanes. -/
theorem lanes_of_polled (polled : s.office.poll? l s.excluded = some (t, o)) :
    s.office.lanes.poll? l s.excluded = some (t, o.lanes) := by
  obtain ⟨⟨u, lanes⟩, taken, he⟩ := Option.map_eq_some_iff.1 polled
  cases he
  exact taken

/-- Where a worker is free, no start is refused. -/
theorem execute_of_hasCapacity (free : o.workers.hasCapacity) (cause : Fault) :
    (o.execute t).1 ≠ .refused cause := by
  rw [Workers.hasCapacity, Bool.and_eq_true, Bool.not_eq_true', decide_eq_true_iff] at free
  rw [Office.execute_eq]
  split
  · split <;> nofun
  · next permit o' acquired =>
    have workers : (o'.countStart t.lane).workers = o.workers :=
      congrArg (·.workers) (Office.frame_acquire? acquired)
    obtain ⟨busier, starts⟩ :
        ∃ busier, (o'.countStart t.lane).workers.start (o'.countStart t.lane).nextNumber = .ok busier := by
      rw [workers, Workers.start, if_neg (Bool.not_eq_true _ ▸ free.1), if_neg (Nat.not_le_of_lt free.2)]
      exact ⟨_, rfl⟩
    dsimp only
    rw [starts]
    nofun

/-- A turn takes its task out of the lane, and everything else stays in the lanes. -/
theorem poll?_of_turns {p : Pick} (turn : Turns bulk s p s') :
    s.office.lanes.poll? p.lane s.excluded = some (p.task, s'.office.lanes) := by
  cases turn with
  | @drop l t o r taken invalid =>
    show _ = some (t, (o.fail t r.cause).lanes)
    rw [lanes_fail]
    exact lanes_of_polled taken.polled
  | @start l t o o' number taken valid started =>
    obtain rfl : (o.execute t).2 = o' := congrArg Prod.snd started
    show _ = some (t, (o.execute t).2.lanes)
    rw [Office.lanes_execute]
    exact lanes_of_polled taken.polled
  | @defer l t o o' expiry taken valid deferred =>
    obtain rfl : (o.execute t).2 = o' := congrArg Prod.snd deferred
    show _ = some (t, (o.execute t).2.lanes)
    rw [Office.lanes_execute]
    exact lanes_of_polled taken.polled

/-- While more may be started and there is a next task, the tick goes on by a turn. -/
theorem exists_turns (sound : s.office.lanes.Sound) (may : s.mayStart)
    (next : s.office.nextTask? bulk s.bulkStarted s.excluded = some (t, o)) (n : Nat) :
    ∃ p s', Turns bulk s p s' ∧ serve bulk (n + 1) s = serve bulk n s' := by
  obtain ⟨l, taken⟩ := takes_of_nextTask? sound may next
  rw [serve, if_pos may, next]
  dsimp only
  rcases valid : o.registry.validate t with r | ⟨⟩
  · exact ⟨_, _, .drop taken valid, rfl⟩
  · dsimp only
    rcases executed : o.execute t with ⟨x, o'⟩
    cases x with
    | started number => exact ⟨_, _, .start taken valid executed, rfl⟩
    | deferred expiry => exact ⟨_, _, .defer taken valid executed, rfl⟩
    | refused cause =>
      -- a worker was free before the task was taken, and still is
      have workers : o.workers = s.office.workers := congrArg (·.workers) (Office.frame_poll? taken.polled)
      have free : o.workers.hasCapacity := workers ▸ (Bool.and_eq_true _ _ ▸ may).2
      exact absurd (congrArg Prod.fst executed) (execute_of_hasCapacity free cause)

/-- With sound lanes, and turns for all queued tasks, a tick is a list of picks. -/
theorem picks_serve (bulk : BulkBudget) (n : Nat) (s : Ticking) (sound : s.office.lanes.Sound)
    (turns : s.office.lanes.tasks.length ≤ n) : ∃ ps, Picks bulk s ps (serve bulk n s) := by
  induction n generalizing s with
  | zero =>
    -- nothing is queued
    refine ⟨[], .stop (.idle fun l ready => ?_)⟩
    obtain ⟨t, ht, -⟩ := ready.work
    have none := List.length_eq_zero_iff.1 (Nat.le_zero.1 turns)
    have queued : t ∈ s.office.lanes.tasks := (Lanes.mem_tasks_iff _).2 ⟨l, ht⟩
    rw [none] at queued
    cases queued
  | succ n ih =>
    by_cases may : s.mayStart
    · cases next : s.office.nextTask? bulk s.bulkStarted s.excluded with
      | none =>
        rw [serve, if_pos may, next]
        exact ⟨[], .stop (.idle (not_ready_of_nextTask? sound next))⟩
      | some picked =>
        obtain ⟨p, s', turn, goesOn⟩ := exists_turns sound may next n
        have polled := poll?_of_turns turn
        have fewer : s'.office.lanes.tasks.length ≤ n := by
          have one := congrArg Multiset.card (Lanes.coe_poll? polled)
          rw [Multiset.coe_card, Multiset.card_cons, Multiset.coe_card] at one
          omega
        obtain ⟨ps, rest⟩ := ih s' (sound.poll? polled) fewer
        exact ⟨p :: ps, goesOn ▸ .turn turn rest⟩
    · rw [serve, if_neg may]
      exact ⟨[], .stop (over_of_mayStart (Bool.not_eq_true _ ▸ may))⟩

theorem picks_tick (o : Office) (sound : o.lanes.Sound) :
    ∃ ps, Picks o.bulkBudget.1 { office := { o with hold := o.bulkBudget.2 } } ps o.tick :=
  picks_serve o.bulkBudget.1 o.lanes.total _ sound (Nat.le_of_eq sound.total.symm)

end Ticking

end Postroom
