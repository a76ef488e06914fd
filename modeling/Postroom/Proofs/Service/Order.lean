import Postroom.Proofs.Service.Picks
import Postroom.Proofs.Settlements.Course

/-!
# The order of service

What follows for a whole tick from how each task is picked. Fresh realtime work goes first: whatever else a tick
picks, the fresh realtime work that is still queued is of domains that met a shortage before. A tick starts no
more bulk batches than its budget and no more batches than its cap, and after a domain has met a shortage it
picks nothing of that domain.

- `Custody.Laned`: every live task carries a lane of its class.
- `Ticking.SoFar`: what holds of a tick after some picks, kept by every turn.
- `Ticking.InOrder`: the order of a tick. `World.picksInOrder_tick`: every tick is in order.
-/

namespace Postroom

/-! ### Lanes and classes -/

namespace Custody

/-- Every live task carries a lane of its class. -/
def Laned (c : Custody) : Prop := ∀ x ∈ c.live, x.task.lane.traffic = x.task.traffic

variable {R : Task → Outcome → Prop} {c d : Custody}

theorem laned_replace {g : Config} {e : List Submission} {l l' : Ledger} {n n' : Nat} {x y : Holding}
    {L : Multiset Holding} (hc : Laned ⟨g, e, l, n, x ::ₘ L⟩) (hy : y.task.lane.traffic = y.task.traffic) :
    Laned ⟨g, e, l', n', y ::ₘ L⟩ := by
  intro z hz
  rcases Multiset.mem_cons.1 hz with rfl | hz
  · exact hy
  · exact hc z (Multiset.mem_cons_of_mem hz)

theorem laned_move {g : Config} {n n' : Nat} {x y : Holding} (m : Move R g n x y n')
    (hx : x.task.lane.traffic = x.task.traffic) : y.task.lane.traffic = y.task.traffic := by
  cases m with
  | retry t budget => exact Lane.traffic_retryLane _
  | _ => exact hx

theorem laned_change (h : Change R c d) (hc : Laned c) : Laned d := by
  cases h with
  | @move g e l n n' x y L m => exact laned_replace hc (laned_move m (hc x (Multiset.mem_cons_self x L)))
  | enter s nonempty =>
    intro z hz
    rcases Multiset.mem_cons.1 hz with rfl | hz
    · exact Lane.traffic_freshLane _
    · exact hc z hz
  | @settle g e l n L s =>
    have here : (Holding.settlement s).task.lane.traffic = s.task.traffic :=
      hc _ (Multiset.mem_cons_self _ L)
    exact laned_replace hc here
  | complete | fail => exact fun z hz => hc z (Multiset.mem_cons_of_mem hz)

theorem laned_run (config : Config) (workers : Nat) (wall : Calendar.Moment) (hs : List Happening) :
    ((World.opening config workers wall).run hs).custody.Laned := by
  have regular := World.regular_opening config workers wall
  have leads := World.leads_run (R := fun _ _ => True) regular
    (World.along_of_forall World.fits_true (World.opening config workers wall) hs)
  exact leads.keeps (fun _ _ => laned_change) fun x hx =>
    absurd hx (World.not_mem_live_opening config workers wall x)

/-- The settings do not change. -/
theorem Leads.config (h : Leads R c d) : d.config = c.config := by
  refine h.keeps (I := fun d => d.config = c.config) (fun d d' change same => ?_) rfl
  cases change <;> exact same

end Custody

theorem World.config_run (config : Config) (workers : Nat) (wall : Calendar.Moment) (hs : List Happening) :
    ((World.opening config workers wall).run hs).office.config = config :=
  (leads_run (R := fun _ _ => True) (regular_opening config workers wall) (along_of_forall fits_true _ hs)).config

/-- Every queued task is of the class of its lane. -/
def Lanes.Classed (q : Lanes) : Prop := ∀ l, ∀ t ∈ (q.line l).tasks, t.traffic = l.traffic

theorem World.classed_run (config : Config) (workers : Nat) (wall : Calendar.Moment) (hs : List Happening) :
    ((World.opening config workers wall).run hs).office.lanes.Classed := by
  intro l t ht
  have sound := World.sound_run (World.sound_opening config workers wall) hs
  have live := World.mem_holdings_queued.2 ht
  have laned := Custody.laned_run config workers wall hs (.queued l t)
    (by rwa [World.custody_live, Multiset.mem_coe])
  rw [← sound.mem_line ht]
  exact laned.symm

namespace Ticking

variable {bulk : BulkBudget} {s s' : Ticking} {p : Pick} {before ps : List Pick} {o : Office}

/-! ### One turn -/

/-- Whether a pick counts against the bulk budget. -/
def startsBulk (p : Pick) : Bool := p.fate = .started && p.task.traffic = .bulk

/-- What the office keeps when a task is taken from a lane and dealt with. -/
structure Leaves (s : Ticking) (l : Lane) (t : Task) (o : Office) : Prop where
  /-- The task was queued there, for a domain that had met no shortage. -/
  queued : t ∈ (s.office.lanes.line l).tasks
  eligible : t.domain ∉ s.excluded
  config : o.config = s.office.config
  sound : o.lanes.Sound
  /-- Nothing new is queued. -/
  fewer : ∀ l, ∀ t ∈ (o.lanes.line l).tasks, t ∈ (s.office.lanes.line l).tasks

theorem config_execute (o : Office) (t : Task) : (o.execute t).2.config = o.config :=
  (Office.leads_execute (R := fun _ _ => True) (o := o) (e := []) (H := 0) t).config

/-- What belongs to the frame of an office and is kept by executions, a turn keeps. -/
theorem view_of_turns {α : Type} (f : Office → α) (framed : ∀ o, f o.frame = f o)
    (execute : ∀ o t, f (o.execute t).2 = f o) (turn : Turns bulk s p s') : f s'.office = f s.office := by
  have same (o o' : Office) (frame : o'.frame = o.frame) : f o' = f o := by
    rw [← framed o', frame, framed]
  cases turn with
  | @drop l t o r taken invalid =>
    exact same _ _ ((Office.frame_fail t r.cause).trans (Office.frame_poll? taken.polled))
  | @start l t o o' number taken valid started =>
    obtain rfl : (o.execute t).2 = o' := congrArg Prod.snd started
    exact (execute o t).trans (same _ _ (Office.frame_poll? taken.polled))
  | @defer l t o o' expiry taken valid deferred =>
    obtain rfl : (o.execute t).2 = o' := congrArg Prod.snd deferred
    exact (execute o t).trans (same _ _ (Office.frame_poll? taken.polled))

theorem config_of_turns (turn : Turns bulk s p s') : s'.office.config = s.office.config :=
  view_of_turns (·.config) (fun _ => rfl) config_execute turn

theorem leaves_of_turns (sound : s.office.lanes.Sound) (turn : Turns bulk s p s') :
    Leaves s p.lane p.task s'.office := by
  have polled := poll?_of_turns turn
  obtain ⟨⟨u, n⟩, popped, he⟩ := Option.map_eq_some_iff.1 polled
  obtain ⟨rfl, -⟩ := Prod.mk.inj he
  have queued := (Line.tasks_pop? popped).mem_iff.2 (List.mem_cons_self ..)
  obtain ⟨rest, first, -⟩ := (sound p.lane).pop?_eq popped
  exact ⟨queued, Line.isEligible_iff.1 (List.find?_some first), config_of_turns turn, sound.poll? polled,
    fun _ _ => Lanes.mem_line_of_poll? polled⟩

/-- All that one turn does to a tick. -/
structure Turned (bulk : BulkBudget) (s : Ticking) (p : Pick) (s' : Ticking) : Prop where
  before : p.before = s
  takes : ∃ o, Takes bulk s p.lane p.task o
  leaves : Leaves s p.lane p.task s'.office
  excluded : ∀ d, d ∈ s'.excluded ↔ d ∈ s.excluded ∨ p.fate = .deferred ∧ p.task.domain = d
  dispatched : s'.report.dispatched = s.report.dispatched + [p].countP (·.fate = .started)
  dropped : s'.report.dropped = s.report.dropped + [p].countP (·.fate = .dropped)
  deferred : s'.report.deferred = s.report.deferred + [p].countP (·.fate = .deferred)
  bulkStarted : s'.bulkStarted = s.bulkStarted + [p].countP startsBulk

theorem turned (sound : s.office.lanes.Sound) (turn : Turns bulk s p s') : Turned bulk s p s' := by
  have leaves := leaves_of_turns sound turn
  cases turn with
  | @drop l t o r taken invalid =>
    refine ⟨rfl, ⟨o, taken⟩, leaves, fun d => ?_, rfl, rfl, rfl, rfl⟩
    exact (or_iff_left nofun).symm
  | @start l t o o' number taken valid started =>
    refine ⟨rfl, ⟨o, taken⟩, leaves, fun d => ?_, rfl, rfl, rfl, ?_⟩
    · exact (or_iff_left nofun).symm
    · show (if t.traffic = .bulk then s.bulkStarted + 1 else s.bulkStarted) = _
      by_cases bulky : t.traffic = .bulk <;> simp [startsBulk, bulky]
  | @defer l t o o' expiry taken valid deferred =>
    refine ⟨rfl, ⟨o, taken⟩, leaves, fun d => ?_, rfl, rfl, rfl, rfl⟩
    show d ∈ t.domain :: s.excluded ↔ _
    rw [List.mem_cons, or_comm, eq_comm]
    simp

/-! ### All turns -/

/-- What holds of a tick of `o` after some picks. -/
structure SoFar (bulk : BulkBudget) (o : Office) (before : List Pick) (s : Ticking) : Prop where
  config : s.office.config = o.config
  sound : s.office.lanes.Sound
  /-- Nothing new is queued. -/
  fewer : ∀ l, ∀ t ∈ (s.office.lanes.line l).tasks, t ∈ (o.lanes.line l).tasks
  /-- Passed over are the domains that met a shortage. -/
  excluded : ∀ d, d ∈ s.excluded ↔ ∃ q ∈ before, q.fate = .deferred ∧ q.task.domain = d
  dispatched : s.report.dispatched = before.countP (·.fate = .started)
  dropped : s.report.dropped = before.countP (·.fate = .dropped)
  deferred : s.report.deferred = before.countP (·.fate = .deferred)
  bulkStarted : s.bulkStarted = before.countP startsBulk
  budget : ∀ n, bulk = .limited n → s.bulkStarted ≤ n
  cap : ∀ cap, o.config.workers.maxDispatchPerTick = some cap → s.report.dispatched ≤ cap

/-- A bulk batch is started only while the bulk budget lasts. -/
theorem bulkStarted_le {n : Nat} (turn : Turned bulk s p s') (classed : p.task.traffic = p.lane.traffic)
    (limited : bulk = .limited n) (within : s.bulkStarted ≤ n) : s'.bulkStarted ≤ n := by
  rw [turn.bulkStarted]
  by_cases starts : startsBulk p
  · -- its lane was ready, so the budget was not used up
    obtain ⟨-, bulky⟩ := (Bool.and_eq_true _ _ ▸ starts)
    obtain ⟨o, takes⟩ := turn.takes
    have allowed := takes.ready.budget (classed ▸ of_decide_eq_true bulky)
    rw [limited] at allowed
    have less : s.bulkStarted < n := of_decide_eq_true allowed
    simp only [List.countP_cons, List.countP_nil, starts, if_true]
    omega
  · simp only [List.countP_cons, List.countP_nil, starts]
    exact within

/-- A batch is started only while the cap is not reached. -/
theorem dispatched_le {cap : Nat} (turn : Turned bulk s p s')
    (set : s.office.config.workers.maxDispatchPerTick = some cap) : s'.report.dispatched ≤ cap := by
  obtain ⟨o, takes⟩ := turn.takes
  have may := takes.may
  rw [mayStart, set, Bool.and_eq_true, decide_eq_true_iff] at may
  rw [turn.dispatched]
  have one : [p].countP (·.fate = .started) ≤ 1 := List.countP_le_length
  omega

theorem SoFar.turn (h : SoFar bulk o before s) (classed : o.lanes.Classed) (turn : Turned bulk s p s') :
    SoFar bulk o (before ++ [p]) s' where
  config := turn.leaves.config.trans h.config
  sound := turn.leaves.sound
  fewer l t ht := h.fewer l t (turn.leaves.fewer l t ht)
  excluded d := by
    rw [turn.excluded, h.excluded]
    simp [or_and_right, exists_or]
  dispatched := by rw [turn.dispatched, h.dispatched, List.countP_append]
  dropped := by rw [turn.dropped, h.dropped, List.countP_append]
  deferred := by rw [turn.deferred, h.deferred, List.countP_append]
  bulkStarted := by rw [turn.bulkStarted, h.bulkStarted, List.countP_append]
  budget n limited :=
    bulkStarted_le turn (classed _ _ (h.fewer _ _ turn.leaves.queued)) limited (h.budget n limited)
  cap cap set := dispatched_le turn (h.config ▸ set)

/-- What holds after every turn holds before each pick and in the end. -/
theorem SoFar.picks (h : SoFar bulk o before s) (classed : o.lanes.Classed) (picks : Picks bulk s ps s') :
    SoFar bulk o (before ++ ps) s' ∧ ∀ earlier p later, ps = earlier ++ p :: later →
      SoFar bulk o (before ++ earlier) p.before ∧ ∃ s'', Turned bulk p.before p s'' := by
  induction picks generalizing before with
  | stop ends =>
    refine ⟨(List.append_nil before).symm ▸ h, fun earlier p later split => ?_⟩
    exact absurd split.symm (by simp)
  | @turn s s₁ s' p ps turn rest ih =>
    have done := turned h.sound turn
    obtain ⟨last, each⟩ := ih (h.turn classed done)
    rw [List.append_assoc, List.singleton_append] at last
    refine ⟨last, fun earlier q later split => ?_⟩
    cases earlier with
    | nil =>
      obtain ⟨rfl, -⟩ := List.cons.inj split
      rw [List.append_nil, done.before]
      exact ⟨h, s₁, done⟩
    | cons x earlier =>
      obtain ⟨rfl, tail⟩ := List.cons.inj split
      have found := each earlier q later tail
      rwa [List.append_assoc, List.singleton_append] at found

/-- A tick of `o` with so many picks is in order. -/
structure InOrder (o : Office) (ps : List Pick) (s : Ticking) : Prop where
  /-- When another lane is served, the fresh realtime work that is queued is of domains that met a shortage
  before. -/
  realtimeFirst : ∀ earlier p later, ps = earlier ++ p :: later → p.lane ≠ .realtimeFresh →
    ∀ t ∈ (p.before.office.lanes.line .realtimeFresh).tasks,
      ∃ q ∈ earlier, q.fate = .deferred ∧ q.task.domain = t.domain
  /-- No more bulk batches are started than the budget says. -/
  bulk : ∀ n, o.bulkBudget.1 = .limited n → ps.countP startsBulk ≤ n
  /-- No more batches are started than the cap says. -/
  cap : ∀ cap, o.config.workers.maxDispatchPerTick = some cap → ps.countP (·.fate = .started) ≤ cap
  /-- After a domain has met a shortage, nothing of it is picked. -/
  once : ∀ earlier q later, ps = earlier ++ q :: later → q.fate = .deferred →
    ∀ p ∈ later, p.task.domain ≠ q.task.domain
  /-- The tick reports its picks. -/
  report : s.report = ⟨ps.countP (·.fate = .started), ps.countP (·.fate = .dropped),
    ps.countP (·.fate = .deferred)⟩

theorem inOrder_of_picks (sound : o.lanes.Sound) (classed : o.lanes.Classed)
    (picks : Picks o.bulkBudget.1 { office := { o with hold := o.bulkBudget.2 } } ps s) : InOrder o ps s := by
  have start : SoFar o.bulkBudget.1 o [] { office := { o with hold := o.bulkBudget.2 } } :=
    ⟨rfl, sound, fun _ _ ht => ht, by simp, rfl, rfl, rfl, rfl, fun _ _ => Nat.zero_le _,
      fun _ _ => Nat.zero_le _⟩
  obtain ⟨last, each⟩ := start.picks classed picks
  refine ⟨?_, ?_, ?_, ?_, ?_⟩
  · intro earlier p later split other t ht
    obtain ⟨held, s'', turn⟩ := each earlier p later split
    obtain ⟨o', takes⟩ := turn.takes
    -- the first lane was not ready, and only for want of work
    have behind : Lane.realtimeFresh.index < p.lane.index := by
      cases hl : p.lane with
      | realtimeFresh => exact absurd hl other
      | _ => decide
    have idle := takes.first .realtimeFresh behind
    refine (held.excluded t.domain).1 (Classical.byContradiction fun eligible => idle ?_)
    exact ⟨nofun, nofun, t, ht, eligible⟩
  · intro n limited
    exact last.bulkStarted ▸ last.budget n limited
  · intro cap set
    exact last.dispatched ▸ last.cap cap set
  · intro earlier q later split deferred p hp same
    obtain ⟨between, behind, rfl⟩ := List.append_of_mem hp
    obtain ⟨held, s'', turn⟩ := each (earlier ++ q :: between) p behind (by rw [split]; simp)
    refine turn.leaves.eligible ((held.excluded _).2 ⟨q, by simp, deferred, same.symm⟩)
  · rw [← List.nil_append ps, ← last.dispatched, ← last.dropped, ← last.deferred]

end Ticking

/-- After every history, a tick picks each task from the first lane that is ready, goes on until it is over,
and is in order. -/
theorem World.picksInOrder_tick (config : Config) (workers : Nat) (wall : Calendar.Moment) (hs : List Happening) :
    let o := ((opening config workers wall).run hs).office
    ∃ ps, Ticking.Picks o.bulkBudget.1 { office := { o with hold := o.bulkBudget.2 } } ps o.tick ∧
      Ticking.InOrder o ps o.tick := by
  intro o
  have sound : o.lanes.Sound := sound_run (sound_opening config workers wall) hs
  obtain ⟨ps, picks⟩ := Ticking.picks_serve o.bulkBudget.1 o.lanes.total
    { office := { o with hold := o.bulkBudget.2 } } sound (Nat.le_of_eq sound.total.symm)
  exact ⟨ps, picks, Ticking.inOrder_of_picks sound (classed_run config workers wall hs) picks⟩

end Postroom
