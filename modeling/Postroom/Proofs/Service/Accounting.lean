import Postroom.Proofs.Resources.Refusals
import Postroom.Proofs.Service.Order

/-!
# The account of a tick

A tick has no counter of its own. It ends because each turn takes a task out of its lane and nothing that a turn does
puts one into a lane, so that there are no more turns than tasks were queued. Its report accounts for all of them: a
task that it took was dropped, started or deferred, and each of these can be told from the office that the tick leaves.

- `Ticking.nextTask?_of_takes`, `Ticking.serve_of_picks`: the loop of a tick and its picks determine each other, and
  more turns than there are picks make no difference.
- `Pick.Fared`: what became of a picked task. `Ticking.fared_of_turns`, `Pick.Fared.serves`: it is so after its turn,
  and stays so in the turns after it.
- `Ticking.Accounts`: the account of a tick. `World.accounts_tick`: every tick after every history.
-/

namespace Postroom

/-- What became of a task that a tick picked, as it can be told from an office after that. -/
inductive Pick.Fared (p : Pick) (o : Office) : Prop where
  /-- Its run was not valid, and its batch has ended with the cause of that. -/
  | dropped (fate : p.fate = .dropped) (r : Rejection)
      (invalid : p.before.office.registry.validate p.task = .error r)
      (ended : o.ledger.verdict? p.task.ticket = some (.error r.cause))
  /-- An attempt at it is there. -/
  | started (fate : p.fate = .started) (valid : p.before.office.registry.validate p.task = .ok ()) (a : Attempt)
      (there : a ∈ o.attempts) (task : a.task = p.task)
  /-- It, or the retry of all its recipients, sleeps; or it is among those whose wait ran out; or its batch has ended
  because the timers are closed. -/
  | deferred (fate : p.fate = .deferred) (valid : p.before.office.registry.validate p.task = .ok ())
      (shelved : p.before.office.Shelved p.task o)

theorem Lane.eq_of_index {l l' : Lane} (same : l.index = l'.index) : l = l' := by
  cases l <;> cases l' <;> first | rfl | cases same

/-- Only whether the timers were closed matters. -/
theorem Office.Shelved.of_timers {o p o' : Office} {t : Task} (h : o.Shelved t o') (same : o.timers = p.timers) :
    p.Shelved t o' := by
  cases h with
  | asleep n due u is sleeps unended => exact .asleep n due u is sleeps unended
  | expiring e is expires unended => exact .expiring e is expires unended
  | ended closed verdict => exact .ended (same ▸ closed) verdict

/-- What has become of a pick stays so in later turns. -/
theorem Pick.Fared.serves {p : Pick} {w : World} {o o' : Office} {served : List (Office × Task)} (fared : p.Fared o)
    (serves : Ticking.Serves o served o') (owned : ({ w with office := o' } : World).custody.Owned) : p.Fared o' := by
  cases fared with
  | dropped fate r invalid ended => exact .dropped fate r invalid (serves.verdict? ended)
  | started fate valid a there task =>
    refine .started fate valid a ?_ task
    rw [serves.attempts]
    exact List.mem_append_left _ there
  | deferred fate valid shelved =>
    refine .deferred fate valid ?_
    cases shelved with
    | asleep n due u is sleeps unended =>
      have still := serves.timers.1 _ sleeps
      have ticket : u.ticket = p.task.ticket := by rcases is with rfl | rfl <;> rfl
      have live := World.isOpen_of_live owned (World.mem_holdings_asleep.2 still)
      exact .asleep n due u is still (ticket ▸ live)
    | expiring e is expires unended =>
      have still : e ∈ o'.expiries := by
        rw [serves.expiries]
        exact List.mem_append_left _ expires
      have live := World.isOpen_of_live owned (World.mem_holdings_expiry.2 still)
      have ticket : e.task.ticket = p.task.ticket := congrArg Task.ticket is
      exact .expiring e is still (ticket ▸ live)
    | ended closed verdict => exact .ended closed (serves.verdict? verdict)

namespace Office

variable {o o' : Office} {t : Task}

theorem timers_poll? {l : Lane} {excluded : List Domain} (polled : o.poll? l excluded = some (t, o')) :
    o'.timers = o.timers := by
  obtain ⟨_, _, he⟩ := Option.map_eq_some_iff.1 polled
  cases he
  rfl

/-- A start makes one worker busy, and an attempt at the task is there. -/
theorem workers_of_started {n : Nat} (started : o.execute t = (.started n, o')) :
    o'.workers.busy = o.workers.busy + 1 ∧ ∃ a ∈ o'.attempts, a.task = t := by
  obtain rfl : (o.execute t).2 = o' := congrArg Prod.snd started
  have number : (o.execute t).1 = .started n := congrArg Prod.fst started
  rcases acquired : o.acquire? t with _ | ⟨permit, p⟩
  · obtain ⟨e, short⟩ := deferred_of_short acquired
    rw [short] at number
    cases number
  · refine ⟨?_, ⟨n, t, permit, none⟩, ?_, rfl⟩
    · have workers : p.workers = o.workers := congrArg (·.workers) (frame_acquire? acquired)
      have counted : ∀ q : Office, (q.attemptStarted t).workers = q.workers := by
        intro q
        unfold attemptStarted
        split <;> rfl
      simp only [execute_eq, acquired] at number ⊢
      rcases starts : (p.countStart t.lane).workers.start (p.countStart t.lane).nextNumber with cause | busier
      · rw [starts] at number
        cases number
      · rw [counted, (start_eq_ok starts).2, ← workers]
        exact List.length_append
    · rw [attempts_execute]
      refine List.mem_append_right _ (Option.mem_toList.2 ?_)
      simp only [attemptOf, acquired, number]

/-- A task that is deferred got no permit, and as many workers are busy as before. -/
theorem workers_of_deferred {e : Option Nat} (deferred : o.execute t = (.deferred e, o')) :
    o.acquire? t = none ∧ o'.workers.busy = o.workers.busy := by
  obtain rfl : (o.execute t).2 = o' := congrArg Prod.snd deferred
  have fate : (o.execute t).1 = .deferred e := congrArg Prod.fst deferred
  rcases acquired : o.acquire? t with _ | ⟨permit, p⟩
  · have short : (o.shortage t).2.workers.busy = o.workers.busy :=
      congrArg (·.workers.busy) (frame_shortage (o := o) t)
    refine ⟨rfl, ?_⟩
    simp only [execute_eq, acquired]
    rcases hs : o.shortage t with ⟨x, q⟩
    rw [hs] at short
    cases x <;> exact short
  · simp only [execute_eq, acquired] at fate
    rcases starts : (p.countStart t.lane).workers.start (p.countStart t.lane).nextNumber with cause | busier
    · rw [starts] at fate
      cases fate
    · rw [starts] at fate
      cases fate

end Office

namespace Ticking

variable {bulk : BulkBudget} {s s' : Ticking} {l : Lane} {t : Task} {o : Office} {p : Pick} {ps : List Pick}

/-! ### The loop and its picks -/

/-- The first lane that is ready has the next task. -/
theorem nextTask?_of_takes (sound : s.office.lanes.Sound) (takes : Takes bulk s l t o) :
    s.office.nextTask? bulk s.bulkStarted s.excluded = some (t, o) := by
  cases next : s.office.nextTask? bulk s.bulkStarted s.excluded with
  | none => exact absurd takes.ready (not_ready_of_nextTask? sound next l)
  | some picked =>
    obtain ⟨u, q⟩ := picked
    obtain ⟨l', other⟩ := takes_of_nextTask? sound takes.may next
    -- no lane can be the first that is ready besides another one
    have before : l'.index ≤ l.index := Nat.le_of_not_lt fun later => other.first l later takes.ready
    have behind : l.index ≤ l'.index := Nat.le_of_not_lt fun earlier => takes.first l' earlier other.ready
    obtain rfl := Lane.eq_of_index (Nat.le_antisymm before behind)
    exact other.polled.symm.trans takes.polled

/-- A turn is one pass of the loop. -/
theorem serve_of_turns (sound : s.office.lanes.Sound) (turn : Turns bulk s p s') (n : Nat) :
    serve bulk (n + 1) s = serve bulk n s' := by
  cases turn with
  | drop taken invalid => simp only [serve, if_pos taken.may, nextTask?_of_takes sound taken, invalid]
  | start taken valid started =>
    simp only [serve, if_pos taken.may, nextTask?_of_takes sound taken, valid, started]
  | defer taken valid deferred =>
    simp only [serve, if_pos taken.may, nextTask?_of_takes sound taken, valid, deferred]

theorem mayStart_of_full {cap : Nat} (set : s.office.config.workers.maxDispatchPerTick = some cap)
    (reached : cap ≤ s.report.dispatched) : s.mayStart = false := by
  rw [mayStart, set, Bool.and_eq_false_iff]
  exact .inl (decide_eq_false (Nat.not_lt_of_le reached))

/-- The loop stops where a tick is over. -/
theorem serve_of_over (sound : s.office.lanes.Sound) (ends : Over bulk s) (n : Nat) : serve bulk n s = s := by
  cases n with
  | zero => rfl
  | succ n =>
    cases ends with
    | full cap set reached => rw [serve, if_neg (Bool.eq_false_iff.1 (mayStart_of_full set reached))]
    | busy none =>
      have mayNot : s.mayStart = false := Bool.and_eq_false_iff.2 (.inr none)
      rw [serve, if_neg (Bool.eq_false_iff.1 mayNot)]
    | idle none =>
      cases next : s.office.nextTask? bulk s.bulkStarted s.excluded with
      | none =>
        rw [serve, next]
        exact ite_self _
      | some picked =>
        by_cases may : s.mayStart
        · obtain ⟨l, takes⟩ := takes_of_nextTask? sound may next
          exact absurd takes.ready (none l)
        · rw [serve, if_neg may]

/-- Turns for all picks are enough, and more make no difference. -/
theorem serve_of_picks (sound : s.office.lanes.Sound) (picks : Picks bulk s ps s') (n : Nat)
    (enough : ps.length ≤ n) : serve bulk n s = s' := by
  induction picks generalizing n with
  | stop ends => exact serve_of_over sound ends n
  | @turn s s₁ s' p ps turn rest ih =>
    obtain ⟨n, rfl⟩ := Nat.exists_eq_succ_of_ne_zero (Nat.ne_zero_of_lt enough)
    rw [serve_of_turns sound turn]
    exact ih (leaves_of_turns sound turn).sound n (Nat.le_of_succ_le_succ enough)

theorem turn_of_turns (sound : s.office.lanes.Sound) (turn : Turns bulk s p s') : Turn s.office s'.office := by
  cases turn with
  | drop taken invalid => exact .drop (nextTask?_of_takes sound taken) invalid
  | @start l t o o' number taken valid started =>
    obtain rfl : (o.execute t).2 = o' := congrArg Prod.snd started
    exact .execute (nextTask?_of_takes sound taken) valid
  | @defer l t o o' expiry taken valid deferred =>
    obtain rfl : (o.execute t).2 = o' := congrArg Prod.snd deferred
    exact .execute (nextTask?_of_takes sound taken) valid

/-- The picks of a tick are turns from one office to another. -/
theorem serves_of_picks (sound : s.office.lanes.Sound) (picks : Picks bulk s ps s') :
    ∃ served, Serves s.office served s'.office := by
  induction picks with
  | stop => exact ⟨[], .done _⟩
  | @turn s s₁ s' p ps turn rest ih =>
    obtain ⟨served, rest⟩ := ih (leaves_of_turns sound turn).sound
    cases turn with
    | drop taken invalid => exact ⟨served, .drop (nextTask?_of_takes sound taken) invalid rest⟩
    | @start l t o o' number taken valid started =>
      obtain rfl : (o.execute t).2 = o' := congrArg Prod.snd started
      exact ⟨_, .execute (nextTask?_of_takes sound taken) valid rest⟩
    | @defer l t o o' expiry taken valid deferred =>
      obtain rfl : (o.execute t).2 = o' := congrArg Prod.snd deferred
      exact ⟨_, .execute (nextTask?_of_takes sound taken) valid rest⟩

/-! ### What becomes of a pick -/

section Fates

variable {w : World}

/-- It has become so when the turn is over. -/
theorem fared_of_turns (owned : ({ w with office := s.office } : World).custody.Owned) (turn : Turns bulk s p s') :
    p.Fared s'.office := by
  have taken {l : Lane} {t : Task} {o : Office} (takes : Takes bulk s l t o) :
      (w.holding o t).custody.Owned ∧ o.registry = s.office.registry := by
    have leads : Custody.Leads (fun _ _ => True) ({ w with office := s.office } : World).custody
        (w.holding o t).custody := Office.leads_poll? takes.polled
    exact ⟨owned.leads leads, congrArg (·.registry) (Office.frame_poll? takes.polled)⟩
  cases turn with
  | @drop l t o r takes invalid =>
    obtain ⟨held, same⟩ := taken takes
    exact .dropped rfl r (same ▸ invalid) (World.verdict?_fail_of_holding r.cause held)
  | @start l t o o' number takes valid started =>
    obtain ⟨-, same⟩ := taken takes
    obtain ⟨-, a, there, task⟩ := Office.workers_of_started started
    exact .started rfl (same ▸ valid) a there task
  | @defer l t o o' expiry takes valid deferred =>
    obtain ⟨held, same⟩ := taken takes
    have unended : o.ledger.isOpen t.ticket := World.isOpen_of_live held (World.mem_holding w o t)
    have shelved := Office.shelved_of_short (Office.workers_of_deferred deferred).1 unended
    obtain rfl : (o.execute t).2 = o' := congrArg Prod.snd deferred
    exact .deferred rfl (same ▸ valid) (shelved.of_timers (Office.timers_poll? takes.polled))

theorem fared_of_picks (sound : s.office.lanes.Sound)
    (owned : ({ w with office := s.office } : World).custody.Owned) (picks : Picks bulk s ps s') :
    ∀ p ∈ ps, p.Fared s'.office := by
  induction picks with
  | stop =>
    intro p hp
    cases hp
  | @turn s s₁ s' p ps turn rest ih =>
    have sound₁ := (leaves_of_turns sound turn).sound
    have leads : Custody.Leads (fun _ _ => True) ({ w with office := s.office } : World).custody
        ({ w with office := s₁.office } : World).custody := Office.leads_turn (turn_of_turns sound turn)
    have owned₁ := owned.leads leads
    obtain ⟨served, serves⟩ := serves_of_picks sound₁ rest
    have later : Custody.Leads (fun _ _ => True) ({ w with office := s₁.office } : World).custody
        ({ w with office := s'.office } : World).custody := serves.leads
    intro q hq
    rcases List.mem_cons.1 hq with rfl | hq
    · exact (fared_of_turns owned turn).serves serves (owned₁.leads later)
    · exact ih sound₁ owned₁ q hq

end Fates

/-! ### Counts -/

/-- A turn makes one worker busy if it starts something, and none if not. -/
theorem busy_of_turns (turn : Turns bulk s p s') :
    s'.office.workers.busy = s.office.workers.busy + [p].countP (·.fate = .started) := by
  have taken {l : Lane} {t : Task} {o : Office} (takes : Takes bulk s l t o) :
      o.workers = s.office.workers := congrArg (·.workers) (Office.frame_poll? takes.polled)
  cases turn with
  | @drop l t o r takes invalid =>
    have failed : (o.fail t r.cause).workers = o.workers := congrArg (·.workers) (Office.frame_fail t r.cause)
    exact congrArg (·.busy) (failed.trans (taken takes))
  | @start l t o o' number takes valid started =>
    rw [← taken takes]
    exact (Office.workers_of_started started).1
  | @defer l t o o' expiry takes valid deferred =>
    exact (Office.workers_of_deferred deferred).2.trans (congrArg (·.busy) (taken takes))

/-- A turn takes its task out of its lane, and leaves all other tasks where they are. -/
theorem perm_of_turns (turn : Turns bulk s p s') (l : Lane) : (s.office.lanes.line l).tasks.Perm
    (([p].filter (·.lane = l)).map (·.task) ++ (s'.office.lanes.line l).tasks) := by
  obtain ⟨⟨u, n⟩, popped, he⟩ := Option.map_eq_some_iff.1 (poll?_of_turns turn)
  obtain ⟨rfl, lanes⟩ := Prod.mk.inj he
  rw [← lanes, Lanes.line_set]
  by_cases same : p.lane = l
  · subst same
    simpa using Line.tasks_pop? popped
  · simp [same]

theorem length_eq_fates (ps : List Pick) : ps.length = ps.countP (·.fate = .started) +
    ps.countP (·.fate = .dropped) + ps.countP (·.fate = .deferred) := by
  induction ps with
  | nil => rfl
  | cons p ps ih =>
    simp only [List.length_cons, List.countP_cons, ih]
    cases p.fate <;> simp <;> omega

/-- The account of a tick of `o` that ends with `s` after some picks. -/
structure Accounts (o : Office) (ps : List Pick) (s : Ticking) : Prop where
  /-- The tick reports its picks. -/
  report : s.report = ⟨ps.countP (·.fate = .started), ps.countP (·.fate = .dropped), ps.countP (·.fate = .deferred)⟩
  /-- So many fewer tasks are queued as were started, dropped or deferred. -/
  total : s.office.lanes.total + (s.report.dispatched + s.report.dropped + s.report.deferred) = o.lanes.total
  /-- What was queued in a lane was picked from it or is still there, and nothing else is. -/
  lanes : ∀ l, (o.lanes.line l).tasks.Perm
    ((ps.filter (·.lane = l)).map (·.task) ++ (s.office.lanes.line l).tasks)
  /-- So many more workers are busy as tasks were started. -/
  busy : s.office.workers.busy = o.workers.busy + s.report.dispatched
  /-- Each pick was dropped, started or deferred. -/
  fared : ∀ p ∈ ps, p.Fared s.office

/-- What every turn adds up to. -/
theorem counts_of_picks (sound : s.office.lanes.Sound) (picks : Picks bulk s ps s') :
    s'.office.lanes.Sound ∧
      s'.office.workers.busy = s.office.workers.busy + ps.countP (·.fate = .started) ∧
      s'.office.lanes.tasks.length + ps.length = s.office.lanes.tasks.length ∧
      ∀ l, (s.office.lanes.line l).tasks.Perm
        ((ps.filter (·.lane = l)).map (·.task) ++ (s'.office.lanes.line l).tasks) := by
  induction picks with
  | stop => exact ⟨sound, rfl, rfl, fun l => .refl _⟩
  | @turn s s₁ s' p ps turn rest ih =>
    obtain ⟨sound', busy, total, lanes⟩ := ih (leaves_of_turns sound turn).sound
    refine ⟨sound', ?_, ?_, fun l => (perm_of_turns turn l).trans ?_⟩
    · rw [busy, busy_of_turns turn, Nat.add_assoc, ← List.countP_append]
      rfl
    · have one := congrArg Multiset.card (Lanes.coe_poll? (poll?_of_turns turn))
      rw [Multiset.coe_card, Multiset.card_cons, Multiset.coe_card] at one
      rw [List.length_cons]
      omega
    · refine ((lanes l).append_left _).trans ?_
      rw [← List.append_assoc, ← List.map_append, ← List.filter_append]
      rfl

/-- While a worker is free the loop goes on, and so no execution is refused. -/
theorem not_refused_of_executed (bulk : BulkBudget) (n : Nat) (s : Ticking) : ∀ x ∈ executed bulk n s,
    ∀ cause, (x.1.execute x.2).1 ≠ .refused cause := by
  induction n generalizing s with
  | zero =>
    intro x hx
    cases hx
  | succ n ih =>
    intro x hx
    unfold executed at hx
    by_cases may : s.mayStart
    · rw [if_pos may] at hx
      rcases next : s.office.nextTask? bulk s.bulkStarted s.excluded with _ | ⟨t, o⟩
      · rw [next] at hx
        cases hx
      · have workers : o.workers = s.office.workers := congrArg (·.workers) (Office.frame_nextTask? next)
        have free : o.workers.hasCapacity := workers ▸ (Bool.and_eq_true _ _ ▸ may).2
        have here := execute_of_hasCapacity (t := t) free
        rw [next] at hx
        dsimp only at hx
        rcases valid : o.registry.validate t with r | ⟨⟩
        · rw [valid] at hx
          exact ih _ x hx
        · rw [valid] at hx
          dsimp only at hx
          rcases executed : o.execute t with ⟨e, o'⟩
          rw [executed] at hx
          cases e with
          | started number | deferred expiry =>
            rcases List.mem_cons.1 hx with rfl | hx
            · exact here
            · exact ih _ x hx
          | refused cause =>
            obtain rfl := List.mem_singleton.1 hx
            exact here
    · rw [if_neg may] at hx
      cases hx

end Ticking

/-- After every history, a tick is over after no more turns than tasks are queued, its report accounts for every task
that it took, and none of them is refused by the workers. -/
theorem World.accounts_tick (config : Config) (workers : Nat) (wall : Calendar.Moment) (hs : List Happening) :
    let w := (opening config workers wall).run hs
    let o := w.office
    let begun : Ticking := { office := { o with hold := o.bulkBudget.2 } }
    (∀ n, o.lanes.total ≤ n → Ticking.serve o.bulkBudget.1 n begun = o.tick) ∧
      (∃ ps, Ticking.Picks o.bulkBudget.1 begun ps o.tick ∧ Ticking.Accounts o ps o.tick) ∧
      ∀ x ∈ w.executed .tick, ∀ cause, (x.1.execute x.2).1 ≠ .refused cause := by
  intro w o begun
  have sound : o.lanes.Sound := sound_run (sound_opening config workers wall) hs
  have owned : w.custody.Owned :=
    owned_run (regular_opening config workers wall) (owned_opening config workers wall) hs
  obtain ⟨ps, picks⟩ : ∃ ps, Ticking.Picks o.bulkBudget.1 begun ps o.tick := Ticking.picks_tick o sound
  have report := (Ticking.inOrder_of_picks sound (classed_run config workers wall hs) picks).report
  obtain ⟨sound', busy, total, lanes⟩ := Ticking.counts_of_picks (s := begun) sound picks
  have total : o.tick.office.lanes.tasks.length + ps.length = o.lanes.tasks.length := total
  refine ⟨fun n enough => ?_, ⟨ps, picks, ?_⟩, Ticking.not_refused_of_executed _ _ _⟩
  · refine Ticking.serve_of_picks (s := begun) sound picks n (Nat.le_trans ?_ enough)
    rw [sound.total, ← total]
    exact Nat.le_add_left ..
  · constructor
    case report => exact report
    case total =>
      rw [report, sound.total, sound'.total, ← total, Ticking.length_eq_fates ps]
    case lanes => exact lanes
    case busy =>
      rw [report]
      exact busy
    case fared => exact Ticking.fared_of_picks (w := w) (s := begun) sound owned picks

end Postroom
