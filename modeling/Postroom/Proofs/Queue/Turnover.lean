import Postroom.Proofs.Queue.Sound

/-!
# What goes into the lanes and what comes out

Whatever is asked of the lanes, in any order and with any excluded domains and any conditions, each of the
four lines stays sound, and no task is lost or doubled: the tasks put in are those that were taken one by
one, those that were taken out by a condition, and those still queued.

- `Lanes.Sound`: every line is a sound line of its lane.
- `Lanes.Answers`: what is asked of the lanes is answered according to the queued tasks.
- `Lanes.Request`, `Turnover`: what is asked of the lanes, and the lanes with all that went in and came out.
- `Turnover.balanced_run`: what holds after any list of requests.
-/

namespace Postroom

namespace Lanes

variable {q q' : Lanes} {l : Lane} {t : Task} {excluded : List Domain}

/-- Every line is a sound line of its lane. -/
def Sound (q : Lanes) : Prop := ∀ l, (q.line l).Sound l

theorem sound_empty : ({} : Lanes).Sound := by
  intro l
  cases l <;> exact Line.sound_empty _

theorem line_set (q : Lanes) (l l' : Lane) (n : Line) :
    (Lanes.mk (q.lines.set l n)).line l' = if l = l' then n else q.line l' := PerLane.get_set ..

theorem line_withdraw (q : Lanes) (p : Task → Bool) (l : Lane) :
    (q.withdraw p).2.line l = ((q.line l).withdraw p).2 := by
  cases l <;> rfl

theorem mem_line_of_offer {u : Task} (h : u ∈ ((q.offer t).line l).tasks) : u = t ∨ u ∈ (q.line l).tasks := by
  rw [offer, PerLane.modify, line_set] at h
  split at h
  · next same =>
    have placed := (Line.tasks_push_perm (q.line t.lane) t).mem_iff.1 h
    rcases List.mem_append.1 placed with old | new
    · exact .inr (same ▸ old)
    · exact .inl (List.mem_singleton.1 new)
  · exact .inr h

theorem mem_line_of_poll? {u : Task} {l' : Lane} (hp : q.poll? l' excluded = some (t, q'))
    (h : u ∈ (q'.line l).tasks) : u ∈ (q.line l).tasks := by
  obtain ⟨⟨v, n⟩, popped, he⟩ := Option.map_eq_some_iff.1 hp
  cases he
  rw [line_set] at h
  split at h
  · next same => exact same ▸ (Line.tasks_pop? popped).mem_iff.2 (List.mem_cons_of_mem _ h)
  · exact h

theorem mem_line_of_withdraw {u : Task} {p : Task → Bool} (h : u ∈ ((q.withdraw p).2.line l).tasks) :
    u ∈ (q.line l).tasks := by
  rw [line_withdraw, Line.tasks_withdraw_snd] at h
  exact (List.mem_filter.1 h).1

theorem pollAny?_eq (h : q.pollAny? excluded = some (t, q')) :
    ∃ l, q.poll? l excluded = some (t, q') := by
  obtain ⟨l, -, hl⟩ := List.exists_of_findSome?_eq_some h
  exact ⟨l, hl⟩

namespace Sound

theorem set (h : q.Sound) {n : Line} (hn : n.Sound l) : (Lanes.mk (q.lines.set l n)).Sound := by
  intro l'
  rw [line_set]
  split
  · next same => exact same ▸ hn
  · exact h l'

theorem offer (h : q.Sound) (t : Task) : (q.offer t).Sound := h.set ((h t.lane).push rfl)

theorem poll? (h : q.Sound) (hp : q.poll? l excluded = some (t, q')) : q'.Sound := by
  obtain ⟨⟨u, n⟩, hn, he⟩ := Option.map_eq_some_iff.1 hp
  cases he
  exact h.set ((h l).pop? hn)

theorem withdraw (h : q.Sound) (p : Task → Bool) : (q.withdraw p).2.Sound := by
  intro l
  rw [line_withdraw]
  exact (h l).withdraw p

/-- A task is in the lane that it carries. -/
theorem mem_line (h : q.Sound) (ht : t ∈ (q.line l).tasks) : t.lane = l := (h l).lane_of_mem ht

end Sound

/-! ### Answers -/

/-- How many tasks of a domain a lane has. -/
def depth (q : Lanes) (d : Domain) (l : Lane) : Nat := (q.line l).tasks.countP (·.domain = d)

/-- What is asked of the lanes is answered according to the queued tasks. -/
structure Answers (q : Lanes) : Prop where
  /-- A lane has work where it has a task of a domain that is not excluded. -/
  available : ∀ l excluded, (q.line l).hasAvailable excluded ↔ ∃ t ∈ (q.line l).tasks, t.domain ∉ excluded
  /-- It has a next task where it has work. -/
  poll : ∀ l excluded, (q.poll? l excluded).isSome = (q.line l).hasAvailable excluded
  /-- It has an oldest wait where it has work. -/
  oldest : ∀ l excluded, ((q.line l).oldest? excluded).isSome = (q.line l).hasAvailable excluded
  /-- There is a next task in any lane where some lane has work. -/
  pollAny : ∀ excluded,
    (q.pollAny? excluded).isSome = Lane.serviceOrder.any fun l => (q.line l).hasAvailable excluded
  /-- No domain is listed twice among the depths of a lane. -/
  once : ∀ l, ((q.line l).depths.map (·.1)).Nodup
  /-- The domains listed are those with queued tasks, each with how many there are. -/
  depths : ∀ l d n, (d, n) ∈ (q.line l).depths ↔ n = q.depth d l ∧ n ≠ 0
  /-- The depths add up to the size of the lane. -/
  sizes : ∀ l, sumOf ((q.line l).depths.map (·.2)) = q.size l
  /-- The sizes add up to the number of queued tasks. -/
  total : q.total = q.tasks.length
  /-- Over all lanes, a domain is listed with the sum of its depths. -/
  byDomain : ∀ d n, (d, n) ∈ q.byDomain ↔ n = sumOf (Lane.serviceOrder.map (q.depth d)) ∧ n ≠ 0

theorem countP_tasks (q : Lanes) (d : Domain) :
    q.tasks.countP (·.domain = d) = sumOf (Lane.serviceOrder.map (q.depth d)) := by
  simp [tasks, Lane.serviceOrder, depth, List.countP_append]

theorem mem_byDomain (q : Lanes) (d : Domain) (n : Nat) :
    (d, n) ∈ q.byDomain ↔ n = sumOf (Lane.serviceOrder.map (q.depth d)) ∧ n ≠ 0 := by
  have listed : (d, n) ∈ q.byDomain ↔ d ∈ q.tasks.map (·.domain) ∧ q.tasks.countP (·.domain = d) = n := by
    simp only [byDomain, List.mem_map, List.mem_mergeSort, List.mem_eraseDups, Prod.mk.injEq]
    exact ⟨fun ⟨_, hd, he, hn⟩ => he ▸ ⟨hd, he ▸ hn⟩, fun ⟨hd, hn⟩ => ⟨d, hd, rfl, hn⟩⟩
  have some : d ∈ q.tasks.map (·.domain) ↔ q.tasks.countP (·.domain = d) ≠ 0 := by
    rw [List.mem_map, ← Nat.pos_iff_ne_zero, List.countP_pos_iff]
    simp only [decide_eq_true_eq]
  rw [listed, some, ← countP_tasks]
  exact ⟨fun ⟨hd, hn⟩ => ⟨hn.symm, hn ▸ hd⟩, fun ⟨hn, hd⟩ => ⟨hn ▸ hd, hn.symm⟩⟩

namespace Sound

theorem isSome_poll? (h : q.Sound) (l : Lane) (excluded : List Domain) :
    (q.poll? l excluded).isSome = (q.line l).hasAvailable excluded := by
  rw [Lanes.poll?, Option.isSome_map]
  exact (h l).isSome_pop? excluded

theorem mem_depths (h : q.Sound) (l : Lane) (d : Domain) (n : Nat) :
    (d, n) ∈ (q.line l).depths ↔ n = q.depth d l ∧ n ≠ 0 := by
  rw [(h l).depths_eq, List.mem_map, depth, ← (h l).length_queueOf]
  refine ⟨?_, ?_⟩
  · rintro ⟨e, he, same⟩
    cases same
    exact ⟨rfl, fun none => ((h l).queued d).1 he (List.length_eq_zero_iff.1 none)⟩
  · rintro ⟨rfl, some⟩
    exact ⟨d, ((h l).queued d).2 fun none => some (by rw [none]; rfl), rfl⟩

theorem total (h : q.Sound) : q.total = q.tasks.length := by
  simp only [Lanes.total, tasks, Lane.serviceOrder, List.map_cons, List.map_nil, sumOf_cons, sumOf_nil,
    List.flatMap_cons, List.flatMap_nil, List.length_append, List.length_nil, (h _).length_eq, size]

theorem answers (h : q.Sound) : q.Answers where
  available l _ := (h l).hasAvailable_iff
  poll := h.isSome_poll?
  oldest l := (h l).isSome_oldest?
  pollAny excluded := by
    rw [Lanes.pollAny?, List.isSome_findSome?]
    simp only [h.isSome_poll?]
  once l := (h l).domains_depths ▸ (h l).ring
  depths := h.mem_depths
  sizes l := (h l).sumOf_depths
  total := h.total
  byDomain := mem_byDomain q

end Sound

/-! ### The queued tasks -/

theorem coe_tasks (q : Lanes) : (q.tasks : Multiset Task) = q.held fun _ t => t := by
  simp [tasks, held]

theorem coe_offer (q : Lanes) (t : Task) :
    ((q.offer t).tasks : Multiset Task) = t ::ₘ (q.tasks : Multiset Task) := by
  rw [coe_tasks, coe_tasks, held_offer]

theorem coe_poll? (h : q.poll? l excluded = some (t, q')) :
    (q.tasks : Multiset Task) = t ::ₘ (q'.tasks : Multiset Task) := by
  rw [coe_tasks, coe_tasks, held_poll? _ h]

theorem coe_withdraw (q : Lanes) (p : Task → Bool) :
    (q.tasks : Multiset Task) = ↑(q.withdraw p).1 + ↑(q.withdraw p).2.tasks := by
  rw [coe_tasks, coe_tasks, held_withdraw _ q p]
  simp [taken, withdraw]

theorem mem_offer (q : Lanes) (t u : Task) : u ∈ (q.offer t).tasks ↔ u = t ∨ u ∈ q.tasks := by
  rw [← Multiset.mem_coe, coe_offer, Multiset.mem_cons, Multiset.mem_coe]

theorem mem_withdrawn (q : Lanes) (p : Task → Bool) : t ∈ (q.withdraw p).1 ↔ t ∈ q.tasks ∧ p t := by
  simp only [withdraw, tasks, List.mem_flatMap, Line.tasks_withdraw_fst, List.mem_filter]
  constructor
  · rintro ⟨l, hl, ht, hp⟩
    exact ⟨⟨l, hl, ht⟩, hp⟩
  · rintro ⟨⟨l, hl, ht⟩, hp⟩
    exact ⟨l, hl, ht, hp⟩

theorem mem_left_of_withdraw (q : Lanes) (p : Task → Bool) :
    t ∈ (q.withdraw p).2.tasks ↔ t ∈ q.tasks ∧ ¬ p t := by
  simp only [tasks, List.mem_flatMap, line_withdraw, Line.tasks_withdraw_snd, List.mem_filter,
    Bool.not_eq_true', Bool.not_eq_true]
  constructor
  · rintro ⟨l, hl, ht, hp⟩
    exact ⟨⟨l, hl, ht⟩, hp⟩
  · rintro ⟨⟨l, hl, ht⟩, hp⟩
    exact ⟨l, hl, ht, hp⟩

theorem mem_tasks_iff (q : Lanes) : t ∈ q.tasks ↔ ∃ l, t ∈ (q.line l).tasks := by
  simp only [tasks, List.mem_flatMap, Lane.mem_serviceOrder, true_and]

end Lanes

/-! ### Requests -/

/-- One thing that is asked of the lanes. -/
inductive Lanes.Request where
  /-- Put a task in at a time of day. -/
  | offer (t : Task) (now : Int)
  /-- Take the next task of a lane. -/
  | poll (l : Lane) (excluded : List Domain)
  /-- Take the next task of any lane. -/
  | pollAny (excluded : List Domain)
  /-- Take out the tasks of a job, or of one run of it. -/
  | removeByRunner (id : RunnerId) (token : Option Nat)
  | removeWhere (p : Task → Bool)
  | drain

/-- The lanes with all that went in and came out. -/
structure Turnover where
  lanes : Lanes := {}
  offered : List Task := []
  /-- The tasks that were taken one by one. -/
  polled : List Task := []
  /-- The tasks that were taken out by a condition. -/
  removed : List Task := []

namespace Turnover

/-- Put a task in. -/
def put (f : Turnover) (t : Task) : Turnover :=
  { f with lanes := f.lanes.offer t, offered := f.offered ++ [t] }

/-- Take the next task, if there is one. -/
def take (f : Turnover) : Option (Task × Lanes) → Turnover
  | some (t, q) => { f with lanes := q, polled := f.polled ++ [t] }
  | none => f

/-- Take out every task that satisfies `p`. -/
def remove (f : Turnover) (p : Task → Bool) : Turnover :=
  { f with lanes := (f.lanes.withdraw p).2, removed := f.removed ++ (f.lanes.withdraw p).1 }

/-- Whether a task is of a job, and of the run of it that is named, if one is. -/
def isOf (id : RunnerId) (token : Option Nat) (t : Task) : Bool :=
  match token with
  | some token => t.ownedBy ⟨id, token⟩
  | none => t.ownedByJob id

def after (f : Turnover) : Lanes.Request → Turnover
  | .offer t now => f.put { t with enqueuedAt := now }
  | .poll l excluded => f.take (f.lanes.poll? l excluded)
  | .pollAny excluded => f.take (f.lanes.pollAny? excluded)
  | .removeByRunner id token => f.remove (isOf id token)
  | .removeWhere p => f.remove p
  | .drain => f.remove fun _ => true

/-- The lanes after a list of requests, from empty ones. -/
def run (rs : List Lanes.Request) : Turnover := rs.foldl after {}

/-- Every line is sound, and what went in has come out or is queued. -/
structure Balanced (f : Turnover) : Prop where
  sound : f.lanes.Sound
  kept : (f.offered : Multiset Task) = f.polled + f.removed + f.lanes.tasks

variable {f : Turnover}

theorem balanced_put (h : f.Balanced) (t : Task) : (f.put t).Balanced where
  sound := h.sound.offer t
  kept := by
    show ((f.offered ++ [t] : List Task) : Multiset Task) = _
    rw [← Multiset.coe_add, h.kept, put, Lanes.coe_offer, ← Multiset.singleton_add, Multiset.coe_singleton]
    ac_rfl

theorem balanced_take {l : Lane} {excluded : List Domain} {t : Task} {q : Lanes} (h : f.Balanced)
    (hp : f.lanes.poll? l excluded = some (t, q)) : (f.take (some (t, q))).Balanced where
  sound := h.sound.poll? hp
  kept := by
    show (f.offered : Multiset Task) = ↑(f.polled ++ [t]) + _ + ↑q.tasks
    rw [← Multiset.coe_add, h.kept, Lanes.coe_poll? hp, ← Multiset.singleton_add, Multiset.coe_singleton]
    ac_rfl

theorem balanced_remove (h : f.Balanced) (p : Task → Bool) : (f.remove p).Balanced where
  sound := h.sound.withdraw p
  kept := by
    show (f.offered : Multiset Task) = _ + ↑(f.removed ++ (f.lanes.withdraw p).1) + _
    rw [← Multiset.coe_add, h.kept, Lanes.coe_withdraw f.lanes p]
    ac_rfl

theorem balanced_after (h : f.Balanced) (r : Lanes.Request) : (f.after r).Balanced := by
  cases r with
  | offer t now => exact balanced_put h _
  | poll l excluded =>
    show (f.take (f.lanes.poll? l excluded)).Balanced
    cases hp : f.lanes.poll? l excluded with
    | none => exact h
    | some next => exact balanced_take h hp
  | pollAny excluded =>
    show (f.take (f.lanes.pollAny? excluded)).Balanced
    cases hp : f.lanes.pollAny? excluded with
    | none => exact h
    | some next =>
      obtain ⟨l, hp⟩ := Lanes.pollAny?_eq hp
      exact balanced_take h hp
  | removeByRunner id token => exact balanced_remove h _
  | removeWhere p => exact balanced_remove h p
  | drain => exact balanced_remove h _

theorem balanced_opening : ({} : Turnover).Balanced := ⟨Lanes.sound_empty, by rfl⟩

theorem balanced_run (rs : List Lanes.Request) : (run rs).Balanced := by
  have all : ∀ f : Turnover, f.Balanced → (rs.foldl after f).Balanced := by
    induction rs with
    | nil => exact fun f h => h
    | cons r rs ih => exact fun f h => ih _ (balanced_after h r)
  exact all {} balanced_opening

/-- After any requests the parts of every line agree, every task put in was taken once or is queued, and
every answer is that of the queued tasks. -/
theorem queueAgrees_run (rs : List Lanes.Request) :
    (∀ l, ((run rs).lanes.line l).Sound l) ∧
    ((run rs).offered : Multiset Task) =
      (run rs).polled + (run rs).removed + (run rs).lanes.tasks ∧
    (run rs).lanes.Answers :=
  have h := balanced_run rs
  ⟨h.sound, h.kept, h.sound.answers⟩

end Turnover

end Postroom
