import Postroom.Proofs.Resources.Completions
import Postroom.Proofs.Resources.Leasing

/-!
# Permits

A permit is taken as a whole or not at all: one lease for the domain of the task and, where the batch has an
attachment and its class has a bound, one slot of that class. What goes back is what the permit holds. So whatever
happens to an office, and whatever permits are taken and given back by hand in between, its leases and slots are those
of the permits that are out: of its attempts, of the hands, and of the attempts that were let go of.

- `Office.Adds`: an office counts one permit more than another.
- `Office.Atomic`, `Office.atomic`: what an attempt to take a permit comes to.
- `Usage.Holds`: counts that are those of some permits. `Usage.Holds.step`: every step of the resources keeps them so.
- `Permits`, `Permits.after`: a world with the permits that are out of it, and what happens to them.
- `Permits.Held`, `Permits.held_run`: the invariant. `Permits.Kept`, `Permits.permitsKept_run`: what it means.
-/

namespace Postroom

/-- A slot is needed where the batch has an attachment and its class a bound. -/
theorem Task.slotNeeded_eq_some {t : Task} {limit : TrafficClass → Option Nat} {k : TrafficClass} :
    t.slotNeeded limit = some k ↔ t.traffic = k ∧ t.batch.message.hasAttachment ∧ (limit k).isSome := by
  unfold slotNeeded
  split
  · next both =>
    rw [Bool.and_eq_true] at both
    constructor
    · intro same
      cases same
      exact ⟨rfl, both⟩
    · rintro ⟨same, -⟩
      exact congrArg some same
  · next missing =>
    constructor
    · intro same
      cases same
    · rintro ⟨rfl, both⟩
      rw [Bool.and_eq_true] at missing
      exact absurd both missing

namespace Office

variable {o o' : Office} {t : Task} {p : Permit}

/-! ### All or nothing -/

/-- One office counts a permit more than another, and counts all else alike. -/
structure Adds (o : Office) (p : Permit) (o' : Office) : Prop where
  leases : ∀ i d, o'.pool.leasesAt i d =
    o.pool.leasesAt i d + if p.lease.index = i ∧ p.lease.domain = d then 1 else 0
  total : ∀ i, o'.pool.totalAt i = o.pool.totalAt i + if p.lease.index = i then 1 else 0
  slots : ∀ k, o'.slots.inUse k = o.slots.inUse k + if p.slot = some k then 1 else 0

/-- All that taking a permit for `t` does. -/
structure Grants (o : Office) (t : Task) (p : Permit) (o' : Office) : Prop where
  adds : o.Adds p o'
  domain : p.lease.domain = t.domain
  /-- The lease is of an entry that does not cool down and has fewer out for the domain than it may. -/
  usable : ∃ e, o.pool.sources[p.lease.index]? = some e ∧ p.lease.address = e.address ∧ ¬ e.isCooling o.now ∧
    e.leasesFor t.domain < o.pool.config.capacity t.domain
  /-- There is a slot exactly where the batch has an attachment and its class a bound. -/
  slot : ∀ k, p.slot = some k ↔ t.traffic = k ∧ t.batch.message.hasAttachment ∧ (o.slots.limit k).isSome
  /-- Nothing else changes but that the wait of the task is over. -/
  rest : o' = { o with pool := o'.pool, slots := o'.slots, waits := o.waits.clear t.id }

/-- What an attempt to take a permit for `t` comes to. -/
structure Atomic (o : Office) (t : Task) : Prop where
  /-- Where there is none, all is as it was. -/
  refused : (o.tryAcquire t).1 = none → (o.tryAcquire t).2 = o
  granted : ∀ p, (o.tryAcquire t).1 = some p → o.Grants t p (o.tryAcquire t).2

theorem Granted.adds (h : o.Granted t p o') : o.Adds p o' where
  leases i d := congrFun (congrFun (congrArg Usage.leases (h.usage 0)) i) d
  total i := congrFun (congrArg Usage.total (h.usage 0)) i
  slots k := congrFun (congrArg Usage.slots (h.usage 0)) k

theorem grants_of_acquire? (h : o.acquire? t = some (p, o')) : o.Grants t p o' := by
  have granted := granted_of_acquire? h
  obtain ⟨⟨slot, slots⟩, -, h⟩ := Option.bind_eq_some_iff.1 h
  obtain ⟨⟨lease, pool⟩, leased, h⟩ := Option.bind_eq_some_iff.1 h
  cases h
  obtain ⟨⟨e, found, usable, -⟩, e', found', address, domain, -⟩ := AddressPool.acquire?_eq_some leased
  obtain rfl := Option.some.inj (found.symm.trans found')
  rw [AddressPool.isUsable, Bool.and_eq_true, Bool.not_eq_true', decide_eq_true_iff, ← Bool.not_eq_true] at usable
  refine ⟨granted.adds, domain, ⟨e, found, address, usable⟩, fun k => ?_, rfl⟩
  rw [granted.slot]
  exact Task.slotNeeded_eq_some

theorem tryAcquire_of_short (short : o.acquire? t = none) : o.tryAcquire t = (none, o) := by
  rw [tryAcquire_eq, short]

theorem tryAcquire_of_taken (taken : o.acquire? t = some (p, o')) : o.tryAcquire t = (some p, o') := by
  rw [tryAcquire_eq, taken]

theorem short_of_tryAcquire (refused : (o.tryAcquire t).1 = none) : o.acquire? t = none := by
  cases taken : o.acquire? t with
  | none => rfl
  | some po =>
    rw [tryAcquire_of_taken taken] at refused
    cases refused

theorem taken_of_tryAcquire (granted : (o.tryAcquire t).1 = some p) : o.acquire? t = some (p, (o.tryAcquire t).2) := by
  cases taken : o.acquire? t with
  | none =>
    rw [tryAcquire_of_short taken] at granted
    cases granted
  | some po =>
    rw [tryAcquire_of_taken taken] at granted ⊢
    cases granted
    rfl

theorem atomic (o : Office) (t : Task) : o.Atomic t where
  refused none := congrArg Prod.snd (tryAcquire_of_short (short_of_tryAcquire none))
  granted _ some := grants_of_acquire? (taken_of_tryAcquire some)

/-- The slot that was taken goes back where there is no address to lease. -/
example :
    let o := ofConfig { slots := { common := 1 }, addresses := { sources := [] } } 1 0
    (o.acquireSlot? (World.parcel.task 0)).isSome ∧ (o.tryAcquire (World.parcel.task 0)).1 = none ∧
      (o.tryAcquire (World.parcel.task 0)).2.slots.inUse .bulk = 0 := by
  decide

end Office

/-! ### Counts of permits -/

namespace Usage

variable {u v : Usage} {out lost : Multiset Permit} {p : Permit}

/-- The leases and slots are those of the permits in `out`, and within their bounds. -/
structure Holds (u : Usage) (out : Multiset Permit) : Prop where
  leases : ∀ i d, u.leases i d = out.countP fun p => p.lease.index = i ∧ p.lease.domain = d
  total : ∀ i, u.total i = out.countP (·.lease.index = i)
  slots : ∀ k, u.slots k = out.countP (·.slot = some k)
  /-- There is no slot of a class without a bound. -/
  limited : ∀ p ∈ out, ∀ k, p.slot = some k → (u.limit k).isSome
  capacity : ∀ i d, u.leases i d ≤ u.addresses.capacity d
  room : ∀ k bound, u.limit k = some bound → u.slots k ≤ bound

namespace Holds

/-- Only the leases, the slots and their bounds matter. -/
theorem congr (h : u.Holds out) (addresses : v.addresses = u.addresses) (limit : v.limit = u.limit)
    (leases : v.leases = u.leases) (total : v.total = u.total) (slots : v.slots = u.slots) : v.Holds out := by
  constructor
  case leases => rw [leases]; exact h.leases
  case total => rw [total]; exact h.total
  case slots => rw [slots]; exact h.slots
  case limited => rw [limit]; exact h.limited
  case capacity => rw [leases, addresses]; exact h.capacity
  case room => rw [limit, slots]; exact h.room

/-- A permit that is taken is counted, where there is a lease and a slot for it. -/
theorem take (h : u.Holds out) (limited : ∀ k, p.slot = some k → (u.limit k).isSome)
    (capacity : u.leases p.lease.index p.lease.domain < u.addresses.capacity p.lease.domain)
    (room : ∀ k bound, p.slot = some k → u.limit k = some bound → u.slots k < bound) :
    Holds { u with
      leases := fun i d => u.leases i d + if p.lease.index = i ∧ p.lease.domain = d then 1 else 0
      total := fun i => u.total i + if p.lease.index = i then 1 else 0
      slots := fun k => u.slots k + if p.slot = some k then 1 else 0 } (p ::ₘ out) where
  leases i d := by rw [Multiset.countP_cons, ← h.leases]
  total i := by rw [Multiset.countP_cons, ← h.total]
  slots k := by rw [Multiset.countP_cons, ← h.slots]
  limited q hq := by
    rcases Multiset.mem_cons.1 hq with rfl | hq
    · exact limited
    · exact h.limited q hq
  capacity i d := by
    dsimp only
    split
    · next same =>
      obtain ⟨rfl, rfl⟩ := same
      exact capacity
    · exact h.capacity i d
  room k bound hk := by
    dsimp only
    split
    · next same => exact room k bound same hk
    · exact h.room k bound hk

/-- A permit that goes back is counted no more, and all others are. -/
theorem release (h : u.Holds (p ::ₘ out)) : (u.release p).Holds out where
  leases i d := by
    have before := h.leases i d
    rw [Multiset.countP_cons] at before
    exact Nat.sub_eq_of_eq_add before
  total i := by
    have before := h.total i
    rw [Multiset.countP_cons] at before
    exact Nat.sub_eq_of_eq_add before
  slots k := by
    have before := h.slots k
    have limited := h.limited p (Multiset.mem_cons_self p out) k
    rw [Multiset.countP_cons, ← if_congr (and_iff_left_of_imp limited) rfl rfl] at before
    exact Nat.sub_eq_of_eq_add before
  limited q hq := h.limited q (Multiset.mem_cons_of_mem hq)
  capacity i d := (Nat.sub_le _ _).trans (h.capacity i d)
  room k bound hk := (Nat.sub_le _ _).trans (h.room k bound hk)

/-- Every step of the resources keeps the counts those of the permits of the attempts, and of those that are lost. -/
theorem step (h : Step u v) (hu : u.Holds (lost + u.attempts.map (·.permit))) :
    v.Holds (lost + v.attempts.map (·.permit)) := by
  cases h with
  | start a unreported domain slot capacity room worker =>
    have limited : ∀ k, a.permit.slot = some k → (u.limit k).isSome := fun k hk =>
      Task.isSome_of_slotNeeded (slot ▸ hk)
    have taken := hu.take limited (domain ▸ capacity) room
    rw [← Multiset.add_cons] at taken
    rw [Usage.start, Multiset.map_cons]
    exact taken.congr rfl rfl rfl rfl rfl
  | report a r unreported alone =>
    -- the permit of an attempt that reports stays its permit
    rw [Multiset.map_cons] at hu ⊢
    exact hu.congr rfl rfl rfl rfl rfl
  | stray n unawaited => exact hu.congr rfl rfl rfl rfl rfl
  | close a reported =>
    rw [Multiset.map_cons, Multiset.add_cons] at hu
    exact hu.release.congr rfl rfl rfl rfl rfl
  | finish t => exact hu.congr rfl rfl rfl rfl rfl

theorem draws (h : Draws u v) (hu : u.Holds (lost + u.attempts.map (·.permit))) :
    v.Holds (lost + v.attempts.map (·.permit)) :=
  h.keeps (I := fun u => u.Holds (lost + u.attempts.map (·.permit))) (fun _ _ => step) hu

end Holds

end Usage

/-! ### Permits that are out -/

/-- What follows from the report of the attempt is lost, and with it the permit. -/
def Office.forsakes (o : Office) (a : Attempt) : Bool :=
  match a.report with
  | some (.ok outcome) => o.loses a outcome
  | _ => false

namespace World

/-- The permits of the attempts that a happening lets go of. -/
def leaks (w : World) : Happening → Multiset Permit
  | .abandon numbers => (↑(w.office.attempts.filter (·.number ∈ numbers)) : Multiset Attempt).map (·.permit)
  | .collect n => ↑(((w.office.attempt? n).filter w.office.forsakes).map (·.permit)).toList
  | _ => 0

variable {w : World}

theorem leaks_eq_zero {h : Happening} (kept : w.LosesNothing h) : w.leaks h = 0 := by
  cases h with
  | abandon numbers => exact kept.elim
  | collect n =>
    cases found : w.office.attempt? n with
    | none =>
      rw [leaks, found]
      rfl
    | some a =>
      have back : w.office.forsakes a = false := by
        unfold Office.forsakes
        split
        · next outcome reported => exact kept a outcome found reported
        · rfl
      rw [leaks, found, Option.filter_some, back]
      rfl
  | _ => rfl

end World

/-- A world with the permits that are out of its office, but for those of its attempts. -/
structure Permits where
  world : World
  out : Multiset Permit := 0

namespace Permits

/-- What can happen to the permits of an office. -/
inductive Request where
  /-- A permit for a task is asked for. -/
  | acquire (t : Task)
  /-- A permit that is out goes back. -/
  | release (p : Permit)
  /-- Anything else happens to the office, which takes permits for its attempts and gives them back. -/
  | happen (h : Happening)

def opening (config : Config) (workers : Nat) (wall : Calendar.Moment) : Permits where
  world := World.opening config workers wall

/-- The world with another office. -/
def office (s : Permits) : Office := s.world.office

/-- The permits that are out: of the hands, of attempts that were let go of, and of those that run. -/
def outstanding (s : Permits) : Multiset Permit := s.out + (↑s.office.attempts : Multiset Attempt).map (·.permit)

def after (s : Permits) : Request → Permits
  | .acquire t => {
      world := { s.world with office := (s.office.tryAcquire t).2 }
      out := (s.office.tryAcquire t).1.elim s.out (· ::ₘ s.out) }
  | .release p =>
    if p ∈ s.out then {
      world := { s.world with office := s.office.releasePermit p }
      out := s.out.erase p }
    else s
  | .happen h => { world := s.world.after h, out := s.out + s.world.leaks h }

def run (s : Permits) (rs : List Request) : Permits := rs.foldl after s

/-- The counts are those of the permits that are out. -/
structure Held (s : Permits) : Prop where
  regular : s.world.custody.Regular
  holds : (s.office.usage 0).Holds s.outstanding

variable {s : Permits}

theorem held_opening (config : Config) (workers : Nat) (wall : Calendar.Moment) :
    (opening config workers wall).Held where
  regular := World.regular_opening config workers wall
  holds := by
    have start := World.accounted_opening config workers wall
    exact ⟨start.leases, start.total, start.slots, fun p hp => absurd hp (Multiset.notMem_zero p), start.capacity,
      start.room⟩

theorem held_acquire (h : s.Held) (t : Task) : (s.after (.acquire t)).Held := by
  cases taken : s.office.acquire? t with
  | none =>
    have refused := Office.tryAcquire_of_short taken
    have same : s.after (.acquire t) = s := by
      simp only [after, refused]
      rfl
    rw [same]
    exact h
  | some po =>
    obtain ⟨p, o⟩ := po
    have granted := Office.granted_of_acquire? taken
    have limited : ∀ k, p.slot = some k → (s.office.slots.limit k).isSome := fun k hk =>
      Task.isSome_of_slotNeeded (granted.slot ▸ hk)
    have counts := h.holds.take limited (granted.lease.domain ▸ granted.lease.free) granted.room
    have got := Office.tryAcquire_of_taken taken
    have after : s.after (.acquire t) = ⟨{ s.world with office := o }, p ::ₘ s.out⟩ := by
      simp only [Permits.after, got]
      rfl
    rw [after]
    obtain ⟨slots, pool, waits, rest⟩ :
        ∃ slots pool waits, o = { s.office with slots := slots, pool := pool, waits := waits } :=
      ⟨_, _, _, granted.rest⟩
    constructor
    case regular =>
      rw [rest]
      exact h.regular
    case holds =>
      have attempts : o.attempts = s.office.attempts := by rw [rest]
      have out : outstanding ⟨{ s.world with office := o }, p ::ₘ s.out⟩ = p ::ₘ s.outstanding := by
        simp only [outstanding, office, attempts, Multiset.cons_add]
      have usage := granted.usage 0
      rw [out]
      exact counts.congr (congrArg Usage.addresses usage) (congrArg Usage.limit usage) (congrArg Usage.leases usage)
        (congrArg Usage.total usage) (congrArg Usage.slots usage)

theorem held_release (h : s.Held) (p : Permit) : (s.after (.release p)).Held := by
  by_cases out : p ∈ s.out
  · have apart : s.outstanding = p ::ₘ (s.out.erase p + (↑s.office.attempts : Multiset Attempt).map (·.permit)) := by
      rw [← Multiset.cons_add, Multiset.cons_erase out]
      rfl
    have released : s.after (.release p) =
        ⟨{ s.world with office := s.office.releasePermit p }, s.out.erase p⟩ := if_pos out
    have holds := h.holds
    rw [apart] at holds
    rw [released]
    exact ⟨h.regular, s.office.usage_releasePermit p ▸ holds.release⟩
  · have same : s.after (.release p) = s := if_neg out
    rw [same]
    exact h

/-- What an attempt held whose answer is lost stays taken. -/
theorem held_lost (h : s.Held) {n : Nat} {a : Attempt} {outcome : Outcome} (found : s.office.attempt? n = some a)
    (reported : a.report = some (.ok outcome)) (lost : s.office.loses a outcome) :
    (s.after (.happen (.collect n))).Held where
  regular := World.regular_after h.regular _
  holds := by
    obtain ⟨inFlight, metrics, rest⟩ := Office.collect_of_lost found reported lost
    have forsaken : s.office.forsakes a := by rw [Office.forsakes, reported]; exact lost
    have leaks : s.world.leaks (.collect n) = {a.permit} := by
      show (↑(((s.office.attempt? n).filter s.office.forsakes).map (·.permit)).toList : Multiset Permit) = _
      rw [found, Option.filter_some, if_pos forsaken]
      rfl
    have perm : (↑s.office.attempts : Multiset Attempt) = a ::ₘ ↑(s.office.attempts.filter (·.number ≠ n)) :=
      Multiset.coe_eq_coe.2 (Numbered.perm_remove (World.nodup_attempts h.regular) found)
    -- the permit is counted among those that are out, and no more among those of the attempts
    have out : s.out + {a.permit} + (↑(s.office.attempts.filter (·.number ≠ n)) : Multiset Attempt).map (·.permit) =
        s.outstanding := by
      rw [outstanding, perm, Multiset.map_cons, add_assoc, Multiset.singleton_add]
    have recorded := Office.usage_recordAnswer (o := s.office) (S := 0) a.permit.lease outcome.statusCode
      outcome.anySuccess
    have holds := h.holds
    rw [← out, ← recorded, ← leaks] at holds
    show ((s.office.collect n).usage 0).Holds
      (s.out + s.world.leaks (.collect n) + (↑(s.office.collect n).attempts : Multiset Attempt).map (·.permit))
    rw [rest]
    exact holds.congr rfl rfl rfl rfl rfl

theorem held_abandon (h : s.Held) (numbers : List Nat) : (s.after (.happen (.abandon numbers))).Held where
  regular := World.regular_after h.regular _
  holds := by
    -- the permits of the attempts let go of are counted among those that are out
    have attempts : (s.after (.happen (.abandon numbers))).office.attempts =
        s.office.attempts.filter (·.number ∉ numbers) := congrArg (·.attempts) (Office.frame_abandon s.office numbers)
    have parts : (↑s.office.attempts : Multiset Attempt) = ↑(s.office.attempts.filter (·.number ∈ numbers)) +
        ↑(s.office.attempts.filter (·.number ∉ numbers)) := by
      refine Multiset.coe_eq_coe.2 ((List.filter_append_perm (·.number ∈ numbers) s.office.attempts).symm.trans ?_)
      simp only [decide_not]
      exact .refl _
    have out : (s.after (.happen (.abandon numbers))).outstanding = s.outstanding := by
      rw [outstanding, attempts, outstanding, parts, Multiset.map_add, ← add_assoc]
      rfl
    have stock := Office.stock_of_frame (Office.frame_dropAll (o := s.office) (s.office.tasksOf numbers))
    obtain ⟨pool, slots⟩ := Prod.mk.inj stock
    rw [out]
    exact h.holds.congr (congrArg AddressPool.config pool) (congrArg SlotGroups.limit slots)
      (congrArg AddressPool.leasesAt pool) (congrArg AddressPool.totalAt pool) (congrArg SlotGroups.inUse slots)

theorem held_kept (h : s.Held) {x : Happening} (kept : s.world.LosesNothing x) : (s.after (.happen x)).Held where
  regular := World.regular_after h.regular x
  holds := by
    have drawn := h.holds.draws (World.draws_after h.regular kept)
    rw [← add_zero s.out, ← World.leaks_eq_zero kept] at drawn
    exact drawn

theorem held_happen (h : s.Held) (x : Happening) : (s.after (.happen x)).Held := by
  by_cases kept : s.world.LosesNothing x
  · exact held_kept h kept
  · cases x with
    | abandon numbers => exact held_abandon h numbers
    | collect n =>
      obtain ⟨a, lost⟩ := not_forall.1 kept
      obtain ⟨outcome, lost⟩ := not_forall.1 lost
      obtain ⟨found, lost⟩ := Classical.not_imp.1 lost
      obtain ⟨reported, lost⟩ := Classical.not_imp.1 lost
      exact held_lost h found reported (Bool.not_eq_false _ ▸ lost)
    | _ => exact absurd trivial kept

theorem held_after (h : s.Held) (r : Request) : (s.after r).Held := by
  cases r with
  | acquire t => exact held_acquire h t
  | release p => exact held_release h p
  | happen x => exact held_happen h x

theorem held_run (h : s.Held) (rs : List Request) : (s.run rs).Held := by
  induction rs generalizing s with
  | nil => exact h
  | cons r rs ih => exact ih (held_after h r)

/-! ### What is counted -/

/-- All that is said of permits. -/
structure Kept (s : Permits) : Prop where
  /-- A permit is taken as a whole or not at all. -/
  atomic : ∀ t, s.office.Atomic t
  /-- What a permit that is out added is what goes back with it. -/
  returns : ∀ p ∈ s.outstanding, (s.office.releasePermit p).Adds p s.office
  /-- The counts depend on the permits that are out alone. -/
  leases : ∀ i d, s.office.pool.leasesAt i d =
    s.outstanding.countP fun p => p.lease.index = i ∧ p.lease.domain = d
  total : ∀ i, s.office.pool.totalAt i = s.outstanding.countP (·.lease.index = i)
  slots : ∀ k, s.office.slots.inUse k = s.outstanding.countP (·.slot = some k)
  /-- Where none is out, nothing is taken. -/
  none : s.outstanding = 0 → (∀ i d, s.office.pool.leasesAt i d = 0) ∧ (∀ i, s.office.pool.totalAt i = 0) ∧
    ∀ k, s.office.slots.inUse k = 0
  capacity : ∀ i d, s.office.pool.leasesAt i d ≤ s.office.pool.config.capacity d
  limit : ∀ k bound, s.office.slots.limit k = some bound → s.office.slots.inUse k ≤ bound

theorem Held.returns (h : s.Held) {p : Permit} (out : p ∈ s.outstanding) :
    (s.office.releasePermit p).Adds p s.office := by
  obtain ⟨rest, apart⟩ := Multiset.exists_cons_of_mem out
  have holds := h.holds
  rw [apart] at holds
  have released := s.office.usage_releasePermit (S := 0) p ▸ holds.release
  constructor
  case leases =>
    intro i d
    have before := holds.leases i d
    rw [Multiset.countP_cons, ← released.leases] at before
    exact before
  case total =>
    intro i
    have before := holds.total i
    rw [Multiset.countP_cons, ← released.total] at before
    exact before
  case slots =>
    intro k
    have before := holds.slots k
    rw [Multiset.countP_cons, ← released.slots] at before
    exact before

theorem Held.kept (h : s.Held) : s.Kept where
  atomic := s.office.atomic
  returns _ := h.returns
  leases := h.holds.leases
  total := h.holds.total
  slots := h.holds.slots
  none none := by
    have holds := h.holds
    rw [none] at holds
    exact ⟨holds.leases, holds.total, holds.slots⟩
  capacity := h.holds.capacity
  limit := h.holds.room

/-- Whatever happens to a new office, and whatever permits are taken and given back in between. -/
theorem permitsKept_run (config : Config) (workers : Nat) (wall : Calendar.Moment) (rs : List Request) :
    ((opening config workers wall).run rs).Kept := (held_run (held_opening config workers wall) rs).kept

end Permits

end Postroom
