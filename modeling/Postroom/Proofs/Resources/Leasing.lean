import Mathlib.Data.List.Perm.Basic
import Postroom.Proofs.Resources.Leases
import Postroom.Proofs.Tables

/-!
# A pool and the leases out of it

A pool that is used in any way: leases are taken and given back, answers are recorded and the clock is moved, in
any order. Each entry then counts exactly the leases that are out of it, for each domain and in total, so that
what is given back was always counted. A lease is refused only where no entry can give one, and is otherwise taken
from the first of those with the fewest for its domain. That keeps the entries level: as long as none cools down
and no lease of a domain comes back, their loads for that domain differ by one at most.

- `AddressPool.FirstLeast`: the first entry with the fewest leases; `AddressPool.acquire?_eq_some`: it is taken.
- `SourceState.Sound`: an entry's total is the sum of its counts, and none of these is zero.
- `Leasing`, `Leasing.after`: a pool with the leases out of it, and what happens to them.
- `Leasing.Kept`: the invariant, kept by every request. `Leasing.kept_run`: after any requests.
- `Leasing.level_run`: the entries stay level. `Leasing.leasesKept_run`: all of this.
-/

namespace Postroom

/-! ### The entry that is taken -/

namespace AddressPool

/-- Among the entries that satisfy `ok`, the one at `i` has the fewest leases for `d`, and is the first such. -/
def FirstLeast (ok : SourceState → Prop) (d : Domain) (ss : List SourceState) (i : Nat) : Prop :=
  ∃ s, ss[i]? = some s ∧ ok s ∧ ∀ (j : Nat) (t : SourceState), ss[j]? = some t → ok t →
    s.leasesFor d ≤ t.leasesFor d ∧ (j < i → s.leasesFor d < t.leasesFor d)

/-- Only the entries of the list matter. -/
theorem FirstLeast.congr {ok ok' : SourceState → Prop} {d : Domain} {ss : List SourceState} {i : Nat}
    (h : FirstLeast ok d ss i) (same : ∀ s ∈ ss, ok' s ↔ ok s) : FirstLeast ok' d ss i := by
  obtain ⟨s, hs, oks, least⟩ := h
  refine ⟨s, hs, (same s (List.mem_of_getElem? hs)).2 oks, fun j t ht okt => least j t ht ?_⟩
  exact (same t (List.mem_of_getElem? ht)).1 okt

variable {ok : SourceState → Bool} {d : Domain} {ss : List SourceState} {i : Nat}

theorem leastLoaded?_eq_none : leastLoaded? ok d ss = none ↔ ∀ s ∈ ss, ok s = false := by
  induction ss with
  | nil => simp [leastLoaded?]
  | cons s ss ih =>
    rw [List.forall_mem_cons, ← ih]
    cases h : leastLoaded? ok d ss with
    | none => simp [leastLoaded?, h]
    | some j =>
      rw [leastLoaded?, h]
      dsimp only
      split <;> simp

theorem firstLeast_of_leastLoaded? (h : leastLoaded? ok d ss = some i) :
    FirstLeast (fun s => ok s) d ss i := by
  induction ss generalizing i with
  | nil => cases h
  | cons s ss ih =>
    unfold leastLoaded? at h
    split at h
    · next unusable =>
      -- behind the first entry there is no usable one
      split at h
      · next usable =>
        cases h
        refine ⟨s, rfl, usable, fun j t ht okt => ?_⟩
        cases j with
        | zero =>
          cases ht
          exact ⟨Nat.le_refl _, fun below => absurd below (Nat.lt_irrefl 0)⟩
        | succ j =>
          exact absurd okt (by simp [leastLoaded?_eq_none.1 unusable t (List.mem_of_getElem? ht)])
      · cases h
    · next k found =>
      obtain ⟨b, hb, okb, least⟩ := ih found
      simp only [hb, Option.map_some, Option.getD_some] at h
      split at h
      · next better =>
        rw [Bool.and_eq_true, decide_eq_true_iff] at better
        cases h
        refine ⟨s, rfl, better.1, fun j t ht okt => ?_⟩
        cases j with
        | zero =>
          cases ht
          exact ⟨Nat.le_refl _, fun below => absurd below (Nat.lt_irrefl 0)⟩
        | succ j =>
          exact ⟨Nat.le_trans better.2 (least j t ht okt).1, fun below => absurd below (Nat.not_lt_zero _)⟩
      · next worse =>
        cases h
        refine ⟨b, hb, okb, fun j t ht okt => ?_⟩
        cases j with
        | zero =>
          cases ht
          have fewer : b.leasesFor d < s.leasesFor d := by simpa [okt] using worse
          exact ⟨Nat.le_of_lt fewer, fun _ => fewer⟩
        | succ j =>
          obtain ⟨fewest, first⟩ := least j t ht okt
          exact ⟨fewest, fun below => first (Nat.lt_of_succ_lt_succ below)⟩

variable {p p' : AddressPool} {now : Int} {l : Lease}

theorem isUsable_eq_false {s : SourceState} : p.isUsable now d s = false ↔
    s.isCooling now ∨ p.config.capacity d ≤ s.leasesFor d := by
  rw [isUsable, Bool.and_eq_false_iff, Bool.not_eq_false', decide_eq_false_iff_not, Nat.not_lt]

/-- No lease is to be had where every entry cools down or has as many as it may. -/
theorem acquire?_eq_none : p.acquire? now d = none ↔
    ∀ s ∈ p.sources, s.isCooling now ∨ p.config.capacity d ≤ s.leasesFor d := by
  simp only [← isUsable_eq_false]
  rw [← leastLoaded?_eq_none]
  refine ⟨fun h => ?_, fun unusable => by rw [acquire?, unusable]; rfl⟩
  cases found : leastLoaded? (p.isUsable now d) d p.sources with
  | none => rfl
  | some i =>
    obtain ⟨s, hs, -⟩ := usable_of_leastLoaded? found
    rw [acquire?, found] at h
    simp [hs] at h

/-- The lease is taken from the first usable entry with the fewest leases for the domain. -/
theorem acquire?_eq_some (h : p.acquire? now d = some (l, p')) :
    FirstLeast (fun s => p.isUsable now d s) d p.sources l.index ∧ ∃ s, p.sources[l.index]? = some s ∧
      l.address = s.address ∧ l.domain = d ∧ p' = { p with sources := p.sources.set l.index (s.lease now d) } := by
  obtain ⟨i, hi, h⟩ := Option.bind_eq_some_iff.1 h
  obtain ⟨s, hs, h⟩ := Option.bind_eq_some_iff.1 h
  cases h
  exact ⟨firstLeast_of_leastLoaded? hi, s, hs, rfl, rfl, rfl⟩

end AddressPool

/-! ### Entries -/

/-- The counts of an entry are of different domains, none is zero, and the total is their sum. -/
structure SourceState.Sound (s : SourceState) : Prop where
  distinct : s.leases.Distinct
  positive : ∀ e ∈ s.leases.entries, 0 < e.2
  total : s.total = sumOf (s.leases.entries.map Prod.snd)

namespace SourceState.Sound

variable {s : SourceState}

theorem lease (h : s.Sound) (now : Int) (d : Domain) : (s.lease now d).Sound where
  distinct := Table.distinct_insert h.distinct _ _
  positive e he := by
    rcases Table.mem_of_insertPairs he with rfl | old
    · exact Nat.succ_pos _
    · exact h.positive e old
  total := by
    have sum := Table.sumOf_insert s.leases d (s.leasesFor d + 1)
    rw [← h.total] at sum
    show s.total + 1 = sumOf ((s.leases.insert d (s.leasesFor d + 1)).entries.map Prod.snd)
    rw [leasesFor] at sum ⊢
    omega

/-- What is given back was counted. -/
theorem giveBack (h : s.Sound) {d : Domain} (counted : 0 < s.leasesFor d) : (s.giveBack d).Sound := by
  by_cases few : s.leasesFor d ≤ 1
  · have table : (s.giveBack d).leases = s.leases.erase d := if_pos few
    refine ⟨?_, ?_, ?_⟩
    · rw [table]
      exact Table.distinct_erase h.distinct d
    · rw [table]
      exact fun e he => h.positive e (List.mem_of_mem_filter he)
    · have sum := Table.sumOf_erase h.distinct d
      rw [← h.total] at sum
      rw [table]
      show s.total - 1 = _
      rw [leasesFor] at counted few
      omega
  · have table : (s.giveBack d).leases = s.leases.insert d (s.leasesFor d - 1) := if_neg few
    refine ⟨?_, ?_, ?_⟩
    · rw [table]
      exact Table.distinct_insert h.distinct _ _
    · rw [table]
      intro e he
      rcases Table.mem_of_insertPairs he with rfl | old
      · show 0 < s.leasesFor d - 1
        omega
      · exact h.positive e old
    · have sum := Table.sumOf_insert s.leases d (s.leasesFor d - 1)
      rw [← h.total] at sum
      rw [table]
      show s.total - 1 = _
      rw [leasesFor] at counted few sum ⊢
      omega

/-- Only the counts and the total matter. -/
theorem of_eq {s' : SourceState} (h : s.Sound) (leases : s'.leases = s.leases) (total : s'.total = s.total) :
    s'.Sound where
  distinct := leases ▸ h.distinct
  positive := leases ▸ h.positive
  total := by rw [total, leases, h.total]

/-- A count is part of the total. -/
theorem leasesFor_le (h : s.Sound) (d : Domain) : s.leasesFor d ≤ s.total := by
  rw [h.total, ← Table.sumOf_erase h.distinct d]
  exact Nat.le_add_left _ _

/-- A count that is kept is what the entry has out for that domain. -/
theorem leasesFor_of_mem (h : s.Sound) {e : Domain × Nat} (he : e ∈ s.leases.entries) :
    s.leasesFor e.1 = e.2 := by
  rw [leasesFor, Table.find?_of_mem h.distinct he, Option.getD_some]

end SourceState.Sound

/-! ### Requests -/

/-- A pool, the time of day, and the leases out of the pool. -/
structure Leasing where
  pool : AddressPool
  now : Int
  /-- The leases that were taken and not given back, in the order in which they were taken. -/
  out : List Lease := []

/-- One thing that happens to a pool. -/
inductive Leasing.Request where
  | acquire (d : Domain)
  /-- One of the leases out is given back. -/
  | release (place : Nat)
  /-- An answer is recorded. -/
  | record (l : Lease) (code : Option Nat) (anySuccess : Bool)
  /-- The clock is moved, forwards or back. -/
  | clock (now : Int)

namespace Leasing

/-- A pool with no lease out. -/
def opening (c : AddressConfig) (now : Int) : Leasing where
  pool := .ofConfig c
  now := now

def after (s : Leasing) : Request → Leasing
  | .acquire d =>
    match s.pool.acquire? s.now d with
    | some (l, p) => { s with pool := p, out := s.out ++ [l] }
    | none => s
  | .release place =>
    match s.out[place]? with
    | some l => { s with pool := s.pool.release l, out := s.out.eraseIdx place }
    | none => s
  | .record l code anySuccess => { s with pool := (s.pool.record s.now l code anySuccess).2 }
  | .clock now => { s with now := now }

/-- The pool after a list of requests. -/
def run (s : Leasing) (rs : List Request) : Leasing := rs.foldl after s

/-- How many leases of an entry for a domain are out. -/
def outOf (s : Leasing) (i : Nat) (d : Domain) : Nat := s.out.countP fun l => l.index = i ∧ l.domain = d

/-- With settings `c`, every entry is sound and counts the leases out of it, which are no more than it may give. -/
structure Kept (c : AddressConfig) (s : Leasing) : Prop where
  config : s.pool.config = c
  sound : ∀ e ∈ s.pool.sources, e.Sound
  leases : ∀ i d, s.pool.leasesAt i d = s.outOf i d
  capacity : ∀ i d, s.pool.leasesAt i d ≤ c.capacity d

variable {c : AddressConfig} {s : Leasing} {d : Domain}

theorem leasesAt_eq {p : AddressPool} {i : Nat} {e : SourceState} (he : p.sources[i]? = some e) (d : Domain) :
    p.leasesAt i d = e.leasesFor d := by
  rw [AddressPool.leasesAt, he, Option.map_some, Option.getD_some]

/-- A lease that is out is counted by the entry that gave it. -/
theorem Kept.counted (h : s.Kept c) {l : Lease} (hl : l ∈ s.out) :
    ∃ e, s.pool.sources[l.index]? = some e ∧ 0 < e.leasesFor l.domain := by
  have some : 0 < s.pool.leasesAt l.index l.domain := by
    rw [h.leases]
    exact List.countP_pos_iff.2 ⟨l, hl, decide_eq_true ⟨rfl, rfl⟩⟩
  cases he : s.pool.sources[l.index]? with
  | none =>
    rw [AddressPool.leasesAt, he] at some
    cases some
  | some e =>
    rw [leasesAt_eq he] at some
    exact ⟨e, rfl, some⟩

theorem kept_opening (c : AddressConfig) (now : Int) : (opening c now).Kept c := by
  have none : ∀ i d, (AddressPool.ofConfig c).leasesAt i d = 0 := by
    intro i d
    rw [AddressPool.leasesAt, AddressPool.ofConfig, List.getElem?_map, Option.map_map]
    cases c.sources[i]? <;> rfl
  refine ⟨rfl, fun e he => ?_, none, fun i d => none i d ▸ Nat.zero_le _⟩
  obtain ⟨a, -, rfl⟩ := List.mem_map.1 he
  exact ⟨Table.distinct_empty, fun e he => (List.not_mem_nil he).elim, rfl⟩

theorem kept_acquire (h : s.Kept c) (d : Domain) : (s.after (.acquire d)).Kept c := by
  cases taken : s.pool.acquire? s.now d with
  | none => simpa only [after, taken] using h
  | some lp =>
    obtain ⟨l, p⟩ := lp
    have acquired := s.pool.acquired_of_acquire? taken
    obtain ⟨-, e, he, -, -, rfl⟩ := AddressPool.acquire?_eq_some taken
    simp only [after, taken]
    refine ⟨h.config, fun f hf => ?_, fun i f => ?_, fun i f => ?_⟩
    · rcases List.mem_or_eq_of_mem_set hf with old | rfl
      · exact h.sound f old
      · exact (h.sound e (List.mem_of_getElem? he)).lease s.now d
    · rw [acquired.leasesAt, h.leases, outOf, outOf, List.countP_append, List.countP_singleton, acquired.domain]
      simp only [decide_eq_true_eq]
    · rw [acquired.leasesAt]
      split
      · next both =>
        obtain ⟨rfl, rfl⟩ := both
        exact h.config ▸ acquired.free
      · exact h.capacity i f

theorem kept_release (h : s.Kept c) (place : Nat) : (s.after (.release place)).Kept c := by
  cases held : s.out[place]? with
  | none => simpa only [after, held] using h
  | some l =>
    obtain ⟨e, he, counted⟩ := h.counted (List.mem_of_getElem? held)
    simp only [after, held]
    refine ⟨h.config, fun f hf => ?_, fun i f => ?_, fun i f => ?_⟩
    · obtain ⟨i, hi⟩ := List.mem_iff_getElem?.1 hf
      rw [AddressPool.release, List.getElem?_modify] at hi
      obtain ⟨g, hg, same⟩ := Option.map_eq_some_iff.1 hi
      have sound := h.sound g (List.mem_of_getElem? hg)
      by_cases here : l.index = i
      · subst here
        rw [he] at hg
        cases hg
        rw [if_pos rfl] at same
        exact same ▸ sound.giveBack counted
      · rw [if_neg here] at same
        exact same ▸ sound
    · -- the lease is counted once among those out
      have parts : s.outOf i f = (s.out.eraseIdx place).countP (fun x => x.index = i ∧ x.domain = f) +
          if l.index = i ∧ l.domain = f then 1 else 0 := by
        obtain ⟨inside, rfl⟩ := List.getElem?_eq_some_iff.1 held
        rw [outOf, (List.getElem_cons_eraseIdx_perm inside).symm.countP_eq, List.countP_cons]
        simp only [decide_eq_true_eq]
      rw [AddressPool.leasesAt_release, h.leases, parts, Nat.add_sub_cancel]
      rfl
    · rw [AddressPool.leasesAt_release]
      exact Nat.le_trans (Nat.sub_le _ _) (h.capacity i f)

theorem kept_record (h : s.Kept c) (l : Lease) (code : Option Nat) (anySuccess : Bool) :
    (s.after (.record l code anySuccess)).Kept c where
  config := (s.pool.config_record s.now l code anySuccess).trans h.config
  sound e he := by
    have he : e ∈ (s.pool.record s.now l code anySuccess).2.sources := he
    unfold AddressPool.record at he
    split at he
    · exact h.sound e he
    · next f hf =>
      rcases List.mem_or_eq_of_mem_set he with old | rfl
      · exact h.sound e old
      · obtain ⟨leases, total⟩ := AddressPool.judge_leases s.pool.config s.now code anySuccess f
        exact (h.sound f (List.mem_of_getElem? hf)).of_eq leases total
  leases i d := (s.pool.leasesAt_record s.now l code anySuccess i d).trans (h.leases i d)
  capacity i d := s.pool.leasesAt_record s.now l code anySuccess i d ▸ h.capacity i d

theorem kept_after (h : s.Kept c) (r : Request) : (s.after r).Kept c := by
  cases r with
  | acquire d => exact kept_acquire h d
  | release place => exact kept_release h place
  | record l code anySuccess => exact kept_record h l code anySuccess
  | clock now => exact ⟨h.config, h.sound, h.leases, h.capacity⟩

theorem kept_run (h : s.Kept c) (rs : List Request) : (s.run rs).Kept c := by
  induction rs generalizing s with
  | nil => exact h
  | cons r rs ih => exact ih (kept_after h r)

theorem run_append (s : Leasing) (rs more : List Request) : s.run (rs ++ more) = (s.run rs).run more :=
  List.foldl_append

/-! ### What a pool counts -/

/-- The counts of a pool with settings `c` are right. -/
structure Tallied (c : AddressConfig) (s : Leasing) : Prop where
  /-- The total of an entry is the sum of its counts, which are of different domains. -/
  total : ∀ e ∈ s.pool.sources, e.leases.Distinct ∧ e.total = sumOf (e.leases.entries.map Prod.snd)
  /-- An entry counts the leases that are out of it. -/
  counts : ∀ i e, s.pool.sources[i]? = some e → ∀ d, e.leasesFor d = s.outOf i d ∧ e.leasesFor d ≤ c.capacity d
  /-- A count that is kept is such a count, and is not zero. -/
  stored : ∀ e ∈ s.pool.sources, ∀ x ∈ e.leases.entries, 0 < x.2 ∧ x.2 = e.leasesFor x.1
  /-- A lease that is out can be given back: both its count and the total fall by one. -/
  returns : ∀ l ∈ s.out, ∃ e, s.pool.sources[l.index]? = some e ∧
    (e.giveBack l.domain).leasesFor l.domain + 1 = e.leasesFor l.domain ∧ (e.giveBack l.domain).total + 1 = e.total

theorem Kept.tallied (h : s.Kept c) : s.Tallied c where
  total e he := ⟨(h.sound e he).distinct, (h.sound e he).total⟩
  counts i e he d := by
    rw [← leasesAt_eq he]
    exact ⟨h.leases i d, h.capacity i d⟩
  stored e he x hx := ⟨(h.sound e he).positive x hx, ((h.sound e he).leasesFor_of_mem hx).symm⟩
  returns l hl := by
    obtain ⟨e, he, counted⟩ := h.counted hl
    refine ⟨e, he, ?_, ?_⟩
    · rw [e.leasesFor_giveBack, if_pos rfl]
      omega
    · have within := (h.sound e (List.mem_of_getElem? he)).leasesFor_le l.domain
      show e.total - 1 + 1 = e.total
      omega

/-! ### How a pool answers -/

/-- An entry that gives no lease for `d`: it cools down, or has as many out as it may. -/
def Barred (c : AddressConfig) (s : Leasing) (d : Domain) (e : SourceState) : Prop :=
  e.isCooling s.now ∨ e.leasesFor d = c.capacity d

/-- How a pool with settings `c` answers who asks for a lease for `d`. -/
structure Answers (c : AddressConfig) (s : Leasing) (d : Domain) : Prop where
  /-- It refuses exactly where every entry is barred. -/
  refuses : s.pool.acquire? s.now d = none ↔ ∀ e ∈ s.pool.sources, s.Barred c d e
  unchanged : s.pool.acquire? s.now d = none → s.after (.acquire d) = s
  /-- Else the lease is taken from the first of the other entries with the fewest leases for `d`. -/
  grants : ∀ l p, s.pool.acquire? s.now d = some (l, p) →
    AddressPool.FirstLeast (fun e => ¬ s.Barred c d e) d s.pool.sources l.index ∧
      ∃ e, s.pool.sources[l.index]? = some e ∧ l.address = e.address ∧ l.domain = d ∧
        s.after (.acquire d) = { s with
          pool := { s.pool with sources := s.pool.sources.set l.index (e.lease s.now d) }
          out := s.out ++ [l] }

/-- An entry never has more leases than it may. -/
theorem Kept.isUsable_iff (h : s.Kept c) {e : SourceState} (he : e ∈ s.pool.sources) (d : Domain) :
    s.pool.isUsable s.now d e ↔ ¬ s.Barred c d e := by
  obtain ⟨i, hi⟩ := List.mem_iff_getElem?.1 he
  have few := h.capacity i d
  rw [leasesAt_eq hi] at few
  rw [← Bool.not_eq_false, AddressPool.isUsable_eq_false, Barred, h.config, not_iff_not]
  exact or_congr_right ⟨Nat.le_antisymm few, fun full => Nat.le_of_eq full.symm⟩

theorem Kept.answers (h : s.Kept c) (d : Domain) : s.Answers c d where
  refuses := by
    rw [AddressPool.acquire?_eq_none]
    refine forall₂_congr fun e he => ?_
    rw [← AddressPool.isUsable_eq_false, ← Bool.not_eq_true, h.isUsable_iff he, not_not]
  unchanged refused := by rw [after, refused]
  grants l p taken := by
    obtain ⟨least, e, he, address, domain, rfl⟩ := AddressPool.acquire?_eq_some taken
    refine ⟨least.congr fun f hf => (h.isUsable_iff hf d).symm, e, he, address, domain, ?_⟩
    simp only [after, taken]

/-! ### Level loads -/

/-- The loads of any two entries for `d` differ by one at most. -/
def Level (d : Domain) (s : Leasing) : Prop :=
  ∀ i j, i < s.pool.sources.length → j < s.pool.sources.length → s.pool.leasesAt i d ≤ s.pool.leasesAt j d + 1

/-- No entry cools down when a lease for `d` is asked for, and none is given back. -/
def Calm (d : Domain) (s : Leasing) : Request → Prop
  | .acquire d' => d' = d → ∀ e ∈ s.pool.sources, ¬ e.isCooling s.now
  | .release place => ∀ l, s.out[place]? = some l → l.domain ≠ d
  | .record _ _ _ => True
  | .clock _ => True

/-- Each of the requests finds the pool calm. -/
def Undisturbed (d : Domain) : Leasing → List Request → Prop
  | _, [] => True
  | s, r :: rs => s.Calm d r ∧ Undisturbed d (s.after r) rs

theorem length_after (s : Leasing) (r : Request) : (s.after r).pool.sources.length = s.pool.sources.length := by
  cases r with
  | acquire d =>
    unfold after
    dsimp only
    split
    · next l p taken =>
      obtain ⟨-, e, -, -, -, rfl⟩ := AddressPool.acquire?_eq_some taken
      exact List.length_set
    · rfl
  | release place =>
    unfold after
    dsimp only
    split
    · exact List.length_modify _ _ _
    · rfl
  | record l code anySuccess =>
    show (s.pool.record s.now l code anySuccess).2.sources.length = _
    unfold AddressPool.record
    split
    · rfl
    · exact List.length_set
  | clock now => rfl

/-- Where no count for `d` changes, the entries stay level. -/
theorem Level.of_eq {r : Request} (h : s.Level d)
    (same : ∀ i, (s.after r).pool.leasesAt i d = s.pool.leasesAt i d) : (s.after r).Level d := by
  intro i j hi hj
  rw [length_after] at hi hj
  rw [same, same]
  exact h i j hi hj

/-- The entry that is taken had the fewest: one that is at its capacity has more. -/
theorem Kept.least (h : s.Kept c) {l : Lease} {p : AddressPool} (taken : s.pool.acquire? s.now d = some (l, p))
    (warm : ∀ e ∈ s.pool.sources, ¬ e.isCooling s.now) {j : Nat} (hj : j < s.pool.sources.length) :
    s.pool.leasesAt l.index d ≤ s.pool.leasesAt j d := by
  obtain ⟨e, he, -, least⟩ := ((h.answers d).grants l p taken).1
  have free := (s.pool.acquired_of_acquire? taken).free
  have hf := List.getElem?_eq_getElem hj
  rw [leasesAt_eq he] at free ⊢
  rw [leasesAt_eq hf]
  by_cases barred : s.Barred c d s.pool.sources[j]
  · rcases barred with cooling | full
    · exact absurd cooling (warm _ (List.getElem_mem hj))
    · rw [full, ← h.config]
      exact Nat.le_of_lt free
  · exact (least j _ hf barred).1

theorem level_after (h : s.Kept c) (level : s.Level d) {r : Request} (calm : s.Calm d r) :
    (s.after r).Level d := by
  cases r with
  | acquire d' =>
    cases taken : s.pool.acquire? s.now d' with
    | none =>
      have refused : s.after (.acquire d') = s := (h.answers d').unchanged taken
      exact refused.symm ▸ level
    | some lp =>
      obtain ⟨l, p⟩ := lp
      have acquired := s.pool.acquired_of_acquire? taken
      have pool : (s.after (.acquire d')).pool = p := by simp only [after, taken]
      by_cases same : d' = d
      · subst same
        intro i j hi hj
        rw [length_after] at hi hj
        have least := h.least taken (calm rfl) hj
        have near := level i j hi hj
        rw [pool, acquired.leasesAt, acquired.leasesAt]
        -- only the entry that is taken has more than before
        by_cases here : l.index = i
        · subst here
          split <;> split <;> omega
        · rw [if_neg fun both => here both.1]
          omega
      · refine level.of_eq fun i => ?_
        rw [pool, acquired.leasesAt, if_neg fun both => same both.2, Nat.add_zero]
  | release place =>
    cases held : s.out[place]? with
    | none =>
      have nothing : s.after (.release place) = s := by simp only [after, held]
      exact nothing.symm ▸ level
    | some l =>
      refine level.of_eq fun i => ?_
      simp only [after, held]
      rw [AddressPool.leasesAt_release, if_neg fun both => calm l held both.2, Nat.sub_zero]
  | record l code anySuccess => exact level.of_eq fun i => s.pool.leasesAt_record s.now l code anySuccess i d
  | clock now => exact level

theorem level_run (h : s.Kept c) (level : s.Level d) {rs : List Request} (calm : s.Undisturbed d rs) :
    (s.run rs).Level d := by
  induction rs generalizing s with
  | nil => exact level
  | cons r rs ih => exact ih (kept_after h r) (level_after h level calm.1) calm.2

/-- With no lease for `d` out, the entries are level. -/
theorem Kept.level (h : s.Kept c) (none : ∀ l ∈ s.out, l.domain ≠ d) : s.Level d := by
  intro i j _ _
  have zero : s.outOf i d = 0 := List.countP_eq_zero.2 fun l hl both => none l hl (of_decide_eq_true both).2
  rw [h.leases, zero]
  exact Nat.zero_le _

/-- After any requests the counts are right, and so is every answer; and from a time at which no lease for a
domain is out, the entries stay level as long as none cools down and no lease for it is given back. -/
theorem leasesKept_run (c : AddressConfig) (now : Int) (rs : List Request) :
    ((opening c now).run rs).Tallied c ∧ (∀ d, ((opening c now).run rs).Answers c d) ∧
      ∀ d, (∀ l ∈ ((opening c now).run rs).out, l.domain ≠ d) →
        ∀ more, ((opening c now).run rs).Undisturbed d more → ((opening c now).run (rs ++ more)).Level d := by
  have kept := kept_run (kept_opening c now) rs
  refine ⟨kept.tallied, kept.answers, fun d none more calm => ?_⟩
  rw [run_append]
  exact level_run kept (kept.level none) calm

/-- The same address twice, with one more lease for one of the domains. -/
def twice : AddressConfig where
  sources := [.v4 [10, 0, 0, 1], .v4 [10, 0, 0, 1]]
  domainSessions := ⟨[("b.org", 3)]⟩

/-- Three leases for the domain that may have three. -/
def threeLeases : List Request := [.acquire ⟨"b.org"⟩, .acquire ⟨"b.org"⟩, .acquire ⟨"b.org"⟩]

/-- Behind a lease for another domain, the first entry gives two of them and the second one the other. -/
theorem leasesKept_twice :
    ((opening twice 0).run [.acquire ⟨"a.org"⟩]).Undisturbed ⟨"b.org"⟩ threeLeases ∧
      ((opening twice 0).run ([.acquire ⟨"a.org"⟩] ++ threeLeases)).out.map (·.index) = [0, 0, 1, 0] ∧
      ((opening twice 0).run ([.acquire ⟨"a.org"⟩] ++ threeLeases)).Level ⟨"b.org"⟩ := by
  have other : ∀ l ∈ ((opening twice 0).run [.acquire ⟨"a.org"⟩]).out, l.domain ≠ ⟨"b.org"⟩ := by decide
  have calm : ((opening twice 0).run [.acquire ⟨"a.org"⟩]).Undisturbed ⟨"b.org"⟩ threeLeases :=
    ⟨fun _ => by decide, fun _ => by decide, fun _ => by decide, trivial⟩
  exact ⟨calm, by decide, (leasesKept_run twice 0 [.acquire ⟨"a.org"⟩]).2.2 ⟨"b.org"⟩ other threeLeases calm⟩

end Leasing

end Postroom
