import Mathlib.Data.List.Basic
import Postroom.Pool.AddressPool

/-!
# Counting leases

What each operation of the pool does to the leases out of one entry, for one domain and in total. Answers
that are recorded and cooldowns leave them as they are.

- `AddressPool.leasesAt`, `AddressPool.totalAt`: the leases out of an entry; none where there is no entry.
- `AddressPool.Acquired`: all that `acquire?` does. `AddressPool.leasesAt_release` and the like: giving back.
-/

namespace Postroom

namespace SourceState

theorem leasesFor_lease (s : SourceState) (now : Int) (d d' : Domain) :
    (s.lease now d).leasesFor d' = s.leasesFor d' + if d = d' then 1 else 0 := by
  simp only [leasesFor, lease, Table.find?_insert]
  by_cases h : d = d'
  · subst h
    simp
  · simp [h]

theorem leasesFor_giveBack (s : SourceState) (d d' : Domain) :
    (s.giveBack d).leasesFor d' = s.leasesFor d' - if d = d' then 1 else 0 := by
  by_cases few : s.leasesFor d ≤ 1
  · have table : (s.giveBack d).leases = s.leases.erase d := if_pos few
    rw [leasesFor, table, Table.find?_erase]
    by_cases h : d = d'
    · subst h
      rw [if_pos rfl, if_pos rfl, Option.getD_none]
      omega
    · rw [if_neg h, if_neg h]
      rfl
  · have table : (s.giveBack d).leases = s.leases.insert d (s.leasesFor d - 1) := if_neg few
    rw [leasesFor, table, Table.find?_insert]
    by_cases h : d = d'
    · subst h
      rw [if_pos rfl, if_pos rfl, Option.getD_some]
    · rw [if_neg h, if_neg h]
      rfl

end SourceState

namespace AddressPool

variable (p : AddressPool)

/-- The leases of an entry for a domain. -/
def leasesAt (i : Nat) (d : Domain) : Nat := (p.sources[i]?.map (·.leasesFor d)).getD 0

/-- The leases of an entry. -/
def totalAt (i : Nat) : Nat := (p.sources[i]?.map (·.total)).getD 0

/-- The chosen entry is usable. -/
theorem usable_of_leastLoaded? {ok : SourceState → Bool} {d : Domain} {ss : List SourceState} {i : Nat}
    (h : leastLoaded? ok d ss = some i) : ∃ s, ss[i]? = some s ∧ ok s := by
  induction ss generalizing i with
  | nil => cases h
  | cons s rest ih =>
    unfold leastLoaded? at h
    split at h
    · split at h
      · next hs =>
        cases h
        exact ⟨s, rfl, hs⟩
      · cases h
    · next j hj =>
      dsimp only at h
      split at h
      · next hs =>
        cases h
        exact ⟨s, rfl, (Bool.and_eq_true _ _ ▸ hs).1⟩
      · cases h
        exact ih hj

/-- All that taking a lease does. -/
structure Acquired (d : Domain) (l : Lease) (p' : AddressPool) : Prop where
  domain : l.domain = d
  free : p.leasesAt l.index d < p.config.capacity d
  config : p'.config = p.config
  leasesAt : ∀ i e, p'.leasesAt i e = p.leasesAt i e + if l.index = i ∧ d = e then 1 else 0
  totalAt : ∀ i, p'.totalAt i = p.totalAt i + if l.index = i then 1 else 0

theorem acquired_of_acquire? {now : Int} {d : Domain} {l : Lease} {p' : AddressPool}
    (h : p.acquire? now d = some (l, p')) : p.Acquired d l p' := by
  obtain ⟨i, hi, h⟩ := Option.bind_eq_some_iff.1 h
  obtain ⟨s, hs, h⟩ := Option.bind_eq_some_iff.1 h
  obtain ⟨u, hu, usable⟩ := usable_of_leastLoaded? hi
  cases h
  rw [hs] at hu
  cases hu
  obtain ⟨inside, rfl⟩ := List.getElem?_eq_some_iff.1 hs
  rw [isUsable, Bool.and_eq_true, decide_eq_true_iff] at usable
  refine ⟨rfl, ?_, rfl, ?_, ?_⟩
  · simpa [leasesAt, hs] using usable.2
  · intro j e
    by_cases hj : i = j
    · subst hj
      simp [leasesAt, inside, SourceState.leasesFor_lease]
    · simp [leasesAt, List.getElem?_set_ne hj, hj]
  · intro j
    by_cases hj : i = j
    · subst hj
      simp [totalAt, inside, SourceState.lease]
    · simp [totalAt, List.getElem?_set_ne hj, hj]

/-- What is out is what each entry has out. -/
theorem activeLeases_eq : p.activeLeases = sumOf ((List.range p.sources.length).map p.totalAt) := by
  rw [activeLeases]
  congr 1
  refine List.ext_getElem (by simp) fun i hi hj => ?_
  simp only [List.length_map] at hi
  simp [totalAt, hi]

/-! ### Giving back -/

theorem leasesAt_release (l : Lease) (i : Nat) (e : Domain) :
    (p.release l).leasesAt i e = p.leasesAt i e - if l.index = i ∧ l.domain = e then 1 else 0 := by
  simp only [leasesAt, release, List.getElem?_modify]
  by_cases hi : l.index = i
  · subst hi
    cases hs : p.sources[l.index]? with
    | none => simp
    | some s => simp [SourceState.leasesFor_giveBack]
  · simp [hi]

theorem totalAt_release (l : Lease) (i : Nat) :
    (p.release l).totalAt i = p.totalAt i - if l.index = i then 1 else 0 := by
  simp only [totalAt, release, List.getElem?_modify]
  by_cases hi : l.index = i
  · subst hi
    cases hs : p.sources[l.index]? with
    | none => simp
    | some s => simp [SourceState.giveBack]
  · simp [hi]

/-! ### Answers -/

theorem judge_leases (c : AddressConfig) (now : Int) (code : Option Nat) (anySuccess : Bool)
    (s : SourceState) : (judge c now code anySuccess s).2.leases = s.leases ∧
      (judge c now code anySuccess s).2.total = s.total := by
  unfold judge
  split
  · exact ⟨rfl, rfl⟩
  · split
    · exact ⟨rfl, rfl⟩
    · dsimp only
      split
      · exact ⟨rfl, rfl⟩
      · split <;> exact ⟨rfl, rfl⟩

/-- An answer changes no entry's leases. -/
theorem map_sources_record {α : Type} (f : SourceState → α) (now : Int) (l : Lease) (code : Option Nat)
    (anySuccess : Bool)
    (same : ∀ s s' : SourceState, s'.leases = s.leases → s'.total = s.total → f s' = f s) :
    (p.record now l code anySuccess).2.sources.map f = p.sources.map f := by
  unfold record
  split
  · rfl
  · next s hs =>
    obtain ⟨leases, total⟩ := judge_leases p.config now code anySuccess s
    obtain ⟨inside, rfl⟩ := List.getElem?_eq_some_iff.1 hs
    -- the entry is set to one that looks the same to f
    rw [List.map_set, same _ _ leases total, ← List.getElem_map f (h := by simpa using inside),
      List.set_getElem_self]

theorem leasesAt_record (now : Int) (l : Lease) (code : Option Nat) (anySuccess : Bool) (i : Nat)
    (d : Domain) : (p.record now l code anySuccess).2.leasesAt i d = p.leasesAt i d := by
  rw [leasesAt, leasesAt, ← List.getElem?_map, ← List.getElem?_map, map_sources_record]
  intro s s' leases _
  rw [SourceState.leasesFor, SourceState.leasesFor, leases]

theorem totalAt_record (now : Int) (l : Lease) (code : Option Nat) (anySuccess : Bool) (i : Nat) :
    (p.record now l code anySuccess).2.totalAt i = p.totalAt i := by
  rw [totalAt, totalAt, ← List.getElem?_map, ← List.getElem?_map, map_sources_record]
  exact fun _ _ _ total => total

theorem config_record (now : Int) (l : Lease) (code : Option Nat) (anySuccess : Bool) :
    (p.record now l code anySuccess).2.config = p.config := by
  unfold record
  split <;> rfl

theorem judge_representable {c : AddressConfig} {now : Int} (code : Option Nat) (anySuccess : Bool)
    (s : SourceState) (finish : (c.cooldownEnd? now).isSome) :
    (judge c now code anySuccess s).1 ≠ .unrepresentable := by
  obtain ⟨finish, hf⟩ := Option.isSome_iff_exists.1 finish
  intro lost
  unfold judge at lost
  split at lost
  · cases lost
  · split at lost
    · cases lost
    · dsimp only at lost
      split at lost
      · cases lost
      · rw [hf] at lost
        cases lost

/-- Where the end of a cooldown can be told, an answer can be recorded. -/
theorem record_representable {now : Int} (l : Lease) (code : Option Nat) (anySuccess : Bool)
    (finish : (p.config.cooldownEnd? now).isSome) :
    (p.record now l code anySuccess).1 ≠ .unrepresentable := by
  unfold record
  split
  · intro lost
    cases lost
  · next s _ => exact judge_representable code anySuccess s finish

end AddressPool

end Postroom
