import Postroom.Proofs.Custody.Change

/-!
# Regular custodies

What the office relies on when it finds things by number and retries what an attempt left, and what no
change of a custody spoils: no number occurs twice, the next one is fresh, and what a settlement keeps for a
retry may be retried.

- `Custody.Regular`, `Custody.Regular.change`: the invariant, kept by every change.
- `Custody.Regular.leads`: kept by every chain of changes.
-/

namespace Postroom

/-- What a settlement keeps for a retry may be retried. -/
def Settlement.Affordable (c : Config) (s : Settlement) : Prop :=
  s.purpose.kept ≠ [] → c.retry.hasBudget s.task.retries

/-- Only an attempt in the budget keeps recipients. -/
theorem Outcome.budget_of_kept {outcome : Outcome} {b : Bool} (h : outcome.kept b ≠ []) : b = true := by
  cases b with
  | true => rfl
  | false =>
    refine absurd ?_ h
    simp [Outcome.kept, Outcome.isKept]

variable {R : Task → Outcome → Prop}

/-- A move drops the number of the holder, hands it on, or takes the next one. -/
theorem Move.number {g : Config} {n n' : Nat} {x y : Holding} (m : Move R g n x y n') :
    (y.number? = none ∧ n' = n) ∨ (y.number? = x.number? ∧ n' = n) ∨
      (x.number? = none ∧ y.number? = some n ∧ n' = n + 1) := by
  cases m with
  | take | queue | retry => exact .inl ⟨rfl, rfl⟩
  | report | answer | giveUp | record => exact .inr (.inl ⟨rfl, rfl⟩)
  | sleep | start | defer | reject => exact .inr (.inr ⟨rfl, rfl, rfl⟩)

/-- A move makes no settlement that keeps more than may be retried. -/
theorem Move.affordable {g : Config} {n n' : Nat} {x : Holding} {s : Settlement}
    (m : Move R g n x (.settlement s) n') (hx : ∀ u, x = .settlement u → u.Affordable g) :
    s.Affordable g := by
  cases m with
  | reject | giveUp => exact absurd rfl
  | answer => exact Outcome.budget_of_kept
  | record u => exact hx u rfl

namespace Custody

/-- The numbers by which live tasks are found. -/
def numbers (c : Custody) : Multiset Nat := c.live.filterMap Holding.number?

/-- No number occurs twice, the next is fresh, and what is kept for a retry may be retried. -/
structure Regular (c : Custody) : Prop where
  nodup : c.numbers.Nodup
  below : ∀ n ∈ c.numbers, n < c.next
  affordable : ∀ s, Holding.settlement s ∈ c.live → s.Affordable c.config

namespace Regular

variable {c d : Custody}

theorem move {g : Config} {e : List Submission} {l : Ledger} {n n' : Nat} {x y : Holding}
    {L : Multiset Holding} (m : Move R g n x y n') (hc : Regular ⟨g, e, l, n, x ::ₘ L⟩) :
    Regular ⟨g, e, l, n', y ::ₘ L⟩ := by
  have affordable : ∀ s, Holding.settlement s ∈ y ::ₘ L → s.Affordable g := by
    intro s hs
    rcases Multiset.mem_cons.1 hs with rfl | hs
    · exact m.affordable fun u hu => hc.affordable u (hu ▸ Multiset.mem_cons_self x L)
    · exact hc.affordable s (Multiset.mem_cons_of_mem hs)
  -- the numbers of all that does not move
  have old : ∀ k ∈ L.filterMap Holding.number?, k < n := by
    intro k hk
    obtain ⟨z, hz, hk⟩ := (Multiset.mem_filterMap _ _).1 hk
    exact hc.below k ((Multiset.mem_filterMap _ _).2 ⟨z, Multiset.mem_cons_of_mem hz, hk⟩)
  have rest : (L.filterMap Holding.number?).Nodup :=
    Multiset.nodup_of_le (Multiset.filterMap_le_filterMap _ (Multiset.le_cons_self L x)) hc.nodup
  -- what moves loses its number, keeps it, or takes the next one
  rcases m.number with ⟨hy, rfl⟩ | ⟨hy, rfl⟩ | ⟨-, hy, rfl⟩
  · refine ⟨?_, ?_, affordable⟩
    · rw [numbers, Multiset.filterMap_cons_none _ _ hy]
      exact rest
    · rw [numbers, Multiset.filterMap_cons_none _ _ hy]
      exact old
  · have same : (⟨g, e, l, n', y ::ₘ L⟩ : Custody).numbers =
        (⟨g, e, l, n', x ::ₘ L⟩ : Custody).numbers := by
      rw [numbers, numbers, Multiset.filterMap_cons, Multiset.filterMap_cons, hy]
    exact ⟨same ▸ hc.nodup, same ▸ hc.below, affordable⟩
  · refine ⟨?_, ?_, affordable⟩
    · rw [numbers, Multiset.filterMap_cons_some _ _ _ hy]
      exact Multiset.nodup_cons.2 ⟨fun h => Nat.lt_irrefl n (old n h), rest⟩
    · rw [numbers, Multiset.filterMap_cons_some _ _ _ hy]
      intro k hk
      rcases Multiset.mem_cons.1 hk with rfl | hk
      · exact Nat.lt_succ_self _
      · exact Nat.lt_succ_of_lt (old k hk)

/-- Only numbers and settlements count. -/
theorem of_sub (hc : Regular c) (numbers : d.numbers ≤ c.numbers) (next : d.next = c.next)
    (config : d.config = c.config)
    (settlements : ∀ s, Holding.settlement s ∈ d.live → Holding.settlement s ∈ c.live) :
    Regular d where
  nodup := Multiset.nodup_of_le numbers hc.nodup
  below n hn := next ▸ hc.below n (Multiset.mem_of_le numbers hn)
  affordable s hs := config ▸ hc.affordable s (settlements s hs)

theorem change (h : Change R c d) (hc : Regular c) : Regular d := by
  cases h with
  | move m => exact move m hc
  | enter s nonempty =>
    refine hc.of_sub (le_of_eq ?_) rfl rfl fun u hu => ?_
    · exact Multiset.filterMap_cons_none _ _ rfl
    · exact (Multiset.mem_cons.1 hu).resolve_left nofun
  | settle s =>
    refine hc.of_sub ?_ rfl rfl fun u hu => ?_
    · rw [numbers, Multiset.filterMap_cons_none _ _ rfl]
      exact Multiset.filterMap_le_filterMap _ (Multiset.le_cons_self _ _)
    · exact Multiset.mem_cons_of_mem ((Multiset.mem_cons.1 hu).resolve_left nofun)
  | complete t done =>
    refine hc.of_sub ?_ rfl rfl fun u hu => Multiset.mem_cons_of_mem hu
    exact Multiset.filterMap_le_filterMap _ (Multiset.le_cons_self _ _)
  | fail t cause =>
    refine hc.of_sub ?_ rfl rfl fun u hu => Multiset.mem_cons_of_mem hu
    exact Multiset.filterMap_le_filterMap _ (Multiset.le_cons_self _ _)

theorem leads (h : Leads R c d) (hc : Regular c) : Regular d :=
  h.keeps (fun _ _ => change) hc

end Regular

end Custody

end Postroom
