import Mathlib.Data.List.Basic
import Postroom.Proofs.Resources.Leases

/-!
# What an answer does to an entry

Every answer to an attempt is recorded on the entry that it had its lease from. There are five things that it can
mean, and one of them needs a time that the calendar cannot hold.

- `AddressConfig.span`: the length of a cooldown. `AddressConfig.cooldownEnd?_eq`: which ends can be told.
- `AddressPool.Judged`: the five cases, with all that makes each of them and all that it changes.
- `AddressPool.record_of_entry`, `AddressPool.getElem?_record_of_ne`: only the entry of the lease is judged.
-/

namespace Postroom

namespace AddressConfig

/-- The length of a cooldown in milliseconds. -/
def span (c : AddressConfig) : Int := c.cooldownSeconds * 1000

/-- A cooldown that starts at `now` would last longer than a time span can, or end after the last time of the
calendar. -/
def Endless (c : AddressConfig) (now : Int) : Prop :=
  longestSpan < c.cooldownSeconds ∨ Calendar.lastInstant < now + c.span

instance (c : AddressConfig) (now : Int) : Decidable (c.Endless now) := inferInstanceAs (Decidable (_ ∨ _))

/-- The bound on the seconds of the settings is greater than the longest time span, so it changes nothing. -/
theorem cooldownEnd?_eq (c : AddressConfig) (now : Int) :
    c.cooldownEnd? now = if c.Endless now then none else some (now + c.span) := by
  have wide : longestSpan < twoTo 63 - 1 := by decide
  unfold cooldownEnd?
  dsimp only
  by_cases long : longestSpan < c.cooldownSeconds
  · rw [if_pos (Nat.lt_min.2 ⟨long, wide⟩), if_pos (.inl long)]
  · have same : min c.cooldownSeconds (twoTo 63 - 1) = c.cooldownSeconds := Nat.min_eq_left (by omega)
    rw [same, if_neg long]
    exact if_congr (or_iff_right long).symm rfl rfl

theorem cooldownEnd?_eq_none {c : AddressConfig} {now : Int} : c.cooldownEnd? now = none ↔ c.Endless now := by
  rw [cooldownEnd?_eq]
  split <;> simp [*]

theorem cooldownEnd?_eq_some {c : AddressConfig} {now finish : Int} (h : c.cooldownEnd? now = some finish) :
    finish = now + c.span := by
  rw [cooldownEnd?_eq] at h
  split at h
  · cases h
  · exact (Option.some.inj h).symm

end AddressConfig

namespace AddressPool

/-- What an answer means for an entry, and the entry after it. -/
inductive Judged (c : AddressConfig) (now : Int) (code : Option Nat) (s : SourceState) :
    Bool → Cooldown → SourceState → Prop
  /-- A success ends the streak. -/
  | success : Judged c now code s true .none { s with streak := 0 }
  /-- A failure with another code, or with none, does not matter. -/
  | other (uncounted : code.bind c.triggers.find? = none) : Judged c now code s false .none s
  /-- A failure that counts, and too few of them. -/
  | counted (threshold : Nat) (trigger : code.bind c.triggers.find? = some threshold)
      (few : s.streak + 1 < threshold) : Judged c now code s false .none { s with streak := s.streak + 1 }
  /-- Enough of them: a cooldown starts, and with it a new streak. -/
  | cooled (threshold : Nat) (trigger : code.bind c.triggers.find? = some threshold)
      (enough : threshold ≤ s.streak + 1) (ends : ¬ c.Endless now) :
      Judged c now code s false .started { s with cooledUntil := some (now + c.span), streak := 0 }
  /-- Enough of them, but the cooldown would have no end. -/
  | endless (threshold : Nat) (trigger : code.bind c.triggers.find? = some threshold)
      (enough : threshold ≤ s.streak + 1) (endless : c.Endless now) :
      Judged c now code s false .unrepresentable { s with streak := s.streak + 1 }

theorem judged (c : AddressConfig) (now : Int) (code : Option Nat) (anySuccess : Bool) (s : SourceState) :
    Judged c now code s anySuccess (judge c now code anySuccess s).1 (judge c now code anySuccess s).2 := by
  unfold judge
  split
  · next success =>
    subst success
    exact .success
  · next failure =>
    obtain rfl := Bool.not_eq_true _ ▸ failure
    split
    · next uncounted => exact .other uncounted
    · next threshold trigger =>
      dsimp only
      split
      · next few => exact .counted threshold trigger few
      · next enough =>
        split
        · next none =>
          have endless : c.Endless now := AddressConfig.cooldownEnd?_eq_none.1 none
          exact .endless threshold trigger (Nat.le_of_not_lt enough) endless
        · next finish some =>
          have ends : ¬ c.Endless now := fun endless => by
            rw [AddressConfig.cooldownEnd?_eq_none.2 endless] at some
            cases some
          rw [AddressConfig.cooldownEnd?_eq_some some]
          exact .cooled threshold trigger (Nat.le_of_not_lt enough) ends

variable {p : AddressPool} {now : Int} {l : Lease} {code : Option Nat} {anySuccess : Bool} {e : SourceState}

/-- The entry of the lease is judged. -/
theorem record_of_entry (he : p.sources[l.index]? = some e) : p.record now l code anySuccess =
    ((judge p.config now code anySuccess e).1,
      { p with sources := p.sources.set l.index (judge p.config now code anySuccess e).2 }) := by
  rw [record, he]

/-- Where the lease has no entry, nothing happens. -/
theorem record_of_none (none : p.sources[l.index]? = .none) : p.record now l code anySuccess = (.none, p) := by
  rw [record, none]

/-- No other entry is touched. -/
theorem getElem?_record_of_ne {j : Nat} (other : l.index ≠ j) :
    (p.record now l code anySuccess).2.sources[j]? = p.sources[j]? := by
  cases he : p.sources[l.index]? with
  | none => rw [record_of_none he]
  | some e =>
    rw [record_of_entry he]
    exact List.getElem?_set_ne other

theorem getElem?_record_self (he : p.sources[l.index]? = some e) :
    (p.record now l code anySuccess).2.sources[l.index]? = some (judge p.config now code anySuccess e).2 := by
  obtain ⟨inside, -⟩ := List.getElem?_eq_some_iff.1 he
  rw [record_of_entry he]
  exact List.getElem?_set_self inside

end AddressPool

end Postroom
