import Postroom.Traffic

/-!
# Attachment slots

Batches with attachments are costly to send, so each class has a bounded number of slots for them.
An attempt keeps its slot until it ends.

* `SlotConfig.limit`: the bound of a class, if it has one.
* `SlotGroups.acquire`, `SlotGroups.release`: take a slot, give it back.
-/

namespace Postroom

/-- The bounds. Zero for a class means the common bound, and zero there means none. -/
structure SlotConfig where
  common : Nat := 0
  realtime : Nat := 0
  bulk : Nat := 0

namespace SlotConfig

/-- The bound set for a class of its own. -/
def own (c : SlotConfig) : TrafficClass → Nat
  | .realtime => c.realtime
  | .bulk => c.bulk

/-- The bound that holds for a class; none if it has no bound. -/
def limit (c : SlotConfig) (t : TrafficClass) : Option Nat :=
  if c.own t ≠ 0 then some (c.own t)
  else if c.common ≠ 0 then some c.common
  else none

end SlotConfig

/-- The slots taken in each class. -/
structure SlotGroups where
  config : SlotConfig := {}
  realtimeInUse : Nat := 0
  bulkInUse : Nat := 0

namespace SlotGroups

def inUse (g : SlotGroups) : TrafficClass → Nat
  | .realtime => g.realtimeInUse
  | .bulk => g.bulkInUse

def setInUse (g : SlotGroups) (t : TrafficClass) (n : Nat) : SlotGroups :=
  match t with
  | .realtime => { g with realtimeInUse := n }
  | .bulk => { g with bulkInUse := n }

/-- The bound of a class, if it has one. -/
def limit (g : SlotGroups) (t : TrafficClass) : Option Nat := g.config.limit t

/-- Whether batches of a class need a slot at all. -/
def isLimited (g : SlotGroups) (t : TrafficClass) : Bool := (g.limit t).isSome

/-- Take a slot; none where none is free. A class without bound counts no slots. -/
def acquire? (g : SlotGroups) (t : TrafficClass) : Option SlotGroups :=
  match g.limit t with
  | none => some g
  | some bound => if g.inUse t < bound then some (g.setInUse t (g.inUse t + 1)) else none

/-- Give a slot back. -/
def release (g : SlotGroups) (t : TrafficClass) : SlotGroups :=
  if g.isLimited t then g.setInUse t (g.inUse t - 1) else g

theorem inUse_setInUse (g : SlotGroups) (t t' : TrafficClass) (n : Nat) :
    (g.setInUse t n).inUse t' = if t = t' then n else g.inUse t' := by
  cases t <;> cases t' <;> rfl

@[simp] theorem limit_setInUse (g : SlotGroups) (t t' : TrafficClass) (n : Nat) :
    (g.setInUse t n).limit t' = g.limit t' := by
  cases t <;> rfl

theorem limit_of_acquire? {g g' : SlotGroups} {t : TrafficClass} (h : g.acquire? t = some g')
    (t' : TrafficClass) : g'.limit t' = g.limit t' := by
  unfold acquire? at h
  split at h
  · cases h
    rfl
  · split at h
    · cases h
      exact limit_setInUse g t t' _
    · cases h

theorem lt_of_acquire? {g g' : SlotGroups} {t : TrafficClass} {bound : Nat}
    (h : g.acquire? t = some g') (hb : g.limit t = some bound) : g.inUse t < bound := by
  rw [acquire?, hb] at h
  dsimp only at h
  split at h
  · assumption
  · cases h

theorem limit_release (g : SlotGroups) (t t' : TrafficClass) : (g.release t).limit t' = g.limit t' := by
  unfold release
  split
  · exact limit_setInUse g t t' _
  · rfl

theorem inUse_of_acquire? {g g' : SlotGroups} {t : TrafficClass} (h : g.acquire? t = some g')
    (t' : TrafficClass) :
    g'.inUse t' = g.inUse t' + (if t = t' ∧ g.isLimited t then 1 else 0) := by
  unfold acquire? at h
  split at h
  · next hn =>
    cases h
    simp [isLimited, hn]
  · next bound hb =>
    split at h
    · cases h
      by_cases e : t = t'
      · subst e
        simp [inUse_setInUse, isLimited, hb]
      · simp [inUse_setInUse, e]
    · cases h

/-- What was taken goes back, and all is as it was. -/
theorem release_of_acquire? {g g' : SlotGroups} {t : TrafficClass} (h : g.acquire? t = some g') :
    g'.release t = g := by
  have limited : g'.isLimited t = g.isLimited t := congrArg Option.isSome (limit_of_acquire? h t)
  unfold acquire? at h
  rw [release, limited]
  split at h
  · next hn =>
    cases h
    simp [isLimited, hn]
  · next bound hb =>
    split at h
    · cases h
      simp only [isLimited, hb, Option.isSome_some, if_true]
      cases t <;> rfl
    · cases h

theorem inUse_release (g : SlotGroups) (t t' : TrafficClass) :
    (g.release t).inUse t' = g.inUse t' - (if t = t' ∧ g.isLimited t then 1 else 0) := by
  unfold release
  split
  · next h =>
    by_cases e : t = t'
    · subst e
      simp [inUse_setInUse, h]
    · simp [inUse_setInUse, e]
  · next h => simp [h]

end SlotGroups

end Postroom
