import Postroom.Policy.RetryQuota

/-!
# Laws of the retry quota

The limit on retries is a floor of a share, cut by a reserve and raised to one. Each of these steps is monotone, so
the limit grows with the capacity and with the wait of the oldest retry, whatever the settings; only a product beyond
64 bits would spoil that. Retries that are admitted one after the other stop exactly at the limit.

- `RetryQuota.Fits`: the shares of a capacity fit into 64 bits. `RetryQuota.percentOf_mono`: what that is good for.
- `RetryQuota.limit_mono`, `RetryQuota.limit_fresh_le`, `RetryQuota.limit_of_wait`: how the limit moves with each input.
- `RetryQuota.admitted`: the retries in flight after so many were offered one after the other.
- `RetryQuota.limitLaws`: all of this together.
-/

namespace Postroom

/-- As long as the product fits into a word, a share grows with the percentage and with the whole. -/
theorem percentOf_mono {part part' whole whole' : Nat} (parts : part ≤ part') (wholes : whole ≤ whole')
    (fits : whole' * part' < twoTo 64) : percentOf part whole ≤ percentOf part' whole' := by
  have grows : whole * part ≤ whole' * part' := Nat.mul_le_mul wholes parts
  rw [percentOf, percentOf, Nat.mod_eq_of_lt fits, Nat.mod_eq_of_lt (Nat.lt_of_le_of_lt grows fits)]
  exact Nat.div_le_div_right grows

namespace RetryQuota

variable {q : RetryQuota} {capacity capacity' : Nat} {fresh : Bool} {wait wait' : Option Nat}

/-- The share of the capacity that counts at the wait of the oldest retry, in percent. -/
def share (q : RetryQuota) (wait : Option Nat) : Nat := if q.isAged wait then q.agedPercent else q.capPercent

/-- Both shares of the capacity fit into 64 bits. -/
def Fits (q : RetryQuota) (capacity : Nat) : Prop :=
  capacity * q.capPercent < twoTo 64 ∧ capacity * q.agedPercent < twoTo 64

instance : Decidable (q.Fits capacity) :=
  inferInstanceAs (Decidable (capacity * q.capPercent < twoTo 64 ∧ capacity * q.agedPercent < twoTo 64))

theorem Fits.share (fits : q.Fits capacity) (wait : Option Nat) : capacity * q.share wait < twoTo 64 := by
  unfold RetryQuota.share
  split
  · exact fits.2
  · exact fits.1

/-- What retries may take before the limit is raised to one. -/
def allowed (q : RetryQuota) (capacity : Nat) (fresh : Bool) (wait : Option Nat) : Nat :=
  if fresh then min (percentOf (q.share wait) capacity) (capacity - q.freshReserve) else capacity - q.freshReserve

@[simp] theorem limit_zero : q.limit 0 fresh wait = 0 := rfl

theorem limit_eq (some : capacity ≠ 0) : q.limit capacity fresh wait = max (q.allowed capacity fresh wait) 1 :=
  if_neg some

/-! ### How large the limit is -/

theorem allowed_le : q.allowed capacity fresh wait ≤ capacity - q.freshReserve := by
  unfold allowed
  split
  · exact Nat.min_le_right ..
  · exact Nat.le_refl _

/-- Where there is any capacity one retry is allowed, whatever the shares are. -/
theorem one_le_limit (some : 0 < capacity) : 1 ≤ q.limit capacity fresh wait := by
  rw [limit_eq (Nat.ne_of_gt some)]
  exact Nat.le_max_right ..

/-- The limit leaves the reserve, or is one. -/
theorem limit_le : q.limit capacity fresh wait ≤ max 1 (capacity - q.freshReserve) := by
  by_cases none : capacity = 0
  · rw [none, limit_zero]
    exact Nat.zero_le _
  · have kept : q.allowed capacity fresh wait ≤ capacity - q.freshReserve := allowed_le
    rw [limit_eq none]
    omega

theorem limit_eq_zero_iff : q.limit capacity fresh wait = 0 ↔ capacity = 0 := by
  refine ⟨fun none => ?_, fun none => ?_⟩
  · refine Decidable.byContradiction fun some => ?_
    have one : 1 ≤ q.limit capacity fresh wait := one_le_limit (Nat.pos_of_ne_zero some)
    omega
  · rw [none, limit_zero]

/-! ### How the limit moves -/

/-- Where more is allowed, the limit is no lower, as long as there is any capacity with less. -/
theorem limit_le_limit {fresh' : Bool} (some : capacity ≠ 0 → capacity' ≠ 0)
    (more : q.allowed capacity fresh wait ≤ q.allowed capacity' fresh' wait') :
    q.limit capacity fresh wait ≤ q.limit capacity' fresh' wait' := by
  by_cases none : capacity = 0
  · subst none
    exact Nat.zero_le _
  · rw [limit_eq none, limit_eq (some none)]
    omega

theorem allowed_mono (more : capacity ≤ capacity') (fits : q.Fits capacity') :
    q.allowed capacity fresh wait ≤ q.allowed capacity' fresh wait := by
  have unreserved : capacity - q.freshReserve ≤ capacity' - q.freshReserve := Nat.sub_le_sub_right more _
  have shared : percentOf (q.share wait) capacity ≤ percentOf (q.share wait) capacity' :=
    percentOf_mono (Nat.le_refl _) more (fits.share wait)
  unfold allowed
  split
  · exact Nat.le_min.2 ⟨Nat.le_trans (Nat.min_le_left ..) shared, Nat.le_trans (Nat.min_le_right ..) unreserved⟩
  · exact unreserved

/-- A larger capacity never lowers the limit. -/
theorem limit_mono (more : capacity ≤ capacity') (fits : q.Fits capacity') :
    q.limit capacity fresh wait ≤ q.limit capacity' fresh wait :=
  limit_le_limit (fun some none => some (Nat.le_zero.1 (none ▸ more))) (allowed_mono more fits)

/-- Fresh work that waits never raises the limit. -/
theorem limit_fresh_le : q.limit capacity true wait ≤ q.limit capacity false wait := limit_le_limit id allowed_le

/-- The first wait is no longer than the second; where nothing waits, there is none. -/
def NoLonger (wait wait' : Option Nat) : Prop := ∀ a ∈ wait, ∃ b ∈ wait', a ≤ b

theorem isAged_of_noLonger (longer : NoLonger wait wait') (aged : q.isAged wait) : q.isAged wait' := by
  cases wait with
  | none => cases aged
  | some a =>
    obtain ⟨b, rfl, more⟩ := longer a rfl
    exact decide_eq_true (Nat.le_trans (of_decide_eq_true aged) more)

theorem share_of_noLonger (larger : q.capPercent ≤ q.agedPercent) (longer : NoLonger wait wait') :
    q.share wait ≤ q.share wait' := by
  unfold share
  by_cases aged : q.isAged wait
  · have aged' := isAged_of_noLonger longer aged
    exact Nat.le_of_eq ((if_pos aged).trans (if_pos aged').symm)
  · rw [if_neg aged]
    split
    · exact larger
    · exact Nat.le_refl _

/-- Where the share of aged retries is the larger one, a longer wait never lowers the limit. -/
theorem limit_of_wait (larger : q.capPercent ≤ q.agedPercent) (longer : NoLonger wait wait')
    (fits : q.Fits capacity) : q.limit capacity fresh wait ≤ q.limit capacity fresh wait' := by
  have shared : percentOf (q.share wait) capacity ≤ percentOf (q.share wait') capacity :=
    percentOf_mono (share_of_noLonger larger longer) (Nat.le_refl _) (fits.share wait')
  refine limit_le_limit id ?_
  unfold allowed
  split
  · exact Nat.le_min.2 ⟨Nat.le_trans (Nat.min_le_left ..) shared, Nat.min_le_right ..⟩
  · exact Nat.le_refl _

/-! ### Admission -/

/-- The retries in flight after `n` were offered one after the other, none of which ends meanwhile. -/
def admitted (q : RetryQuota) (capacity : Nat) (fresh : Bool) (wait : Option Nat) : Nat → Nat
  | 0 => 0
  | n + 1 =>
    let inFlight := admitted q capacity fresh wait n
    if q.admits inFlight capacity fresh wait then inFlight + 1 else inFlight

/-- Each retry is admitted until the limit is reached, and none from then on. -/
theorem admitted_eq (n : Nat) : q.admitted capacity fresh wait n = min n (q.limit capacity fresh wait) := by
  induction n with
  | zero => exact (Nat.zero_min _).symm
  | succ n ih =>
    simp only [admitted, ih, admits, decide_eq_true_eq]
    split <;> omega

/-- The laws of the limit. -/
structure LimitLaws (q : RetryQuota) : Prop where
  zero : ∀ capacity fresh wait, q.limit capacity fresh wait = 0 ↔ capacity = 0
  bounds : ∀ capacity fresh wait, capacity ≠ 0 →
    1 ≤ q.limit capacity fresh wait ∧ q.limit capacity fresh wait ≤ max 1 (capacity - q.freshReserve)
  /-- It grows with the capacity. -/
  capacity : ∀ capacity capacity' fresh wait, capacity ≤ capacity' → q.Fits capacity' →
    q.limit capacity fresh wait ≤ q.limit capacity' fresh wait
  /-- Fresh work that waits does not raise it. -/
  fresh : ∀ capacity wait, q.limit capacity true wait ≤ q.limit capacity false wait
  /-- It grows with the wait of the oldest retry, where the share grows with age. -/
  wait : q.capPercent ≤ q.agedPercent → ∀ capacity wait wait', NoLonger wait wait' → q.Fits capacity →
    q.limit capacity true wait ≤ q.limit capacity true wait'
  /-- So many retries are admitted one after the other, however many are offered. -/
  admitted : ∀ capacity fresh wait n, q.admitted capacity fresh wait n = min n (q.limit capacity fresh wait)

/-- The limit is none exactly without capacity, leaves the reserve where it can, moves with capacity, fresh work and
age as it should, and is the number of retries that are admitted one after the other. -/
theorem limitLaws (q : RetryQuota) : q.LimitLaws where
  zero _ _ _ := limit_eq_zero_iff
  bounds _ _ _ some := ⟨one_le_limit (Nat.pos_of_ne_zero some), limit_le⟩
  capacity _ _ _ _ := limit_mono
  fresh _ _ := limit_fresh_le
  wait larger _ _ _ := limit_of_wait larger
  admitted _ _ _ := admitted_eq

/-- With the usual settings and ten workers, seven of nine retries are admitted while fresh work waits, once the oldest
has aged, and three before that. -/
theorem limitLaws_ten : ({} : RetryQuota).Fits 10 ∧
    ({} : RetryQuota).limit 10 true (some 500) ≤ ({} : RetryQuota).limit 10 true (some 30000) ∧
    ({} : RetryQuota).admitted 10 true (some 500) 9 = 3 ∧ ({} : RetryQuota).admitted 10 true (some 30000) 9 = 7 := by
  have fits : ({} : RetryQuota).Fits 10 := by decide
  have laws := limitLaws {}
  have longer : NoLonger (some 500) (some 30000) := fun a same => ⟨30000, rfl, by cases same; decide⟩
  exact ⟨fits, laws.wait (by decide) 10 _ _ longer fits, laws.admitted 10 true _ 9, laws.admitted 10 true _ 9⟩

end RetryQuota

end Postroom
