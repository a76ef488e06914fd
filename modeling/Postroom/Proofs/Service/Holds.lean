import Mathlib.Data.List.Intervals
import Postroom.Policy.BulkHold

/-!
# How long bulk work is held, and how it comes back

The hold is asked for a budget again and again. What it answers can be told from the calls and the answers before,
without its two fields: a call is held exactly while the present stretch of waiting realtime work is younger than the
longest hold, and a call that is not held is rationed until as many calls as there are smoothing ticks were rationed
since smoothing was last armed. Two kinds of calls arm it: those that are held, and the first one after a stretch.

- `BulkHold.Call`, `BulkHold.before`, `BulkHold.answer`: a sequence of calls, and what each of them is answered.
- `BulkHold.Stretch`, `BulkHold.Arms`, `BulkHold.LastArms`, `BulkHold.rationed`: what is read off the calls.
- `BulkHold.due`, `BulkHold.next_eq`: what one call does.
- `BulkHold.start_of_stretch`, `BulkHold.left_of_lastArms`: what the two fields stand for.
- `BulkHold.Paced`, `BulkHold.paced`: every answer of every sequence of calls.
-/

namespace Postroom

namespace HoldConfig

variable {c : HoldConfig} {workers : Nat}

/-- However small the share, a smoothing tick may start a batch. -/
theorem smoothingBudget_pos : 1 ≤ c.smoothingBudget workers := Nat.le_max_right ..

end HoldConfig

/-- Some bulk work may start, though not any amount. -/
def BulkBudget.isRation : BulkBudget → Bool
  | unlimited => false
  | limited b => 1 ≤ b

namespace BulkHold

/-! ### One call -/

section Next

variable {h : BulkHold} {c : HoldConfig} {now longest workers : Nat} {pending : Bool}

/-- The smoothing ticks that are left when a call comes to them. The first call after a stretch finds all of them. -/
def due (h : BulkHold) (c : HoldConfig) (pending : Bool) : Nat :=
  if pending = false ∧ h.since.isSome then c.smoothingTicks else h.smoothingLeft

theorem smooth_budget : (h.smooth c workers).1 =
    if h.smoothingLeft = 0 then .unlimited else .limited (c.smoothingBudget workers) := by
  unfold smooth
  split <;> rfl

theorem smooth_since : (h.smooth c workers).2.since = h.since := by
  unfold smooth
  split <;> rfl

theorem smooth_left : (h.smooth c workers).2.smoothingLeft = h.smoothingLeft - 1 := by
  unfold smooth
  split
  case isTrue spent => rw [spent]
  case isFalse => rfl

/-- A call is held, or it takes one of the ticks that are due. -/
theorem next_eq : h.next c now pending longest workers =
    if pending = true ∧ now - h.since.getD now < longest then
      (.limited 0, { since := some (h.since.getD now), smoothingLeft := c.smoothingTicks })
    else
      BulkHold.smooth { since := if pending then some (h.since.getD now) else none, smoothingLeft := h.due c pending }
        c workers := by
  unfold next due
  cases pending with
  | true => simp
  | false => cases h with
    | mk since smoothingLeft => cases since <;> simp

theorem next_budget : (h.next c now pending longest workers).1 =
    if pending = true ∧ now - h.since.getD now < longest then .limited 0
    else if h.due c pending = 0 then .unlimited
    else .limited (c.smoothingBudget workers) := by
  rw [next_eq]
  split
  · rfl
  · exact smooth_budget

theorem next_since : (h.next c now pending longest workers).2.since =
    if pending then some (h.since.getD now) else none := by
  rw [next_eq]
  split
  case isTrue held => rw [if_pos held.1]
  case isFalse => exact smooth_since

theorem next_left : (h.next c now pending longest workers).2.smoothingLeft =
    if pending = true ∧ now - h.since.getD now < longest then c.smoothingTicks else h.due c pending - 1 := by
  rw [next_eq]
  split
  · rfl
  · exact smooth_left

end Next

/-! ### Sequences of calls -/

/-- What a call tells the hold. -/
structure Call where
  /-- The monotonic clock. -/
  now : Nat
  /-- Fresh realtime work waits. -/
  pending : Bool
  workers : Nat

variable (c : HoldConfig) (longest : Nat) (calls : Nat → Call)

/-- The hold as the call of that number finds it, counted from zero. -/
def before : Nat → BulkHold
  | 0 => {}
  | n + 1 => ((before n).next c (calls n).now (calls n).pending longest (calls n).workers).2

/-- What the call of that number is answered. -/
def answer (n : Nat) : BulkBudget :=
  ((before c longest calls n).next c (calls n).now (calls n).pending longest (calls n).workers).1

/-- The calls `i` to `n` all find realtime work waiting, and the call before `i` did not. -/
structure Stretch (i n : Nat) : Prop where
  le : i ≤ n
  pending : ∀ m, i ≤ m → m ≤ n → (calls m).pending = true
  first : ∀ m, m + 1 = i → (calls m).pending = false

/-- The first call without waiting realtime work after one with it. -/
def Clears (n : Nat) : Prop := (calls n).pending = false ∧ ∃ m, m + 1 = n ∧ (calls m).pending = true

/-- Smoothing starts over with this call. -/
def Arms (n : Nat) : Prop := answer c longest calls n = .limited 0 ∨ Clears calls n

/-- Smoothing last started over with call `j`, as seen from call `n`, which may be that call. -/
structure LastArms (j n : Nat) : Prop where
  le : j ≤ n
  arms : Arms c longest calls j
  last : ∀ m, j < m → m ≤ n → ¬ Arms c longest calls m

/-- How many of the calls from `j` on and before `n` were rationed. -/
def rationed (j n : Nat) : Nat := (List.Ico j n).countP fun m => (answer c longest calls m).isRation

variable {c longest calls} {i j n : Nat}

/-! ### Stretches of waiting realtime work -/

theorem Stretch.single (now : (calls n).pending = true) (first : ∀ m, m + 1 = n → (calls m).pending = false) :
    Stretch calls n n where
  le := le_rfl
  pending m low high := by rwa [le_antisymm high low]
  first := first

theorem Stretch.succ (h : Stretch calls i n) (now : (calls (n + 1)).pending = true) : Stretch calls i (n + 1) where
  le := h.le.trans n.le_succ
  pending m low high := by
    obtain rfl | earlier := eq_or_lt_of_le high
    · exact now
    · exact h.pending m low (Nat.lt_succ_iff.mp earlier)
  first := h.first

theorem exists_stretch (now : (calls n).pending = true) : ∃ i, Stretch calls i n := by
  induction n with
  | zero => exact ⟨0, .single now (by simp)⟩
  | succ n ih =>
    cases earlier : (calls n).pending with
    | true =>
      obtain ⟨i, h⟩ := ih earlier
      exact ⟨i, h.succ now⟩
    | false => exact ⟨n + 1, .single now fun m same => Nat.succ.inj same ▸ earlier⟩

/-- A stretch began no later than any part of it. -/
theorem Stretch.le_of_pending {k : Nat} (h : Stretch calls i n)
    (all : ∀ m, k ≤ m → m ≤ n → (calls m).pending = true) : i ≤ k := by
  by_contra later
  have idle : (calls (i - 1)).pending = false := h.first (i - 1) (by omega)
  have busy : (calls (i - 1)).pending = true := all (i - 1) (by omega) ((Nat.sub_le ..).trans h.le)
  rw [idle] at busy
  cases busy

/-! ### When the present stretch began -/

theorem since_succ : (before c longest calls (n + 1)).since =
    if (calls n).pending then some ((before c longest calls n).since.getD (calls n).now) else none := next_since

theorem since_of_idle (idle : ∀ m, m + 1 = n → (calls m).pending = false) :
    (before c longest calls n).since = none := by
  cases n with
  | zero => rfl
  | succ n => rw [since_succ, idle n rfl, if_neg Bool.false_ne_true]

/-- The hold counts from the first call of the stretch. -/
theorem start_of_stretch (h : Stretch calls i n) :
    (before c longest calls n).since.getD (calls n).now = (calls i).now := by
  induction n with
  | zero =>
    obtain rfl : i = 0 := Nat.le_zero.mp h.le
    rfl
  | succ n ih =>
    obtain rfl | earlier := eq_or_lt_of_le h.le
    · rw [since_of_idle h.first, Option.getD_none]
    · have part : Stretch calls i n :=
        ⟨Nat.lt_succ_iff.mp earlier, fun m low high => h.pending m low (high.trans n.le_succ), h.first⟩
      rw [since_succ, if_pos (h.pending n part.le n.le_succ), ih part, Option.getD_some]

/-- A call is held while the stretch that began with call `i` is younger than the longest hold. -/
theorem held_iff : answer c longest calls n = .limited 0 ↔
    ∃ i, Stretch calls i n ∧ (calls n).now - (calls i).now < longest := by
  have some_budget : 1 ≤ c.smoothingBudget (calls n).workers := c.smoothingBudget_pos
  have young : answer c longest calls n = .limited 0 ↔ (calls n).pending = true ∧
      (calls n).now - (before c longest calls n).since.getD (calls n).now < longest := by
    rw [answer, next_budget]
    grind
  rw [young]
  constructor
  · rintro ⟨now, short⟩
    obtain ⟨i, h⟩ := exists_stretch now
    exact ⟨i, h, start_of_stretch h ▸ short⟩
  · rintro ⟨i, h, short⟩
    exact ⟨h.pending n h.le le_rfl, (start_of_stretch h).symm ▸ short⟩

/-! ### How much smoothing is left -/

/-- The smoothing ticks that are left when the call of that number comes to them. -/
def dueAt (c : HoldConfig) (longest : Nat) (calls : Nat → Call) (n : Nat) : Nat :=
  (before c longest calls n).due c (calls n).pending

/-- A call that is not held is free once nothing is due, and rationed before that. -/
theorem answer_of_not_held (free : answer c longest calls n ≠ .limited 0) : answer c longest calls n =
    if dueAt c longest calls n = 0 then .unlimited else .limited (c.smoothingBudget (calls n).workers) := by
  rw [answer, next_budget] at free ⊢
  exact if_neg fun held => free (if_pos held)

theorem isRation_of_not_held (free : answer c longest calls n ≠ .limited 0) :
    (answer c longest calls n).isRation = true ↔ dueAt c longest calls n ≠ 0 := by
  rw [answer_of_not_held free]
  split
  case isTrue spent => simp [BulkBudget.isRation, spent]
  case isFalse some_left => simpa [BulkBudget.isRation, some_left] using HoldConfig.smoothingBudget_pos

theorem left_of_held (held : answer c longest calls n = .limited 0) :
    (before c longest calls (n + 1)).smoothingLeft = c.smoothingTicks := by
  have some_budget : 1 ≤ c.smoothingBudget (calls n).workers := c.smoothingBudget_pos
  rw [answer, next_budget] at held
  rw [before, next_left]
  grind

theorem left_of_not_held (free : answer c longest calls n ≠ .limited 0) :
    (before c longest calls (n + 1)).smoothingLeft = dueAt c longest calls n - 1 := by
  rw [answer, next_budget] at free
  rw [before, next_left]
  exact if_neg fun held => free (if_pos held)

theorem clears_iff : Clears calls n ↔
    (calls n).pending = false ∧ (before c longest calls n).since.isSome = true := by
  refine and_congr_right fun _ => ?_
  cases n with
  | zero => simp [before]
  | succ n =>
    rw [since_succ]
    cases earlier : (calls n).pending <;> simp [earlier]

/-- A call that starts over finds all of the smoothing ticks due. -/
theorem dueAt_of_clears (h : Clears calls n) : dueAt c longest calls n = c.smoothingTicks :=
  if_pos (clears_iff.mp h)

theorem dueAt_of_not_clears (h : ¬ Clears calls n) :
    dueAt c longest calls n = (before c longest calls n).smoothingLeft :=
  if_neg fun clears => h (clears_iff.mpr clears)

/-- Nothing is left before smoothing was first armed. -/
theorem left_of_never_armed (never : ∀ m < n, ¬ Arms c longest calls m) :
    (before c longest calls n).smoothingLeft = 0 := by
  induction n with
  | zero => rfl
  | succ n ih =>
    obtain ⟨free, goes_on⟩ := not_or.mp (never n n.lt_succ_self)
    rw [left_of_not_held free, dueAt_of_not_clears goes_on, ih fun m earlier => never m (earlier.trans n.lt_succ_self)]

theorem rationed_self : rationed c longest calls n n = 0 := by
  simp [rationed]

theorem rationed_succ (le : j ≤ n) : rationed c longest calls j (n + 1) =
    rationed c longest calls j n + if (answer c longest calls n).isRation then 1 else 0 := by
  rw [rationed, List.Ico.succ_top le, List.countP_append, List.countP_singleton]
  rfl

theorem LastArms.pred (h : LastArms c longest calls j (n + 1)) (earlier : j ≤ n) : LastArms c longest calls j n :=
  ⟨earlier, h.arms, fun m later le => h.last m later (le.trans n.le_succ)⟩

/-- Each rationed call takes one of the smoothing ticks, the arming call among them. -/
theorem left_of_lastArms (h : LastArms c longest calls j n) :
    (before c longest calls (n + 1)).smoothingLeft = c.smoothingTicks - rationed c longest calls j (n + 1) := by
  have take_one {m : Nat} (free : answer c longest calls m ≠ .limited 0) (le : j ≤ m)
      (left : dueAt c longest calls m = c.smoothingTicks - rationed c longest calls j m) :
      (before c longest calls (m + 1)).smoothingLeft =
        c.smoothingTicks - rationed c longest calls j (m + 1) := by
    have took := isRation_of_not_held free
    rw [left_of_not_held free, rationed_succ le]
    split
    case isTrue ration => omega
    case isFalse none_left => have := not_not.mp (mt took.mpr none_left); omega
  obtain ⟨le, arms, last⟩ := h
  induction n, le using Nat.le_induction with
  | base =>
    by_cases held : answer c longest calls j = .limited 0
    · rw [left_of_held held, rationed_succ le_rfl, rationed_self, held]
      rfl
    · exact take_one held le_rfl
        (by rw [dueAt_of_clears (arms.resolve_left held), rationed_self, Nat.sub_zero])
  | succ n le ih =>
    obtain ⟨free, goes_on⟩ := not_or.mp (last (n + 1) (Nat.lt_succ_of_le le) le_rfl)
    refine take_one free (le.trans n.le_succ) ?_
    rw [dueAt_of_not_clears goes_on]
    exact ih fun m later high => last m later (high.trans n.le_succ)

theorem dueAt_of_never_armed (never : ∀ m ≤ n, ¬ Arms c longest calls m) : dueAt c longest calls n = 0 := by
  rw [dueAt_of_not_clears fun clears => never n le_rfl (.inr clears)]
  exact left_of_never_armed fun m earlier => never m earlier.le

theorem dueAt_of_lastArms (free : answer c longest calls n ≠ .limited 0) (h : LastArms c longest calls j n) :
    dueAt c longest calls n = c.smoothingTicks - rationed c longest calls j n := by
  obtain rfl | earlier := eq_or_lt_of_le h.le
  · rw [dueAt_of_clears (h.arms.resolve_left free), rationed_self, Nat.sub_zero]
  · obtain ⟨n, rfl⟩ := Nat.exists_eq_succ_of_ne_zero (Nat.ne_zero_of_lt earlier)
    rw [dueAt_of_not_clears fun clears => h.last _ earlier le_rfl (.inr clears)]
    exact left_of_lastArms (h.pred (Nat.lt_succ_iff.mp earlier))

/-- If there was an arming call, there is a last one. -/
theorem exists_lastArms {m : Nat} (le : m ≤ n) (arms : Arms c longest calls m) : ∃ j, LastArms c longest calls j n := by
  induction n, le using Nat.le_induction with
  | base => exact ⟨m, le_rfl, arms, fun k later high => absurd later (Nat.not_lt.mpr high)⟩
  | succ n le ih =>
    by_cases now : Arms c longest calls (n + 1)
    · exact ⟨n + 1, le_rfl, now, fun k later high => absurd later (Nat.not_lt.mpr high)⟩
    · obtain ⟨j, h⟩ := ih
      refine ⟨j, h.le.trans n.le_succ, h.arms, fun k later high => ?_⟩
      obtain rfl | earlier := eq_or_lt_of_le high
      · exact now
      · exact h.last k later (Nat.lt_succ_iff.mp earlier)

/-- A call that is not held is free exactly if smoothing was never armed or as many calls as there are smoothing
ticks were rationed since. -/
theorem free_iff (free : answer c longest calls n ≠ .limited 0) : answer c longest calls n = .unlimited ↔
    (∀ m ≤ n, ¬ Arms c longest calls m) ∨
      ∃ j, LastArms c longest calls j n ∧ c.smoothingTicks ≤ rationed c longest calls j n := by
  have spent : answer c longest calls n = .unlimited ↔ dueAt c longest calls n = 0 := by
    rw [answer_of_not_held free]
    grind
  rw [spent]
  constructor
  · intro none_due
    by_cases never : ∀ m ≤ n, ¬ Arms c longest calls m
    · exact .inl never
    · push Not at never
      obtain ⟨m, le, arms⟩ := never
      obtain ⟨j, h⟩ := exists_lastArms le arms
      exact .inr ⟨j, h, Nat.sub_eq_zero_iff_le.mp (dueAt_of_lastArms free h ▸ none_due)⟩
  · rintro (never | ⟨j, h, enough⟩)
    · exact dueAt_of_never_armed never
    · rw [dueAt_of_lastArms free h, Nat.sub_eq_zero_iff_le.mpr enough]

/-! ### Every sequence of calls -/

/-- How a hold answers a sequence of calls. -/
structure Paced (c : HoldConfig) (longest : Nat) (calls : Nat → Call) : Prop where
  /-- Bulk is held exactly while realtime work waits, and for less than the longest hold since the first call of the
  present stretch. -/
  held : ∀ n, answer c longest calls n = .limited 0 ↔
    ∃ i, Stretch calls i n ∧ (calls n).now < (calls i).now + longest
  /-- Calls in a row that are all held span less than the longest hold. -/
  spans : ∀ i j, i ≤ j → (∀ m, i ≤ m → m ≤ j → answer c longest calls m = .limited 0) →
    (calls j).now < (calls i).now + longest
  /-- Every other call lets some bulk work start. -/
  opens : ∀ n, answer c longest calls n ≠ .limited 0 →
    answer c longest calls n = .unlimited ∨ ∃ b, 1 ≤ b ∧ answer c longest calls n = .limited b
  /-- It is free if no call up to this one armed smoothing, or if enough calls were rationed since the last one that
  did, itself counted and this call not. -/
  free : ∀ n, answer c longest calls n ≠ .limited 0 → (answer c longest calls n = .unlimited ↔
    (∀ m ≤ n, ¬ Arms c longest calls m) ∨
      ∃ j, LastArms c longest calls j n ∧ c.smoothingTicks ≤ rationed c longest calls j n)

/-- Where the clock is not set back, bulk work is never held for long, and it comes back by the smoothing ticks. -/
theorem paced (c : HoldConfig) (longest : Nat) (calls : Nat → Call) (steady : Monotone fun n => (calls n).now) :
    Paced c longest calls where
  held n := by
    rw [held_iff]
    refine exists_congr fun i => and_congr_right fun h => ?_
    have le : (calls i).now ≤ (calls n).now := steady h.le
    omega
  spans i j le all := by
    obtain ⟨k, h, short⟩ := held_iff.mp (all j le le_rfl)
    have busy : ∀ m, i ≤ m → m ≤ j → (calls m).pending = true := fun m low high =>
      have ⟨_, part, _⟩ := held_iff.mp (all m low high)
      part.pending m part.le le_rfl
    have began : (calls k).now ≤ (calls i).now := steady (h.le_of_pending busy)
    have ends : (calls i).now ≤ (calls j).now := steady le
    omega
  opens n free := by
    rw [answer_of_not_held free]
    split
    · exact .inl rfl
    · exact .inr ⟨_, HoldConfig.smoothingBudget_pos, rfl⟩
  free n free := free_iff free

/-- Two ticks a hundred milliseconds apart with waiting realtime work, and then none: with a longest hold of 150
milliseconds both are held, the next two are rationed, and the one after them is free. -/
def flurry (n : Nat) : Call := { now := 100 * n, pending := n < 2, workers := 10 }

theorem paced_flurry : (Monotone fun n => (flurry n).now) ∧
    Paced { smoothingTicks := 2 } 150 flurry ∧
    (List.range 5).map (answer { smoothingTicks := 2 } 150 flurry) =
      [.limited 0, .limited 0, .limited 2, .limited 2, .unlimited] :=
  have steady : Monotone fun n => (flurry n).now := fun _ _ le => Nat.mul_le_mul_left 100 le
  ⟨steady, paced _ _ _ steady, by decide⟩

end BulkHold

end Postroom
