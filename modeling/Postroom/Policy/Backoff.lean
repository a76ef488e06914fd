import Postroom.Count
import Postroom.Policy.Magnitude

/-!
# Backoff

How often a batch may be retried, and how long each retry waits. The first retry waits for the
initial delay, each later one for the delay before times the multiplier, and none longer than the
greatest delay.

* `Backoff.hasBudget`, `Backoff.isFinalAttempt`: whether another retry is allowed.
* `Backoff.delay`: the wait before the `n`th retry, in milliseconds.
-/

namespace Postroom

/-- The retry policy. Times are in milliseconds. -/
structure Backoff where
  /-- The retries after the first attempt. -/
  maxRetries : Nat := 3
  initialDelay : Nat := 1000
  /-- The growth from one delay to the next; less than one counts as one. -/
  multiplier : Float := 2.0
  maxDelay : Nat := 300000

namespace Backoff

/-- Whether a batch that was retried `retries` times may be retried again. -/
def hasBudget (p : Backoff) (retries : Nat) : Bool := retries < p.maxRetries

/-- Whether the attempt after so many retries is the last one. -/
def isFinalAttempt (p : Backoff) (retries : Nat) : Bool := !p.hasBudget retries

/-- The greatest exponent that is used. -/
def maxExponent : Nat := twoTo 31 - 1

/-- The initial delay times the growth to the power `n - 1`, in floating-point arithmetic. -/
def grown (p : Backoff) (n : Nat) : Magnitude :=
  (Magnitude.ofNat p.initialDelay).mul ((Magnitude.growth p.multiplier).pow (min (n - 1) maxExponent))

/-- The wait before the `n`th retry. A delay that is out of range or not a number is the greatest
delay; a fraction of a millisecond is dropped. -/
def delay (p : Backoff) (n : Nat) : Nat :=
  if n ≤ 1 then min p.initialDelay p.maxDelay
  else match p.grown n with
    | .finite units =>
      if (Magnitude.finite units).atLeast (Magnitude.ofNat p.maxDelay) then p.maxDelay
      else min (units / Magnitude.one) p.maxDelay
    | _ => p.maxDelay

theorem delay_le_maxDelay (p : Backoff) (n : Nat) : p.delay n ≤ p.maxDelay := by
  unfold delay
  split
  · exact Nat.min_le_right ..
  · split
    · split
      · exact Nat.le_refl _
      · exact Nat.min_le_right ..
    · exact Nat.le_refl _

end Backoff

end Postroom
