import Mathlib.Algebra.Order.Ring.Pow
import Postroom.Policy.Backoff
import Postroom.Proofs.Policy.Rounding

/-!
# Delays between retries

A delay that grows by a whole factor is the exact product, cut at the greatest delay: below `2 ^ 53` nothing is
rounded, and beyond that the greatest delay is reached anyway. There is one exception. Zero times a power that is out
of range is not a number, and that counts as out of range, so an initial delay of zero ends up as the greatest delay.
When that happens follows from the rounding error of the power, which the bound on the exponent keeps small.

- `Magnitude.Whole`: the floating-point numbers that are whole.
- `Backoff.delay_of_tracks`: what the cut leaves of a magnitude that is exact up to `2 ^ 53`.
- `Magnitude.Whole.pow_mono`: a power that is out of range stays so.
- `Backoff.Spills`: the exception. `Backoff.wholeLaws`: all delays.
-/

namespace Postroom

namespace Magnitude

/-- A floating-point number that is the whole number `m`, which is not zero: its sign, exponent and significand are
those of `m`. -/
structure Whole (x : Float) (m : Nat) : Prop where
  nonneg : (fields x).1 = 0
  inRange : (fields x).2.1 < 2047
  eq : (one + (fields x).2.2) * twoTo (fields x).2.1 = m * twoTo 1075

namespace Whole

variable {x : Float} {m : Nat}

theorem positive (whole : Whole x m) : 1 ≤ m := by
  rcases Nat.eq_zero_or_pos m with rfl | positive
  · have some : 0 < (one + (fields x).2.2) * twoTo (fields x).2.1 :=
      Nat.mul_pos (Nat.add_pos_left (twoTo_pos 52) _) (twoTo_pos _)
    rw [whole.eq, Nat.zero_mul] at some
    exact absurd some (Nat.lt_irrefl 0)
  · exact positive

theorem fraction_lt (x : Float) : (fields x).2.2 < one := Nat.mod_lt _ (twoTo_pos 52)

/-- A significand has one bit more than its fraction. -/
theorem shift_lt {fraction k bits : Nat} (fits : fraction < one) (small : k < bits) :
    (one + fraction) * 2 ^ k < twoTo bits * one :=
  calc (one + fraction) * 2 ^ k < one * 2 * 2 ^ k := Nat.mul_lt_mul_of_pos_right (by omega) (Nat.two_pow_pos k)
    _ = 2 ^ (k + 1) * one := by ring
    _ ≤ twoTo bits * one := Nat.mul_le_mul_right _ (pow_le_pow_right₀ one_le_two small)

/-- The bias of the exponent cancels. -/
theorem unbiased {a k bias : Nat} (eq : a * 2 ^ (k + bias) = m * 2 ^ (52 + bias)) : a * 2 ^ k = m * one := by
  refine Nat.eq_of_mul_eq_mul_right (Nat.two_pow_pos bias) ?_
  rw [Nat.mul_assoc, ← pow_add, eq, one_eq, Nat.mul_assoc, ← pow_add]

/-- The units of a whole number are its significand, shifted. -/
theorem units (whole : Whole x m) :
    ∃ k ≤ 1023, (fields x).2.1 = k + 1023 ∧ (one + (fields x).2.2) * 2 ^ k = m * one := by
  have positive := whole.positive
  have eq := whole.eq
  have inRange := whole.inRange
  have fraction := fraction_lt x
  revert eq inRange
  generalize (fields x).2.1 = exponent
  intro eq inRange
  rw [twoTo_eq, twoTo_eq, show 1075 = 52 + 1023 from rfl] at eq
  rcases Nat.lt_or_ge exponent 1023 with small | large
  · -- a number below one
    have below : (one + (fields x).2.2) * 2 ^ exponent < m * 2 ^ (52 + 1023) :=
      calc (one + (fields x).2.2) * 2 ^ exponent < 2 ^ 53 * 2 ^ exponent :=
            Nat.mul_lt_mul_of_pos_right (by rw [one_eq] at fraction ⊢; omega) (Nat.two_pow_pos _)
        _ = 2 ^ (53 + exponent) := (pow_add ..).symm
        _ ≤ 2 ^ (52 + 1023) := pow_le_pow_right₀ one_le_two (by omega)
        _ ≤ m * 2 ^ (52 + 1023) := Nat.le_mul_of_pos_left _ positive
    exact absurd eq below.ne
  · obtain ⟨k, rfl⟩ := Nat.exists_eq_add_of_le' large
    exact ⟨k, by omega, rfl, unbiased eq⟩

theorem growth (whole : Whole x m) : growth x = finite (m * one) := by
  obtain ⟨k, -, exponent, units⟩ := whole.units
  have inRange := whole.inRange
  have nonneg := whole.nonneg
  simp only [Magnitude.growth, nonneg, exponent]
  rw [if_neg (by omega), if_neg (by omega), Nat.add_sub_cancel, twoTo_eq, units]

theorem lt_limit (whole : Whole x m) : m * one < limit := by
  obtain ⟨k, small, -, units⟩ := whole.units
  rw [← units]
  exact shift_lt (fraction_lt x) (Nat.lt_succ_of_le small)

/-! ### Powers of a whole number -/

/-- A power of a whole number is exact up to `2 ^ 53`. -/
theorem tracks_pow (whole : Whole x m) (e : Nat) : Tracks ((Magnitude.growth x).pow e) (m ^ e) := by
  rw [whole.growth]
  exact (Tracks.finite whole.positive).pow e

theorem pow_le (whole : Whole x m) (e : Nat) : AtMost 1 ((Magnitude.growth x).pow e) ((m * (1 + slack)) ^ e) := by
  have least : (1 : ℚ) ≤ m := Nat.one_le_cast.2 whole.positive
  have unit : AtMost 1 (finite one) 1 := ⟨le_rfl, fun _ => ⟨_, rfl, Nat.le_refl _, by norm_num [value, one_pos.ne']⟩⟩
  have factor : AtMost (1 + slack) (finite (m * one)) (m * (1 + slack)) :=
    ⟨one_le_mul_of_one_le_of_one_le least (by linarith [slack_pos]),
      fun _ => ⟨_, rfl, Nat.le_mul_of_pos_left one whole.positive, by rw [value_mul_one]⟩⟩
  have power := powInto_of_mul (AtMost.mul le_rfl) (fun hx => hx.mul (by linarith [slack_pos]) hx) unit factor e
  rwa [one_mul, ← whole.growth] at power

theorem le_pow (whole : Whole x m) (e : Nat) : AtLeast 1 ((Magnitude.growth x).pow e) ((m * (1 - slack)) ^ e) := by
  have unit : AtLeast 1 (finite one) 1 := by
    refine ⟨zero_le_one, .inr ⟨_, rfl, Nat.le_refl _, ?_, by norm_num [value, one_pos.ne']⟩⟩
    exact Nat.one_mul one ▸ Magnitude.lt_limit Nat.one_le_two_pow
  have factor : AtLeast (1 - slack) (finite (m * one)) (m * (1 - slack)) :=
    ⟨mul_nonneg (Nat.cast_nonneg m) (by linarith [slack_lt_one]),
      .inr ⟨_, rfl, Nat.le_mul_of_pos_left one whole.positive, whole.lt_limit, by rw [value_mul_one]⟩⟩
  have power := powInto_of_mul (AtLeast.mul zero_le_one) (fun hx => hx.mul (by linarith [slack_lt_one]) hx)
    unit factor e
  rwa [one_mul, ← whole.growth] at power

end Whole

/-- Up to the greatest exponent, rounding down takes little away. -/
theorem three_quarters_le {e : Nat} (small : e ≤ Backoff.maxExponent) : 3 / 4 ≤ (1 - slack) ^ e := by
  have bernoulli : 1 + (e : ℚ) * -slack ≤ (1 + -slack) ^ e :=
    one_add_mul_le_pow (by linarith [slack_lt_one]) e
  have few : (e : ℚ) ≤ 2 ^ 31 :=
    calc (e : ℚ) ≤ (2 ^ 31 : ℕ) := Nat.cast_le.2 (small.trans (Nat.sub_le ..))
      _ = 2 ^ 31 := by push_cast; rfl
  have little : (e : ℚ) * slack ≤ 1 / 4 :=
    (mul_le_mul_of_nonneg_right few slack_pos.le).trans (by norm_num [slack])
  rw [← sub_eq_add_neg] at bernoulli
  linarith

/-- Up to the greatest exponent, rounding up adds little. -/
theorem le_four_thirds {e : Nat} (small : e ≤ Backoff.maxExponent) : (1 + slack) ^ e ≤ 4 / 3 := by
  have lower := three_quarters_le small
  have both : (1 + slack) ^ e * (1 - slack) ^ e ≤ 1 := by
    rw [← mul_pow]
    exact pow_le_one₀ (by norm_num [slack]) (by norm_num [slack])
  have positive : 0 ≤ (1 + slack) ^ e := pow_nonneg (by linarith [slack_pos]) e
  have := mul_le_mul_of_nonneg_left lower positive
  linarith

namespace Whole

variable {x : Float} {m e e' : Nat}

/-- A power of up to half the range is in range. -/
theorem pow_ne_infinite (whole : Whole x m) (small : e ≤ Backoff.maxExponent) (half : m ^ e ≤ 2 ^ 1023) :
    (Magnitude.growth x).pow e ≠ infinite := by
  have power : (m * (1 + slack)) ^ e < 2 ^ 1024 := by
    have half : (m : ℚ) ^ e ≤ 2 ^ 1023 := by exact_mod_cast half
    have upper := mul_le_mul_of_nonneg_left (le_four_thirds small) (pow_nonneg (Nat.cast_nonneg m) e : 0 ≤ (m : ℚ) ^ e)
    have range : (0 : ℚ) < 2 ^ 1023 := pow_pos two_pos 1023
    rw [mul_pow, pow_succ (2 : ℚ) 1023]
    generalize (2 : ℚ) ^ 1023 = range at *
    linarith
  obtain ⟨u, finite, -⟩ := (whole.pow_le e).bound power
  rw [finite]
  nofun

/-- A power that exceeds the range by a third is out of range. -/
theorem pow_eq_infinite (whole : Whole x m) (small : e ≤ Backoff.maxExponent)
    (beyond : 2 ^ 1024 * 4 ≤ (m : ℚ) ^ e * 3) : (Magnitude.growth x).pow e = infinite := by
  rcases (whole.le_pow e).bound with infinite | ⟨u, -, -, inside, charged⟩
  · exact infinite
  exfalso
  have inside := value_lt_iff.2 inside
  have lower := mul_le_mul_of_nonneg_left (three_quarters_le small) (pow_nonneg (Nat.cast_nonneg m) e : 0 ≤ (m : ℚ) ^ e)
  rw [mul_pow, mul_one] at charged
  generalize (2 : ℚ) ^ 1024 = range at *
  linarith

/-- Once a power is out of range, all greater ones are. -/
theorem pow_mono (whole : Whole x m) (later : e ≤ e') (small : e' ≤ Backoff.maxExponent)
    (infinite : (Magnitude.growth x).pow e = infinite) : (Magnitude.growth x).pow e' = .infinite := by
  rcases Nat.lt_or_eq_of_le later with later | rfl
  · -- a factor of two and more is left, and the rounding error is less than that
    have two : 2 ≤ m := by
      rcases Nat.lt_or_eq_of_le whole.positive with two | rfl
      · exact two
      · have exact := (whole.tracks_pow e).exact (by rw [one_pow]; exact Nat.one_le_two_pow)
        rw [infinite] at exact
        cases exact
    have reached : 2 ^ 1024 ≤ (m * (1 + slack)) ^ e := by
      by_contra inside
      obtain ⟨u, finite, -⟩ := (whole.pow_le e).bound (not_le.1 inside)
      rw [infinite] at finite
      cases finite
    refine whole.pow_eq_infinite small ?_
    have upper := le_four_thirds (later.le.trans small)
    have doubled : (m : ℚ) ^ e * 2 ≤ m ^ e' := by
      calc (m : ℚ) ^ e * 2 ≤ m ^ e * m :=
            mul_le_mul_of_nonneg_left (by exact_mod_cast two) (pow_nonneg (Nat.cast_nonneg m) e)
        _ = m ^ (e + 1) := (pow_succ ..).symm
        _ ≤ m ^ e' := pow_le_pow_right₀ (Nat.one_le_cast.2 whole.positive) later
    have := mul_le_mul_of_nonneg_left upper (pow_nonneg (Nat.cast_nonneg m) e : 0 ≤ (m : ℚ) ^ e)
    rw [mul_pow] at reached
    have range : (0 : ℚ) < 2 ^ 1024 := pow_pos two_pos 1024
    generalize (2 : ℚ) ^ 1024 = range at *
    linarith
  · exact infinite

end Whole

end Magnitude

namespace Backoff

open Magnitude

variable {p : Backoff} {m n k : Nat}

/-- The greatest delay is not rounded. -/
theorem ofNat_maxDelay (cap : p.maxDelay ≤ 2 ^ 53) : Magnitude.ofNat p.maxDelay = finite (p.maxDelay * one) := by
  rw [Magnitude.ofNat, significant_of_le cap, ofUnits_of_lt (lt_limit cap)]

/-- What the cut leaves of a finite magnitude. -/
theorem delay_of_finite {u : Nat} (cap : p.maxDelay ≤ 2 ^ 53) (more : 1 < n) (known : p.grown n = finite u) :
    p.delay n = min (u / one) p.maxDelay := by
  have positive : 0 < one := twoTo_pos 52
  rw [delay, if_neg (Nat.not_le.2 more), known]
  simp only [ofNat_maxDelay cap]
  split
  · next reached =>
    exact (Nat.min_eq_right ((Nat.le_div_iff_mul_le positive).2 (of_decide_eq_true reached))).symm
  · rfl

theorem delay_of_infinite (more : 1 < n) (known : p.grown n = infinite) : p.delay n = p.maxDelay := by
  rw [delay, if_neg (Nat.not_le.2 more), known]

/-- What the cut leaves of a magnitude that is exact up to `2 ^ 53`. -/
theorem delay_of_tracks (cap : p.maxDelay ≤ 2 ^ 53) (more : 1 < n) (tracks : Tracks (p.grown n) k) :
    p.delay n = min k p.maxDelay := by
  have positive : 0 < one := twoTo_pos 52
  rcases le_or_gt k (2 ^ 53) with small | large
  · rw [delay_of_finite cap more (tracks.exact small), Nat.mul_div_cancel k positive]
  · rw [Nat.min_eq_right (cap.trans large.le)]
    rcases tracks.beyond large with infinite | ⟨u, finite, reached⟩
    · exact delay_of_infinite more infinite
    · rw [delay_of_finite cap more finite]
      exact Nat.min_eq_right (cap.trans ((Nat.le_div_iff_mul_le positive).2 reached))

theorem two_pow_le_pow (two : 2 ≤ m) {e : Nat} (late : k ≤ e) : 2 ^ k ≤ m ^ e :=
  (pow_le_pow_right₀ one_le_two late).trans (Nat.pow_le_pow_left two e)

/-- A factor that is not one has grown beyond `2 ^ 53` long before the greatest exponent. -/
theorem min_mul_pow_clamped (positive : 1 ≤ m) (cap : p.maxDelay ≤ 2 ^ 53) (some : 1 ≤ p.initialDelay) (e : Nat) :
    min (p.initialDelay * m ^ min e maxExponent) p.maxDelay = min (p.initialDelay * m ^ e) p.maxDelay := by
  rcases Nat.le_total e maxExponent with small | large
  · rw [Nat.min_eq_left small]
  rw [Nat.min_eq_right large]
  rcases Nat.lt_or_eq_of_le positive with two | rfl
  · have beyond : ∀ k, maxExponent ≤ k → p.maxDelay ≤ p.initialDelay * m ^ k := fun k late =>
      calc p.maxDelay ≤ 2 ^ 53 := cap
        _ ≤ m ^ k := two_pow_le_pow two (Nat.le_trans (by decide) late)
        _ ≤ p.initialDelay * m ^ k := Nat.le_mul_of_pos_left _ some
    rw [Nat.min_eq_right (beyond _ (Nat.le_refl _)), Nat.min_eq_right (beyond _ large)]
  · rw [one_pow, one_pow]

/-- From a delay of one millisecond on, every delay is the exact product, cut at the greatest one. -/
theorem delay_of_pos (whole : Whole p.multiplier m) (cap : p.maxDelay ≤ 2 ^ 53) (some : 1 ≤ p.initialDelay) (n : Nat) :
    p.delay n = min (p.initialDelay * m ^ (n - 1)) p.maxDelay := by
  rcases Nat.lt_or_ge 1 n with more | first
  · rw [delay_of_tracks cap more ((Tracks.ofNat some).mul (whole.tracks_pow _)),
      min_mul_pow_clamped whole.positive cap some]
  · rw [delay, if_pos first, Nat.sub_eq_zero_of_le first, pow_zero, Nat.mul_one]

/-- The initial delay is zero, and the power by which it grows is out of range. -/
def Spills (p : Backoff) (n : Nat) : Prop :=
  p.initialDelay = 0 ∧ (growth p.multiplier).pow (min (n - 1) maxExponent) = .infinite

theorem not_spills_of_le_one (first : n ≤ 1) : ¬ p.Spills n := by
  rintro ⟨-, power⟩
  rw [Nat.sub_eq_zero_of_le first, Nat.zero_min, Magnitude.pow, powInto] at power
  cases power

theorem grown_of_zero (zero : p.initialDelay = 0) {u : Nat}
    (power : (growth p.multiplier).pow (min (n - 1) maxExponent) = finite u) : p.grown n = finite 0 := by
  rw [grown, zero, power, ofNat_zero, mul_finite, product, Nat.zero_mul, significant_zero, Nat.zero_div, ofUnits_zero]

/-- Where the initial delay is zero, all delays are, but for those after a power out of range. -/
theorem delay_of_zero (whole : Whole p.multiplier m) (cap : p.maxDelay ≤ 2 ^ 53) (zero : p.initialDelay = 0)
    (inside : ¬ p.Spills n) : p.delay n = 0 := by
  rcases Nat.lt_or_ge 1 n with more | first
  · rcases (whole.tracks_pow (min (n - 1) maxExponent)).lower with power | ⟨u, power, -⟩
    · exact absurd ⟨zero, power⟩ inside
    · rw [delay_of_finite cap more (grown_of_zero zero power), Nat.zero_div, Nat.zero_min]
  · rw [delay, if_pos first, zero, Nat.zero_min]

/-- Zero times a power that is out of range counts as out of range. -/
theorem delay_of_spills (spills : p.Spills n) : p.delay n = p.maxDelay := by
  have more : ¬ n ≤ 1 := fun first => not_spills_of_le_one first spills
  have undefined : p.grown n = undefined := by
    rw [grown, spills.1, spills.2, ofNat_zero]
    rfl
  rw [delay, if_neg more, undefined]

/-- A later retry waits no less. -/
theorem delay_mono (whole : Whole p.multiplier m) (cap : p.maxDelay ≤ 2 ^ 53) {n' : Nat} (later : n ≤ n') :
    p.delay n ≤ p.delay n' := by
  rcases Nat.eq_zero_or_pos p.initialDelay with zero | some
  · by_cases spills : p.Spills n
    · have small : min (n' - 1) maxExponent ≤ maxExponent := Nat.min_le_right ..
      have spills' : p.Spills n' := ⟨zero, whole.pow_mono (by omega) small spills.2⟩
      rw [delay_of_spills spills, delay_of_spills spills']
    · rw [delay_of_zero whole cap zero spills]
      exact Nat.zero_le _
  · rw [delay_of_pos whole cap some, delay_of_pos whole cap some]
    have grows : m ^ (n - 1) ≤ m ^ (n' - 1) := Nat.pow_le_pow_right whole.positive (Nat.sub_le_sub_right later 1)
    exact min_le_min_right _ (Nat.mul_le_mul_left _ grows)

/-- The delays that grow by the whole number `m`. -/
structure WholeLaws (p : Backoff) (m : Nat) : Prop where
  /-- The exact product, cut at the greatest delay. -/
  exact : ∀ n, ¬ p.Spills n → p.delay n = min (p.initialDelay * m ^ (n - 1)) p.maxDelay
  /-- The exception: the product is zero, and the delay is the greatest one. -/
  spilled : ∀ n, p.Spills n → p.delay n = p.maxDelay
  /-- Up to half the range of the floating-point numbers there is no exception. -/
  half : ∀ n, m ^ (n - 1) ≤ 2 ^ 1023 → ¬ p.Spills n
  /-- From twice the range on, every delay that should be zero is one. -/
  twice : ∀ n, p.initialDelay = 0 → 2 ^ 1025 ≤ m ^ (n - 1) → p.Spills n
  monotone : ∀ n n', n ≤ n' → p.delay n ≤ p.delay n'
  capped : ∀ n, p.delay n ≤ p.maxDelay

theorem not_spills_of_half (whole : Whole p.multiplier m) (half : m ^ (n - 1) ≤ 2 ^ 1023) : ¬ p.Spills n := by
  have earlier : m ^ min (n - 1) maxExponent ≤ m ^ (n - 1) :=
    Nat.pow_le_pow_right whole.positive (Nat.min_le_left ..)
  exact fun spills => whole.pow_ne_infinite (Nat.min_le_right ..) (earlier.trans half) spills.2

/-- The greatest exponent is large enough for every power of two that matters. -/
theorem le_pow_clamped (positive : 1 ≤ m) {e : Nat} (some : k ≠ 0) (late : k ≤ maxExponent) (reached : 2 ^ k ≤ m ^ e) :
    2 ^ k ≤ m ^ min e maxExponent := by
  rcases Nat.le_total e maxExponent with small | large
  · rwa [Nat.min_eq_left small]
  rw [Nat.min_eq_right large]
  rcases Nat.lt_or_eq_of_le positive with two | rfl
  · exact two_pow_le_pow two late
  · rw [one_pow] at reached
    exact absurd reached (Nat.not_le.2 (Nat.one_lt_two_pow some))

theorem spills_of_twice (whole : Whole p.multiplier m) (zero : p.initialDelay = 0) (twice : 2 ^ 1025 ≤ m ^ (n - 1)) :
    p.Spills n := by
  have clamped := le_pow_clamped whole.positive (by decide) (by decide) twice
  refine ⟨zero, whole.pow_eq_infinite (Nat.min_le_right ..) ?_⟩
  have clamped : ((2 ^ 1025 : ℕ) : ℚ) ≤ (m ^ min (n - 1) maxExponent : ℕ) := Nat.cast_le.2 clamped
  rw [Nat.cast_pow, Nat.cast_pow, Nat.cast_ofNat, pow_succ (2 : ℚ) 1024] at clamped
  have range : (0 : ℚ) < 2 ^ 1024 := pow_pos two_pos 1024
  generalize (2 : ℚ) ^ 1024 = range at *
  linarith

/-- Delays that grow by a whole factor are exact products, cut at the greatest delay, but for those that are zero times
a power out of range. They never shrink. -/
theorem wholeLaws (p : Backoff) (m : Nat) (whole : Whole p.multiplier m) (cap : p.maxDelay ≤ 2 ^ 53) :
    p.WholeLaws m where
  exact n inside := by
    rcases Nat.eq_zero_or_pos p.initialDelay with zero | some
    · rw [delay_of_zero whole cap zero inside, zero, Nat.zero_mul, Nat.zero_min]
    · exact delay_of_pos whole cap some n
  spilled _ := delay_of_spills
  half _ := not_spills_of_half whole
  twice _ := spills_of_twice whole
  monotone _ _ := delay_mono whole cap
  capped := p.delay_le_maxDelay

/-- Delays that double, up to a second. -/
def doubling (initial : Nat) : Backoff where
  initialDelay := initial
  maxDelay := 1000

/-- Delays that double from 100 milliseconds on reach a second at the fifth retry. Those that double from zero on are
zero up to the 1024th, and a second from the 1026th on at the latest. -/
theorem wholeLaws_doubling :
    Whole (doubling 100).multiplier 2 ∧ (doubling 100).delay 4 = 800 ∧ (doubling 100).delay 5 = 1000 ∧
      (doubling 0).delay 1024 = 0 ∧ (doubling 0).delay 1026 = 1000 := by
  have two : Whole 2.0 2 := ⟨by decide, by decide, by decide +kernel⟩
  have growing := wholeLaws (doubling 100) 2 two (by decide)
  have still := wholeLaws (doubling 0) 2 two (by decide)
  have inside : ∀ n, ¬ (doubling 100).Spills n := fun n spills => absurd spills.1 (by decide)
  refine ⟨two, ?_, ?_, ?_, ?_⟩
  · exact (growing.exact 4 (inside 4)).trans (by decide)
  · exact (growing.exact 5 (inside 5)).trans (by decide)
  · refine (still.exact 1024 (still.half 1024 (pow_le_pow_right₀ one_le_two (by decide)))).trans ?_
    rw [show (doubling 0).initialDelay = 0 from rfl, Nat.zero_mul, Nat.zero_min]
  · exact still.spilled 1026 (still.twice 1026 rfl (pow_le_pow_right₀ one_le_two (by decide)))

end Backoff

end Postroom
