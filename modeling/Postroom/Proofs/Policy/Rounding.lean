import Mathlib.Algebra.Order.Field.Basic
import Mathlib.Data.Rat.Cast.Order
import Mathlib.Tactic.FieldSimp
import Mathlib.Tactic.Linarith
import Mathlib.Tactic.NormNum
import Mathlib.Tactic.Positivity
import Mathlib.Tactic.Ring
import Postroom.Policy.Magnitude

/-!
# Rounded products

What survives a chain of rounded products. Whole numbers up to `2 ^ 53` are exact, and a product beyond that stays
beyond, however its factors were rounded. For numbers beyond, each product is off by a factor that is close to one.

- `Magnitude.significant_le`, `Magnitude.le_significant`: rounding moves a number by one part in `2 ^ 53` at most.
- `Magnitude.powInto_of_mul`: what the power by repeated squaring keeps, from what a product keeps.
- `Magnitude.Tracks`: a magnitude agrees with a natural number as far as `2 ^ 53`.
- `Magnitude.AtMost`, `Magnitude.AtLeast`: bounds with a part of the rounding error charged in advance.
-/

namespace Postroom

theorem twoTo_eq (k : Nat) : twoTo k = 2 ^ k := rfl

namespace Magnitude

/-! ### Rounding to 53 bits -/

theorem one_eq : one = 2 ^ 52 := rfl

/-- Whole numbers up to `2 ^ 53` are far from out of range. -/
theorem lt_limit {k : Nat} (small : k ≤ 2 ^ 53) : k * one < limit := by
  have positive : 0 < one := twoTo_pos 52
  rw [limit, twoTo_eq, Nat.mul_lt_mul_right positive]
  exact small.trans_lt (pow_lt_pow_right₀ Nat.one_lt_two (by decide))

/-- A rounded quotient is off by half at most. -/
theorem halveEven_near (n k : Nat) :
    2 * (halveEven n k * twoTo k) ≤ 2 * n + twoTo k ∧ 2 * n ≤ 2 * (halveEven n k * twoTo k) + twoTo k := by
  have parts : twoTo k * (n / twoTo k) + n % twoTo k = n := Nat.div_add_mod n (twoTo k)
  have rest : n % twoTo k < twoTo k := Nat.mod_lt n (twoTo_pos k)
  rw [Nat.mul_comm] at parts
  rw [halveEven]
  split
  · rw [Nat.add_mul, Nat.one_mul]
    omega
  · omega

theorem div_le_halveEven (n k : Nat) : n / 2 ^ k ≤ halveEven n k := by
  rw [halveEven, ← twoTo_eq]
  split
  · exact Nat.le_succ _
  · exact Nat.le_refl _

/-- What divides evenly is not rounded. -/
theorem significant_of_dvd {n : Nat} (even : 2 ^ excess n ∣ n) : significant n = n := by
  rw [← twoTo_eq] at even
  have rest : n % twoTo (excess n) = 0 := Nat.mod_eq_zero_of_dvd even
  have positive := twoTo_pos (excess n)
  rw [significant, halveEven, if_neg (by omega), Nat.div_mul_cancel even]

theorem significant_zero : significant 0 = 0 := significant_of_dvd (Nat.dvd_zero _)

/-- Numbers of 53 bits with zeros behind them are exact. -/
theorem significant_mul_two_pow {c : Nat} (small : c ≤ 2 ^ 53) (s : Nat) : significant (c * 2 ^ s) = c * 2 ^ s := by
  rcases Nat.eq_zero_or_pos c with rfl | positive
  · rw [Nat.zero_mul, significant_zero]
  refine significant_of_dvd ?_
  rcases Nat.lt_or_eq_of_le small with small | rfl
  · have bits : (c * 2 ^ s).log2 < 53 + s := by
      rw [Nat.log2_lt (Nat.mul_ne_zero positive.ne' (Nat.two_pow_pos s).ne'), pow_add]
      exact Nat.mul_lt_mul_of_pos_right small (Nat.two_pow_pos s)
    have few : excess (c * 2 ^ s) ≤ s := by
      unfold excess
      omega
    exact Nat.dvd_mul_left_of_dvd (pow_dvd_pow 2 few) c
  · rw [← pow_add]
    refine pow_dvd_pow 2 ?_
    rw [excess, Nat.log2_two_pow]
    omega

theorem significant_of_le {n : Nat} (small : n ≤ 2 ^ 53) : significant n = n := by
  have exact := significant_mul_two_pow small 0
  rwa [pow_zero, Nat.mul_one] at exact

/-- A number that has bits to spare is large. -/
theorem two_pow_excess_mul_le {n : Nat} (spare : excess n ≠ 0) : 2 ^ excess n * 2 ^ 52 ≤ n := by
  have positive : n ≠ 0 := by
    rintro rfl
    exact spare rfl
  rw [← pow_add]
  refine (pow_le_pow_right₀ one_le_two ?_).trans (Nat.log2_self_le positive)
  unfold excess at spare ⊢
  omega

/-- No number falls below a power of two by rounding. -/
theorem two_pow_le_significant {n t : Nat} (large : 2 ^ t ≤ n) : 2 ^ t ≤ significant n := by
  by_cases spare : excess n = 0
  · rwa [significant_of_dvd (by rw [spare, pow_zero]; exact Nat.one_dvd n)]
  have kept : n / 2 ^ excess n * 2 ^ excess n ≤ significant n := Nat.mul_le_mul_right _ (div_le_halveEven n _)
  refine Nat.le_trans ?_ kept
  rcases Nat.le_total (excess n) t with few | many
  · rw [← Nat.sub_add_cancel few, pow_add] at large ⊢
    exact Nat.mul_le_mul_right _ ((Nat.le_div_iff_mul_le (Nat.two_pow_pos _)).2 large)
  · have bits : 2 ^ 52 ≤ n / 2 ^ excess n :=
      (Nat.le_div_iff_mul_le (Nat.two_pow_pos _)).2 (Nat.mul_comm .. ▸ two_pow_excess_mul_le spare)
    calc 2 ^ t ≤ 2 ^ excess n := pow_le_pow_right₀ one_le_two many
      _ = 1 * 2 ^ excess n := (Nat.one_mul _).symm
      _ ≤ _ := Nat.mul_le_mul_right _ (Nat.le_trans (by decide) bits)

/-- Rounding moves a number by one part in `2 ^ 53` at most. -/
theorem significant_near (n : Nat) :
    2 ^ 53 * significant n ≤ (2 ^ 53 + 1) * n ∧ (2 ^ 53 - 1) * n ≤ 2 ^ 53 * significant n := by
  by_cases spare : excess n = 0
  · rw [significant_of_dvd (by rw [spare, pow_zero]; exact Nat.one_dvd n)]
    exact ⟨Nat.mul_le_mul_right _ (by decide), Nat.mul_le_mul_right _ (by decide)⟩
  obtain ⟨upper, lower⟩ := halveEven_near n (excess n)
  have large := two_pow_excess_mul_le spare
  have rounded : significant n = halveEven n (excess n) * twoTo (excess n) := rfl
  rw [← twoTo_eq] at large
  omega

/-- The part of a number by which it may be moved when it is rounded. -/
def slack : ℚ := 1 / 2 ^ 53

theorem slack_pos : 0 < slack := by norm_num [slack]

theorem slack_lt_one : slack < 1 := by norm_num [slack]

theorem significant_le (n : Nat) : (significant n : ℚ) ≤ n * (1 + slack) := by
  have near : ((2 ^ 53 * significant n : ℕ) : ℚ) ≤ ((2 ^ 53 + 1) * n : ℕ) := Nat.cast_le.2 (significant_near n).1
  push_cast at near
  rw [slack]
  linarith

theorem le_significant (n : Nat) : n * (1 - slack) ≤ (significant n : ℚ) := by
  have near : (((2 ^ 53 - 1) * n : ℕ) : ℚ) ≤ (2 ^ 53 * significant n : ℕ) := Nat.cast_le.2 (significant_near n).2
  rw [Nat.cast_mul, Nat.cast_mul, Nat.cast_sub Nat.one_le_two_pow] at near
  push_cast at near
  rw [slack]
  linarith

/-! ### Products -/

/-- The number that so many units are. -/
def value (units : Nat) : ℚ := units / one

theorem one_pos : (0 : ℚ) < one := by norm_num [one_eq]

theorem value_mul_one (n : Nat) : value (n * one) = n := by
  rw [value, Nat.cast_mul, mul_div_cancel_right₀ _ one_pos.ne']

theorem one_le_value {u : Nat} (large : one ≤ u) : 1 ≤ value u :=
  (one_le_div one_pos).2 (Nat.cast_le.2 large)

theorem value_pos {u : Nat} (large : one ≤ u) : 0 < value u := zero_lt_one.trans_le (one_le_value large)

theorem value_lt_iff {u : Nat} : value u < 2 ^ 1024 ↔ u < limit := by
  rw [value, div_lt_iff₀ one_pos, limit, twoTo_eq, ← Nat.cast_lt (α := ℚ), Nat.cast_mul, Nat.cast_pow, Nat.cast_two]

/-- The rounded product of two counts of units, before its range is looked at. -/
def product (a b : Nat) : Nat := significant (a * b) / one

section Product

variable {a b : Nat} (ha : one ≤ a) (hb : one ≤ b)
include ha hb

theorem one_mul_one_le : 2 ^ 104 ≤ a * b := by
  rw [show 2 ^ 104 = one * one by rw [one_eq, ← pow_add]]
  exact Nat.mul_le_mul ha hb

/-- A product has no fraction of a unit left. -/
theorem product_mul_one : product a b * one = significant (a * b) := by
  have large := one_mul_one_le ha hb
  have bits : 104 ≤ (a * b).log2 := (Nat.le_log2 (by omega)).2 large
  refine Nat.div_mul_cancel (Nat.dvd_mul_left_of_dvd (pow_dvd_pow 2 ?_) _)
  unfold excess
  omega

theorem one_le_product : one ≤ product a b := by
  refine (Nat.le_div_iff_mul_le (by rw [one_eq]; exact Nat.two_pow_pos 52)).2 ?_
  rw [one_eq, ← pow_add]
  exact two_pow_le_significant (one_mul_one_le ha hb)

theorem value_product : value (product a b) = significant (a * b) / one / one := by
  rw [← product_mul_one ha hb, Nat.cast_mul, mul_div_cancel_right₀ _ one_pos.ne', value]

theorem value_product_le : value (product a b) ≤ value a * value b * (1 + slack) := by
  have near := significant_le (a * b)
  rw [value_product ha hb, div_div, div_le_iff₀ (mul_pos one_pos one_pos)]
  refine near.trans_eq ?_
  have := one_pos.ne'
  rw [value, value, Nat.cast_mul]
  field_simp

theorem le_value_product : value a * value b * (1 - slack) ≤ value (product a b) := by
  have near := le_significant (a * b)
  rw [value_product ha hb, div_div, le_div_iff₀ (mul_pos one_pos one_pos)]
  refine near.trans_eq' ?_
  have := one_pos.ne'
  rw [value, value, Nat.cast_mul]
  field_simp

end Product

theorem mul_finite (a b : Nat) : mul (finite a) (finite b) = ofUnits (product a b) := rfl

theorem mul_infinite {a : Nat} (ha : one ≤ a) :
    mul (finite a) infinite = infinite ∧ mul infinite (finite a) = infinite := by
  have positive : a ≠ 0 := by
    rintro rfl
    exact absurd ha (by decide)
  exact ⟨if_neg positive, if_neg positive⟩

theorem ofUnits_of_lt {u : Nat} (small : u < limit) : ofUnits u = finite u := if_neg (Nat.not_le.2 small)

theorem ofUnits_zero : ofUnits 0 = finite 0 :=
  ofUnits_of_lt (Nat.mul_pos (twoTo_pos 1024) (twoTo_pos 52))

theorem ofNat_zero : ofNat 0 = finite 0 := by
  rw [ofNat, significant_zero, Nat.zero_mul, ofUnits_zero]

theorem ofUnits_cases (u : Nat) : ofUnits u = infinite ∨ (ofUnits u = finite u ∧ u < limit) := by
  unfold ofUnits
  split
  · exact .inl rfl
  · next small => exact .inr ⟨rfl, Nat.not_le.1 small⟩

/-! ### Powers -/

/-- What holds of a product where it holds of the factors holds of a power. -/
theorem powInto_of_mul {α : Type} [CommMonoid α] {A F : Magnitude → α → Prop}
    (grows : ∀ {x y q r}, A x q → F y r → A (x.mul y) (q * r)) (squares : ∀ {x r}, F x r → F (x.mul x) (r * r))
    {acc a : Magnitude} {q r : α} (start : A acc q) (factor : F a r) (e : Nat) :
    A (powInto acc a e) (q * r ^ e) := by
  induction e using Nat.strongRecOn generalizing acc a q r with
  | ind e ih =>
    have parts : 2 * (e / 2) + e % 2 = e := Nat.div_add_mod e 2
    have next : A (if e % 2 = 1 then acc.mul a else acc) (q * r ^ (e % 2)) := by
      split
      · next odd =>
        rw [odd, pow_one]
        exact grows start factor
      · next even =>
        rw [show e % 2 = 0 by omega, pow_zero, mul_one]
        exact start
    rw [powInto]
    split
    · next last =>
      rw [last, Nat.mul_zero, Nat.zero_add] at parts
      rwa [show r ^ (e % 2) = r ^ e by rw [parts]] at next
    · next more =>
      have done := ih (e / 2) (by omega) next (squares factor)
      rwa [mul_assoc, ← pow_two, ← pow_mul, ← pow_add, Nat.add_comm, parts] at done

/-! ### Whole numbers up to `2 ^ 53` -/

/-- A magnitude is a natural number up to `2 ^ 53`, and at least `2 ^ 53` where the number is greater. -/
structure Tracks (x : Magnitude) (k : Nat) : Prop where
  positive : 1 ≤ k
  exact : k ≤ 2 ^ 53 → x = finite (k * one)
  beyond : 2 ^ 53 < k → x = infinite ∨ ∃ u, x = finite u ∧ 2 ^ 53 * one ≤ u

namespace Tracks

variable {x y : Magnitude} {j k : Nat}

theorem finite (positive : 1 ≤ k) : Tracks (.finite (k * one)) k where
  positive := positive
  exact _ := rfl
  beyond large := .inr ⟨_, rfl, Nat.mul_le_mul_right _ large.le⟩

theorem infinite (large : 2 ^ 53 < k) : Tracks .infinite k where
  positive := Nat.le_trans Nat.one_le_two_pow large.le
  exact small := absurd large (Nat.not_lt.2 small)
  beyond _ := .inl rfl

theorem lower (tracks : Tracks x k) :
    x = .infinite ∨ ∃ u, x = .finite u ∧ min k (2 ^ 53) * one ≤ u ∧ one ≤ u := by
  have least : one ≤ min k (2 ^ 53) * one :=
    Nat.le_mul_of_pos_left one (Nat.le_min.2 ⟨tracks.positive, Nat.one_le_two_pow⟩)
  rcases le_or_gt k (2 ^ 53) with small | large
  · rw [Nat.min_eq_left small] at least ⊢
    exact .inr ⟨_, tracks.exact small, Nat.le_refl _, least⟩
  · rw [Nat.min_eq_right large.le] at least ⊢
    exact (tracks.beyond large).imp_right fun known => by
      obtain ⟨u, hu, reached⟩ := known
      exact ⟨u, hu, reached, least.trans reached⟩

/-- A product is exact up to `2 ^ 53`, and stays beyond. -/
theorem mul (hx : Tracks x j) (hy : Tracks y k) : Tracks (x.mul y) (j * k) where
  positive := Nat.mul_pos hx.positive hy.positive
  exact small := by
    have hj : j ≤ 2 ^ 53 := (Nat.le_mul_of_pos_right j hy.positive).trans small
    have hk : k ≤ 2 ^ 53 := (Nat.le_mul_of_pos_left k hx.positive).trans small
    have exact : product (j * one) (k * one) = j * k * one := by
      have rearranged : j * one * (k * one) = j * k * 2 ^ 104 := by
        rw [one_eq, show 2 ^ 104 = 2 ^ 52 * 2 ^ 52 from rfl]
        ring
      rw [product, rearranged, significant_mul_two_pow small, show 2 ^ 104 = one * one from rfl, ← Nat.mul_assoc]
      exact Nat.mul_div_cancel _ (Nat.two_pow_pos 52)
    rw [hx.exact hj, hy.exact hk, mul_finite, exact, ofUnits_of_lt (lt_limit small)]
  beyond large := by
    rcases hx.lower with rfl | ⟨u, rfl, hu, ou⟩
    · rcases hy.lower with rfl | ⟨v, rfl, -, ov⟩
      · exact .inl rfl
      · exact .inl (mul_infinite ov).2
    rcases hy.lower with rfl | ⟨v, rfl, hv, -⟩
    · exact .inl (mul_infinite ou).1
    have factors : 2 ^ 53 ≤ min j (2 ^ 53) * min k (2 ^ 53) := by
      rcases Nat.le_total j (2 ^ 53) with hj | hj
      · rcases Nat.le_total k (2 ^ 53) with hk | hk
        · rw [Nat.min_eq_left hj, Nat.min_eq_left hk]
          exact large.le
        · rw [Nat.min_eq_right hk]
          exact Nat.le_mul_of_pos_left _ (Nat.le_min.2 ⟨hx.positive, Nat.one_le_two_pow⟩)
      · rw [Nat.min_eq_right hj]
        exact Nat.le_mul_of_pos_right _ (Nat.le_min.2 ⟨hy.positive, Nat.one_le_two_pow⟩)
    have units : 2 ^ 157 ≤ u * v :=
      calc 2 ^ 157 = 2 ^ 53 * (one * one) := by rw [one_eq, ← pow_add, ← pow_add]
        _ ≤ min j (2 ^ 53) * min k (2 ^ 53) * (one * one) := Nat.mul_le_mul_right _ factors
        _ = min j (2 ^ 53) * one * (min k (2 ^ 53) * one) := by ring
        _ ≤ u * v := Nat.mul_le_mul hu hv
    have reached : 2 ^ 53 * one ≤ product u v := by
      refine (Nat.le_div_iff_mul_le (Nat.two_pow_pos 52)).2 ?_
      rw [one_eq, ← pow_add, ← pow_add]
      exact two_pow_le_significant units
    rw [mul_finite]
    exact (ofUnits_cases _).imp_right fun known => ⟨_, known.1, reached⟩

theorem pow (hx : Tracks x k) (e : Nat) : Tracks (x.pow e) (k ^ e) := by
  have unit : Tracks (.finite one) 1 := Nat.one_mul one ▸ Tracks.finite (Nat.le_refl 1)
  have power := powInto_of_mul Tracks.mul (fun hx => hx.mul hx) unit hx e
  rwa [Nat.one_mul] at power

theorem ofNat (positive : 1 ≤ k) : Tracks (.ofNat k) k := by
  rcases le_or_gt k (2 ^ 53) with small | large
  · rw [Magnitude.ofNat, significant_of_le small, ofUnits_of_lt (lt_limit small)]
    exact .finite positive
  · have kept : 2 ^ 53 ≤ significant k := two_pow_le_significant large.le
    refine ⟨positive, fun small => absurd large (Nat.not_lt.2 small), fun _ => ?_⟩
    exact (ofUnits_cases _).imp_right fun known => ⟨_, known.1, Nat.mul_le_mul_right _ kept⟩

end Tracks

/-! ### Numbers beyond -/

/-- A number, and `c` times it, is at most `q`, and it is in range where `q` is. -/
structure AtMost (c : ℚ) (x : Magnitude) (q : ℚ) : Prop where
  one_le : 1 ≤ q
  bound : q < 2 ^ 1024 → ∃ u, x = finite u ∧ one ≤ u ∧ value u * c ≤ q

/-- Where a number is in range, `c` times it is at least `q`. -/
structure AtLeast (c : ℚ) (x : Magnitude) (q : ℚ) : Prop where
  nonneg : 0 ≤ q
  bound : x = infinite ∨ ∃ u, x = finite u ∧ one ≤ u ∧ u < limit ∧ q ≤ value u * c

section Bounds

variable {c q r : ℚ} {x y : Magnitude}

/-- The second factor pays for the rounding. -/
theorem AtMost.mul (hc : 1 ≤ c) (hx : AtMost c x q) (hy : AtMost (1 + slack) y r) : AtMost c (x.mul y) (q * r) where
  one_le := one_le_mul_of_one_le_of_one_le hx.one_le hy.one_le
  bound inside := by
    have hq := (le_mul_of_one_le_right (zero_le_one.trans hx.one_le) hy.one_le).trans_lt inside
    have hr := (le_mul_of_one_le_left (zero_le_one.trans hy.one_le) hx.one_le).trans_lt inside
    obtain ⟨u, rfl, ou, hu⟩ := hx.bound hq
    obtain ⟨v, rfl, ov, hv⟩ := hy.bound hr
    have positive := value_pos ou
    have charged : value (product u v) * c ≤ q * r :=
      calc value (product u v) * c ≤ value u * value v * (1 + slack) * c :=
            mul_le_mul_of_nonneg_right (value_product_le ou ov) (zero_le_one.trans hc)
        _ = value u * c * (value v * (1 + slack)) := by ring
        _ ≤ q * r := mul_le_mul hu hv (by have := value_pos ov; have := slack_pos; positivity)
            (zero_le_one.trans hx.one_le)
    have least := one_le_product ou ov
    have small : value (product u v) < 2 ^ 1024 :=
      (le_mul_of_one_le_right (value_pos least).le hc).trans_lt (charged.trans_lt inside)
    rw [mul_finite, ofUnits_of_lt (value_lt_iff.1 small)]
    exact ⟨_, rfl, least, charged⟩

theorem AtLeast.mul (hc : 0 ≤ c) (hx : AtLeast c x q) (hy : AtLeast (1 - slack) y r) : AtLeast c (x.mul y) (q * r) where
  nonneg := mul_nonneg hx.nonneg hy.nonneg
  bound := by
    rcases hx.bound with rfl | ⟨u, rfl, ou, -, hu⟩
    · rcases hy.bound with rfl | ⟨v, rfl, ov, -, -⟩
      · exact .inl rfl
      · exact .inl (mul_infinite ov).2
    rcases hy.bound with rfl | ⟨v, rfl, ov, -, hv⟩
    · exact .inl (mul_infinite ou).1
    rw [mul_finite]
    refine (ofUnits_cases _).imp_right fun known => ⟨_, known.1, one_le_product ou ov, known.2, ?_⟩
    calc q * r ≤ value u * c * (value v * (1 - slack)) :=
          mul_le_mul hu hv hy.nonneg (mul_nonneg (value_pos ou).le hc)
      _ = value u * value v * (1 - slack) * c := by ring
      _ ≤ value (product u v) * c := mul_le_mul_of_nonneg_right (le_value_product ou ov) hc

end Bounds

end Magnitude

end Postroom
