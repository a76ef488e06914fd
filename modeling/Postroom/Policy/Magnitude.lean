import Postroom.Count

/-!
# Binary64 magnitudes of at least one

The numbers that a growing delay runs through: zero, and binary floating-point numbers of 53
significant bits from one upwards. All of them are whole multiples of `2 ^ -52`, so a magnitude is a
count of such units and its arithmetic is arithmetic of natural numbers.

* `Magnitude`: a count of units, infinity, or the undefined product of zero and infinity.
* `Magnitude.significant`: rounding to 53 significant bits, to the nearest, ties to even.
* `Magnitude.mul`, `Magnitude.pow`: the rounded product, and the power by repeated squaring.
* `Magnitude.growth`: a floating-point number, taken as one where it is less or undefined.
-/

namespace Postroom

/-- A number counted in units of `2 ^ -52`. -/
inductive Magnitude where
  | finite (units : Nat)
  | infinite
  /-- The product of zero and infinity. -/
  | undefined
  deriving DecidableEq

namespace Magnitude

/-- The units in one. -/
def one : Nat := twoTo 52

/-- The first count of units that is out of range: two to the power 1024. -/
def limit : Nat := twoTo 1024 * one

/-- `n` divided by two to the power `k`, to the nearest whole number, a tie to the even one. -/
def halveEven (n k : Nat) : Nat :=
  let q := n / twoTo k
  let r := n % twoTo k
  if twoTo k < 2 * r ∨ (2 * r = twoTo k ∧ q % 2 = 1) then q + 1 else q

/-- The number of bits of `n` beyond the 53 that count. -/
def excess (n : Nat) : Nat := n.log2 + 1 - 53

/-- `n` to 53 significant bits. -/
def significant (n : Nat) : Nat :=
  halveEven n (excess n) * twoTo (excess n)

/-- The magnitude of a count of units that may be out of range. -/
def ofUnits (units : Nat) : Magnitude :=
  if limit ≤ units then infinite else finite units

/-- A whole number, to 53 significant bits. -/
def ofNat (n : Nat) : Magnitude :=
  ofUnits (significant n * one)

/-- The rounded product. -/
def mul : Magnitude → Magnitude → Magnitude
  | finite a, finite b => ofUnits (significant (a * b) / one)
  | finite a, infinite | infinite, finite a => if a = 0 then undefined else infinite
  | infinite, infinite => infinite
  | undefined, _ | _, undefined => undefined

/-- `acc` times `a` to the power `e`, the factors taken from the binary digits of `e`, the lowest
first, each product rounded. -/
def powInto (acc a : Magnitude) (e : Nat) : Magnitude :=
  let acc' := if e % 2 = 1 then acc.mul a else acc
  if e / 2 = 0 then acc' else powInto acc' (a.mul a) (e / 2)
termination_by e
decreasing_by omega

/-- `a` to the power `e`. -/
def pow (a : Magnitude) (e : Nat) : Magnitude :=
  powInto (finite one) a e

/-- Whether the first number is at least the second; an undefined one never is. -/
def atLeast : Magnitude → Magnitude → Bool
  | finite a, finite b => b ≤ a
  | infinite, finite _ | infinite, infinite => true
  | _, _ => false

/-- The sign, the exponent and the fraction fields of a floating-point number. -/
def fields (x : Float) : Nat × Nat × Nat :=
  let bits := x.toBits.toNat
  (bits / twoTo 63, bits / twoTo 52 % twoTo 11, bits % twoTo 52)

/-- The factor by which delays grow: `x`, but one where `x` is less than one or not a number. -/
def growth (x : Float) : Magnitude :=
  let (sign, exponent, fraction) := fields x
  if sign = 1 ∨ exponent < 1023 then finite one
  else if exponent = 2047 then if fraction = 0 then infinite else finite one
  else finite ((one + fraction) * twoTo (exponent - 1023))

end Magnitude

end Postroom
