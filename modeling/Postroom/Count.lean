/-!
# Sums and powers of two

The little arithmetic that many parts share: sums of lists of counts, and the powers of two that bound
words of so many bits.

* `sumOf`: the sum of a list. `twoTo`: a power of two.
-/

namespace Postroom

/-- The sum of counts. -/
def sumOf : List Nat → Nat
  | [] => 0
  | n :: ns => n + sumOf ns

@[simp] theorem sumOf_nil : sumOf [] = 0 := rfl

@[simp] theorem sumOf_cons (n : Nat) (ns : List Nat) : sumOf (n :: ns) = n + sumOf ns := rfl

@[simp] theorem sumOf_append (ms ns : List Nat) : sumOf (ms ++ ns) = sumOf ms + sumOf ns := by
  induction ms with
  | nil => simp
  | cons m ms ih => simp [ih, Nat.add_assoc]

theorem sumOf_perm {ms ns : List Nat} (h : ms.Perm ns) : sumOf ms = sumOf ns := by
  induction h with
  | nil => rfl
  | cons n _ ih => rw [sumOf_cons, sumOf_cons, ih]
  | swap n m ns => simp only [sumOf_cons, Nat.add_left_comm]
  | trans _ _ ih ih' => exact ih.trans ih'

theorem sumOf_filter_map {α : Type} (p : α → Bool) (f : α → Nat) (l : List α) :
    sumOf ((l.filter p).map f) = sumOf (l.map fun a => if p a then f a else 0) := by
  induction l with
  | nil => rfl
  | cons a l ih => by_cases h : p a <;> simp [h, ih]

/-- A sum of remainders has the remainder of the sum. -/
theorem sumOf_map_mod {α : Type} (n : Nat) (f : α → Nat) (l : List α) :
    sumOf (l.map fun a => f a % n) % n = sumOf (l.map f) % n := by
  induction l with
  | nil => rfl
  | cons a l ih =>
    rw [List.map_cons, List.map_cons, sumOf_cons, sumOf_cons, Nat.mod_add_mod, Nat.add_mod, ih, ← Nat.add_mod]

theorem sumOf_map_le {α : Type} {f g : α → Nat} (le : ∀ a, f a ≤ g a) (l : List α) :
    sumOf (l.map f) ≤ sumOf (l.map g) := by
  induction l with
  | nil => exact Nat.le_refl 0
  | cons a l ih => exact Nat.add_le_add (le a) ih

/-- Two to the power `k`, the first number that does not fit into `k` bits. -/
def twoTo (k : Nat) : Nat := Nat.pow 2 k

theorem twoTo_succ (k : Nat) : twoTo (k + 1) = 2 * twoTo k := by
  simp only [twoTo, Nat.pow, Nat.mul_eq, Nat.mul_comm]

theorem twoTo_pos (k : Nat) : 0 < twoTo k := by
  induction k with
  | zero => decide
  | succ k ih =>
    rw [twoTo_succ]
    omega

end Postroom
