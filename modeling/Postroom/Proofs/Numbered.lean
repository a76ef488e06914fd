import Mathlib.Data.List.Nodup

/-!
# Lists of numbered things

Sleepers, attempts, expiries and settlements are kept in lists and found by their numbers. As long as no
number occurs twice, the one that is found is the only one that is removed or changed.

- `perm_remove`, `perm_replace`: the list without the one that was found, and with another in its place.
-/

namespace Postroom.Numbered

variable {α : Type} {number : α → Nat} {n : Nat}

theorem number_of_found {as : List α} {a : α}
    (found : as.find? (fun a => number a = n) = some a) : number a = n := by
  simpa using List.find?_some found

/-- What is there is found by its number. -/
theorem find?_of_mem {as : List α} {a : α} (nodup : (as.map number).Nodup) (ha : a ∈ as) :
    as.find? (fun b => number b = number a) = some a := by
  obtain ⟨b, found⟩ : ∃ b, as.find? (fun b => number b = number a) = some b := by
    cases found : as.find? (fun b => number b = number a) with
    | none => exact absurd (decide_eq_true rfl) (List.find?_eq_none.1 found a ha)
    | some b => exact ⟨b, rfl⟩
  -- whatever is found has the number of a, so it is a
  have same := List.inj_on_of_nodup_map nodup (List.mem_of_find?_eq_some found) ha
    (number_of_found found)
  rw [found, same]

/-- Nothing is removed where no element has the number. -/
theorem filter_eq_self {as : List α} (h : n ∉ as.map number) :
    as.filter (fun a => number a ≠ n) = as := by
  refine List.filter_eq_self.2 fun a ha => decide_eq_true fun he => ?_
  exact h (he ▸ List.mem_map_of_mem ha)

/-- Nothing is changed where no element has the number. -/
theorem map_eq_self {as : List α} (f : α → α) (h : n ∉ as.map number) :
    as.map (fun a => if number a = n then f a else a) = as := by
  refine (List.map_congr_left fun a ha => if_neg fun he => ?_).trans (List.map_id as)
  exact h (he ▸ List.mem_map_of_mem ha)

/-- What has the number and satisfies a condition is all that changes with both. -/
theorem map_eq_of_mem {as : List α} {a : α} (f : α → α) (p : α → Bool) (nodup : (as.map number).Nodup) (ha : a ∈ as)
    (holds : p a) : as.map (fun b => if number b = number a && p b then f b else b) =
      as.map fun b => if number b = number a then f b else b := by
  refine List.map_congr_left fun b hb => ?_
  by_cases same : number b = number a
  · obtain rfl := List.inj_on_of_nodup_map nodup hb ha same
    simp [holds]
  · simp [same]

/-- Nothing is changed where nothing satisfies both. -/
theorem map_eq_self_of_forall {as : List α} (f : α → α) {p : α → Bool} (none : ∀ a ∈ as, number a = n → ¬ p a) :
    as.map (fun b => if number b = n && p b then f b else b) = as := by
  refine (List.map_congr_left fun a ha => if_neg ?_).trans (List.map_id as)
  rw [Bool.and_eq_true, decide_eq_true_iff]
  exact fun both => none a ha both.1 both.2

/-- What is found by its number is all that goes with that number. -/
theorem perm_remove {as : List α} {a : α} (nodup : (as.map number).Nodup)
    (found : as.find? (fun a => number a = n) = some a) :
    as.Perm (a :: as.filter fun a => number a ≠ n) := by
  induction as with
  | nil => cases found
  | cons b as ih =>
    obtain ⟨fresh, nodup⟩ := List.nodup_cons.1 nodup
    by_cases hb : number b = n
    · simp only [List.find?_cons, hb, decide_true, Option.some.injEq] at found
      subst found
      rw [List.filter_cons_of_neg (by simpa using hb), filter_eq_self (hb ▸ fresh)]
    · simp only [List.find?_cons, hb, decide_false] at found
      rw [List.filter_cons_of_pos (by simpa using hb)]
      exact ((ih nodup found).cons b).trans (List.Perm.swap a b _)

/-- What is found by its number is all that changes with that number. -/
theorem perm_replace {as : List α} {a : α} (f : α → α) (nodup : (as.map number).Nodup)
    (found : as.find? (fun a => number a = n) = some a) :
    (as.map fun a => if number a = n then f a else a).Perm
      (f a :: as.filter fun a => number a ≠ n) := by
  induction as with
  | nil => cases found
  | cons b as ih =>
    obtain ⟨fresh, nodup⟩ := List.nodup_cons.1 nodup
    by_cases hb : number b = n
    · simp only [List.find?_cons, hb, decide_true, Option.some.injEq] at found
      subst found
      rw [List.filter_cons_of_neg (by simpa using hb), filter_eq_self (hb ▸ fresh), List.map_cons,
        if_pos hb, map_eq_self f (hb ▸ fresh)]
    · simp only [List.find?_cons, hb, decide_false] at found
      rw [List.filter_cons_of_pos (by simpa using hb), List.map_cons, if_neg hb]
      exact ((ih nodup found).cons b).trans (List.Perm.swap (f a) b _)

end Postroom.Numbered
