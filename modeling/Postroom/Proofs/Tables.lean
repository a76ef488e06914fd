import Mathlib.Data.List.Nodup
import Postroom.Count
import Postroom.Table

/-!
# Entries of a table

A table in which every key is entered once, as all tables are that are built by entering and removing. There an
entry is what is found under its key, and what is entered or removed moves the sum of the values by as much.

- `Table.contains_insert_iff`, `Table.contains_erase_iff`: the keys after each operation.
- `Table.Distinct`: no key is entered twice; kept by `Table.distinct_insert` and `Table.distinct_erase`.
- `Table.mem_of_insertPairs`: an entry is the new one or an old one.
- `Table.perm_insert`, `Table.perm_erase`: the entries after each operation.
- `Table.sumOf_map_insert`, `Table.sumOf_erase`: what each operation does to the sum of the values.
-/

namespace Postroom.Table

variable {κ υ : Type} [DecidableEq κ]

/-! ### Keys -/

theorem find?_eq_none_of_not_contains {t : Table κ υ} {k : κ} (h : ¬ t.contains k) : t.find? k = none :=
  Option.not_isSome_iff_eq_none.1 h

theorem contains_insert_iff {t : Table κ υ} {k k' : κ} {v : υ} :
    (t.insert k v).contains k' ↔ k = k' ∨ t.contains k' := by
  rw [contains, find?_insert]
  by_cases same : k = k'
  · rw [if_pos same]
    exact ⟨fun _ => .inl same, fun _ => rfl⟩
  · rw [if_neg same]
    exact ⟨.inr, fun h => h.resolve_left same⟩

theorem contains_erase_iff {t : Table κ υ} {k k' : κ} :
    (t.erase k).contains k' ↔ k ≠ k' ∧ t.contains k' := by
  rw [contains, find?_erase]
  by_cases same : k = k'
  · rw [if_pos same]
    exact ⟨fun none => absurd none Bool.false_ne_true, fun h => absurd same h.1⟩
  · rw [if_neg same]
    exact ⟨fun h => ⟨same, h⟩, fun h => h.2⟩

/-! ### Entries -/

theorem mem_of_insertPairs {k : κ} {v : υ} {es : List (κ × υ)} {e : κ × υ} (h : e ∈ insertPairs k v es) :
    e = (k, v) ∨ e ∈ es := by
  induction es with
  | nil => exact .inl (List.mem_singleton.1 h)
  | cons a es ih =>
    unfold insertPairs at h
    split at h
    · exact (List.mem_cons.1 h).imp_right (List.mem_cons_of_mem a)
    · rcases List.mem_cons.1 h with rfl | h
      · exact .inr List.mem_cons_self
      · exact (ih h).imp_right (List.mem_cons_of_mem a)

/-- No key is entered twice. -/
def Distinct (t : Table κ υ) : Prop := t.keys.Nodup

omit [DecidableEq κ] in
theorem distinct_empty : (empty : Table κ υ).Distinct := List.nodup_nil

theorem distinct_insert {t : Table κ υ} (h : t.Distinct) (k : κ) (v : υ) : (t.insert k v).Distinct := by
  obtain ⟨es⟩ := t
  show ((insertPairs k v es).map Prod.fst).Nodup
  replace h : (es.map Prod.fst).Nodup := h
  induction es with
  | nil => exact List.nodup_singleton k
  | cons e es ih =>
    obtain ⟨fresh, rest⟩ := List.nodup_cons.1 h
    unfold insertPairs
    split
    · next same => exact List.nodup_cons.2 ⟨same ▸ fresh, rest⟩
    · next other =>
      refine List.nodup_cons.2 ⟨fun inside => ?_, ih rest⟩
      obtain ⟨x, hx, key⟩ := List.mem_map.1 inside
      rcases mem_of_insertPairs hx with rfl | old
      · exact other key.symm
      · exact fresh (List.mem_map.2 ⟨x, old, key⟩)

theorem distinct_erase {t : Table κ υ} (h : t.Distinct) (k : κ) : (t.erase k).Distinct :=
  h.sublist (List.filter_sublist.map Prod.fst)

theorem find?_of_mem {t : Table κ υ} (h : t.Distinct) {e : κ × υ} (he : e ∈ t.entries) :
    t.find? e.1 = some e.2 := by
  obtain ⟨es⟩ := t
  replace h : (es.map Prod.fst).Nodup := h
  replace he : e ∈ es := he
  show (es.find? fun x => x.1 = e.1).map Prod.snd = some e.2
  induction es with
  | nil => cases he
  | cons x es ih =>
    obtain ⟨fresh, rest⟩ := List.nodup_cons.1 h
    rcases List.mem_cons.1 he with rfl | he
    · rw [List.find?_cons_of_pos (by simp)]
      rfl
    · have other : ¬ x.1 = e.1 := fun same => fresh (List.mem_map.2 ⟨e, he, same.symm⟩)
      rw [List.find?_cons_of_neg (by simpa using other)]
      exact ih rest he

/-! ### Entries after each operation -/

/-- What is entered takes the place of what was found. -/
theorem perm_insert (t : Table κ υ) (k : κ) (v : υ) :
    ((t.find? k).toList.map (k, ·) ++ (t.insert k v).entries).Perm ((k, v) :: t.entries) := by
  obtain ⟨es⟩ := t
  simp only [find?, insert]
  induction es with
  | nil => exact .refl _
  | cons e es ih =>
    obtain ⟨a, u⟩ := e
    unfold insertPairs
    by_cases same : a = k
    · subst same
      rw [if_pos rfl, List.find?_cons_of_pos (by simp)]
      exact .swap ..
    · rw [if_neg same, List.find?_cons_of_neg (by simpa using same)]
      exact List.perm_middle.trans ((ih.cons (a, u)).trans (.swap ..))

/-- What is removed is what was found. -/
theorem perm_erase {t : Table κ υ} (h : t.Distinct) (k : κ) :
    ((t.find? k).toList.map (k, ·) ++ (t.erase k).entries).Perm t.entries := by
  obtain ⟨es⟩ := t
  replace h : (es.map Prod.fst).Nodup := h
  simp only [find?, erase]
  induction es with
  | nil => exact .refl _
  | cons e es ih =>
    obtain ⟨fresh, rest⟩ := List.nodup_cons.1 h
    obtain ⟨a, u⟩ := e
    by_cases same : a = k
    · -- no other entry has this key, so the rest stays
      subst same
      have all : es.filter (fun x => decide (x.1 ≠ a)) = es := by
        refine List.filter_eq_self.2 fun x hx => decide_eq_true fun key => fresh ?_
        exact List.mem_map.2 ⟨x, hx, key⟩
      rw [List.filter_cons_of_neg (by simp), List.find?_cons_of_pos (by simp), all]
      exact .refl _
    · rw [List.filter_cons_of_pos (by simpa using same), List.find?_cons_of_neg (by simpa using same)]
      exact List.perm_middle.trans ((ih rest).cons (a, u))

/-! ### Sums of values -/

/-- What is entered takes the place of what was found, in any sum over the entries. -/
theorem sumOf_map_insert (t : Table κ υ) (g : κ × υ → Nat) (k : κ) (v : υ) :
    sumOf ((t.insert k v).entries.map g) + ((t.find? k).map fun u => g (k, u)).getD 0 =
      sumOf (t.entries.map g) + g (k, v) := by
  have sums := sumOf_perm ((perm_insert t k v).map g)
  cases found : t.find? k with
  | none =>
    rw [found] at sums
    exact sums.trans (Nat.add_comm ..)
  | some u =>
    rw [found] at sums
    exact (Nat.add_comm ..).trans (sums.trans (Nat.add_comm ..))

theorem sumOf_insert (t : Table κ Nat) (k : κ) (v : Nat) :
    sumOf ((t.insert k v).entries.map Prod.snd) + (t.find? k).getD 0 = sumOf (t.entries.map Prod.snd) + v := by
  rw [← sumOf_map_insert t Prod.snd k v, Option.map_id']

theorem sumOf_erase {t : Table κ Nat} (h : t.Distinct) (k : κ) :
    sumOf ((t.erase k).entries.map Prod.snd) + (t.find? k).getD 0 = sumOf (t.entries.map Prod.snd) := by
  have sums := sumOf_perm ((perm_erase h k).map Prod.snd)
  cases found : t.find? k with
  | none =>
    rw [found] at sums
    exact sums
  | some u =>
    rw [found] at sums
    exact (Nat.add_comm ..).trans sums

end Postroom.Table
