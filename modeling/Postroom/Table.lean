/-!
# Tables

A finite map kept as a list of pairs, in the order in which the keys were first entered. Tables hold
what the office looks up by name: registrations, waits, counters.

* `Table.find?`, `Table.insert`, `Table.erase`, `Table.modify`: look up, set, remove, change.
* `Table.find?_insert`, `Table.find?_erase`: each operation acts on its own key only.
-/

namespace Postroom

/-- A finite map as a list of pairs. -/
structure Table (κ υ : Type) where
  /-- The pairs, in the order in which their keys were first entered. -/
  entries : List (κ × υ) := []

namespace Table

variable {κ υ : Type} [DecidableEq κ]

/-- The table without entries. -/
def empty : Table κ υ := ⟨[]⟩

/-- The value entered under `k`. -/
def find? (t : Table κ υ) (k : κ) : Option υ :=
  (t.entries.find? fun e => e.1 = k).map Prod.snd

/-- Whether something is entered under `k`. -/
def contains (t : Table κ υ) (k : κ) : Bool :=
  (t.find? k).isSome

/-- The pairs with `v` under `k`: in place of the first value there, else at the end. -/
def insertPairs (k : κ) (v : υ) : List (κ × υ) → List (κ × υ)
  | [] => [(k, v)]
  | e :: es => if e.1 = k then (k, v) :: es else e :: insertPairs k v es

/-- Enter `v` under `k`. -/
def insert (t : Table κ υ) (k : κ) (v : υ) : Table κ υ :=
  ⟨insertPairs k v t.entries⟩

/-- Remove what is entered under `k`. -/
def erase (t : Table κ υ) (k : κ) : Table κ υ :=
  ⟨t.entries.filter fun e => e.1 ≠ k⟩

/-- Keep the entries that satisfy `p`. -/
def filter (t : Table κ υ) (p : κ → υ → Bool) : Table κ υ :=
  ⟨t.entries.filter fun e => p e.1 e.2⟩

/-- Change the value under `k`, starting from `fresh` where there is none. -/
def modify (t : Table κ υ) (k : κ) (fresh : υ) (f : υ → υ) : Table κ υ :=
  t.insert k (f ((t.find? k).getD fresh))

/-- The number of entries. -/
def size (t : Table κ υ) : Nat :=
  t.entries.length

/-- The keys, in the order in which they were first entered. -/
def keys (t : Table κ υ) : List κ :=
  t.entries.map Prod.fst

/-! ### Lookup after each operation -/

@[simp] theorem find?_empty (k : κ) : (empty : Table κ υ).find? k = none := rfl

theorem find?_insert (t : Table κ υ) (k k' : κ) (v : υ) :
    (t.insert k v).find? k' = if k = k' then some v else t.find? k' := by
  obtain ⟨es⟩ := t
  simp only [find?, insert]
  induction es with
  | nil => by_cases h : k = k' <;> simp [insertPairs, h]
  | cons e es ih =>
    obtain ⟨a, w⟩ := e
    by_cases ha : a = k <;> by_cases ha' : a = k' <;> by_cases h : k = k' <;>
      simp_all [insertPairs]

@[simp] theorem find?_insert_self (t : Table κ υ) (k : κ) (v : υ) :
    (t.insert k v).find? k = some v := by
  simp [find?_insert]

theorem find?_erase (t : Table κ υ) (k k' : κ) :
    (t.erase k).find? k' = if k = k' then none else t.find? k' := by
  obtain ⟨es⟩ := t
  simp only [find?, erase]
  induction es with
  | nil => simp
  | cons e es ih =>
    obtain ⟨a, w⟩ := e
    by_cases ha : a = k <;> by_cases ha' : a = k' <;> by_cases h : k = k' <;> simp_all

@[simp] theorem find?_erase_self (t : Table κ υ) (k : κ) : (t.erase k).find? k = none := by
  simp [find?_erase]

theorem find?_modify (t : Table κ υ) (k k' : κ) (fresh : υ) (f : υ → υ) :
    (t.modify k fresh f).find? k' =
      if k = k' then some (f ((t.find? k).getD fresh)) else t.find? k' := by
  simp [modify, find?_insert]

@[simp] theorem contains_insert_self (t : Table κ υ) (k : κ) (v : υ) :
    (t.insert k v).contains k = true := by
  simp [contains]

@[simp] theorem contains_erase_self (t : Table κ υ) (k : κ) :
    (t.erase k).contains k = false := by
  simp [contains]

end Table

end Postroom
