import Postroom.Fault
import Postroom.Task

/-!
# Ledger

How every submitted batch stands: the results that are final, and, once the batch has ended, how. A
batch ends once; what comes later changes nothing.

* `Ledger.enter`: a new batch, and its ticket. `Ledger.settle`: results become final.
* `Ledger.resolve`: the batch ends. `Ledger.complete`: it ends with its settled results.
-/

namespace Postroom

/-- How a batch ended for its submitter. -/
abbrev Verdict := Except Fault BatchResult

/-- How one batch stands. -/
structure Account where
  batch : Batch
  /-- The results that are final, in the order in which they became so. -/
  settled : List RecipientResult := []
  /-- How the batch ended, once it has. -/
  verdict : Option Verdict := none

/-- The accounts of all batches, by ticket. -/
structure Ledger where
  accounts : List Account := []

namespace Ledger

/-- A new batch, with its ticket. -/
def enter (l : Ledger) (b : Batch) : Nat × Ledger :=
  (l.accounts.length, ⟨l.accounts ++ [{ batch := b }]⟩)

def account? (l : Ledger) (ticket : Nat) : Option Account := l.accounts[ticket]?

/-- The results of a batch that are final. -/
def settledOf (l : Ledger) (ticket : Nat) : List RecipientResult :=
  ((l.account? ticket).map (·.settled)).getD []

/-- How a batch ended, if it has. -/
def verdict? (l : Ledger) (ticket : Nat) : Option Verdict := (l.account? ticket).bind (·.verdict)

/-- Whether a batch has been entered and has not ended. -/
def isOpen (l : Ledger) (ticket : Nat) : Bool :=
  (l.account? ticket).any fun a => a.verdict.isNone

/-- Results of a batch become final. -/
def settle (l : Ledger) (ticket : Nat) (results : List RecipientResult) : Ledger :=
  ⟨l.accounts.modify ticket fun a => { a with settled := a.settled ++ results }⟩

/-- The batch ends with `v`, unless it has ended before. -/
def resolve (l : Ledger) (ticket : Nat) (v : Verdict) : Ledger :=
  ⟨l.accounts.modify ticket fun a => if a.verdict.isNone then { a with verdict := some v } else a⟩

/-- The result of a batch that ends with what is settled. -/
def resultOf (l : Ledger) (t : Task) : BatchResult :=
  ⟨t.batch.root, t.batch.domain, l.settledOf t.ticket⟩

/-- The batch of `t` ends with its settled results. -/
def complete (l : Ledger) (t : Task) : Ledger := l.resolve t.ticket (.ok (l.resultOf t))

/-! ### What each operation does to the accounts -/

theorem account?_settle (l : Ledger) (n m : Nat) (rs : List RecipientResult) :
    (l.settle n rs).account? m =
      (l.account? m).map fun a => if n = m then { a with settled := a.settled ++ rs } else a := by
  simp only [settle, account?, List.getElem?_modify]
  by_cases h : n = m <;> simp [h]

theorem account?_resolve (l : Ledger) (n m : Nat) (v : Verdict) :
    (l.resolve n v).account? m =
      (l.account? m).map fun a =>
        if n = m ∧ a.verdict.isNone then { a with verdict := some v } else a := by
  simp only [resolve, account?, List.getElem?_modify]
  by_cases h : n = m <;> simp [h]

theorem account?_enter (l : Ledger) (b : Batch) (n : Nat) :
    (l.enter b).2.account? n =
      if n = l.accounts.length then some { batch := b } else l.account? n := by
  simp only [enter, account?]
  by_cases h : n = l.accounts.length
  · simp [h]
  · by_cases hn : n < l.accounts.length
    · rw [List.getElem?_append_left hn, if_neg h]
    · rw [if_neg h, List.getElem?_eq_none (by simp; omega), List.getElem?_eq_none (by omega)]

@[simp] theorem account?_enter_self (l : Ledger) (b : Batch) :
    (l.enter b).2.account? (l.enter b).1 = some { batch := b } := by
  simp [enter, account?]

theorem settledOf_settle (l : Ledger) (n : Nat) (rs : List RecipientResult)
    (h : n < l.accounts.length) :
    (l.settle n rs).settledOf n = l.settledOf n ++ rs := by
  obtain ⟨a, ha⟩ : ∃ a, l.account? n = some a := ⟨_, List.getElem?_eq_getElem h⟩
  simp [settledOf, account?_settle, ha]

theorem settledOf_settle_of_ne (l : Ledger) {n m : Nat} (rs : List RecipientResult) (h : n ≠ m) :
    (l.settle n rs).settledOf m = l.settledOf m := by
  simp [settledOf, account?_settle, h]

@[simp] theorem settledOf_enter (l : Ledger) (b : Batch) (n : Nat) :
    (l.enter b).2.settledOf n = l.settledOf n := by
  simp only [settledOf, account?_enter]
  by_cases h : n = l.accounts.length <;> simp [h, account?]

@[simp] theorem verdict?_enter (l : Ledger) (b : Batch) (n : Nat) :
    (l.enter b).2.verdict? n = l.verdict? n := by
  simp only [verdict?, account?_enter]
  by_cases h : n = l.accounts.length <;> simp [h, account?]

@[simp] theorem settledOf_resolve (l : Ledger) (n m : Nat) (v : Verdict) :
    (l.resolve n v).settledOf m = l.settledOf m := by
  simp only [settledOf, account?_resolve]
  cases l.account? m with
  | none => rfl
  | some a =>
    simp only [Option.map_some, Option.getD_some]
    split <;> rfl

@[simp] theorem verdict?_settle (l : Ledger) (n m : Nat) (rs : List RecipientResult) :
    (l.settle n rs).verdict? m = l.verdict? m := by
  simp only [verdict?, account?_settle]
  cases l.account? m with
  | none => rfl
  | some a => by_cases h : n = m <;> simp [h]

/-- The first verdict stays. -/
theorem verdict?_resolve_of_some (l : Ledger) (n m : Nat) (v w : Verdict)
    (h : l.verdict? m = some w) : (l.resolve n v).verdict? m = some w := by
  simp only [verdict?, account?_resolve] at h ⊢
  cases ha : l.account? m with
  | none => simp [ha] at h
  | some a =>
    simp only [ha, Option.bind_some] at h
    simp [h]

theorem verdict?_resolve_of_isOpen (l : Ledger) (n : Nat) (v : Verdict) (h : l.isOpen n) :
    (l.resolve n v).verdict? n = some v := by
  simp only [verdict?, account?_resolve, isOpen] at h ⊢
  cases ha : l.account? n with
  | none => simp [ha] at h
  | some a =>
    simp only [ha, Option.any_some] at h
    simp only [Option.map_some, Option.bind_some]
    rw [if_pos ⟨trivial, h⟩]

/-- A ledger is its accounts. -/
theorem ext_account? {l l' : Ledger} (h : ∀ n, l.account? n = l'.account? n) : l = l' := by
  obtain ⟨accounts⟩ := l
  obtain ⟨accounts'⟩ := l'
  rw [Ledger.mk.injEq]
  exact List.ext_getElem? h

/-- A batch that is not open cannot end. -/
theorem resolve_of_not_isOpen (l : Ledger) (n : Nat) (v : Verdict) (h : l.isOpen n = false) :
    l.resolve n v = l := by
  refine ext_account? fun m => ?_
  rw [account?_resolve]
  cases ha : l.account? m with
  | none => rfl
  | some a =>
    have ended : ¬ (n = m ∧ a.verdict.isNone) := by
      rintro ⟨rfl, hn⟩
      rw [isOpen, ha, Option.any_some, hn] at h
      cases h
    rw [Option.map_some, if_neg ended]

/-! ### Which batches are open -/

theorem isOpen_enter (l : Ledger) (b : Batch) (n : Nat) :
    (l.enter b).2.isOpen n = (decide (n = l.accounts.length) || l.isOpen n) := by
  simp only [isOpen, account?_enter]
  by_cases h : n = l.accounts.length <;> simp [h]

theorem isOpen_settle (l : Ledger) (n m : Nat) (rs : List RecipientResult) :
    (l.settle n rs).isOpen m = l.isOpen m := by
  simp only [isOpen, account?_settle]
  cases l.account? m with
  | none => rfl
  | some a => by_cases h : n = m <;> simp [h]

theorem isOpen_resolve (l : Ledger) (n m : Nat) (v : Verdict) :
    (l.resolve n v).isOpen m = (l.isOpen m && decide (n ≠ m)) := by
  simp only [isOpen, account?_resolve]
  cases l.account? m with
  | none => rfl
  | some a => by_cases h : n = m <;> cases hv : a.verdict <;> simp [h, hv]

theorem isOpen_iff {l : Ledger} {n : Nat} :
    l.isOpen n ↔ n < l.accounts.length ∧ l.verdict? n = none := by
  simp only [isOpen, verdict?, account?]
  by_cases h : n < l.accounts.length
  · simp [h]
  · simp [h]

theorem lt_of_verdict? {l : Ledger} {n : Nat} {v : Verdict} (h : l.verdict? n = some v) :
    n < l.accounts.length := by
  refine Nat.lt_of_not_le fun outside => ?_
  rw [verdict?, account?, List.getElem?_eq_none outside] at h
  cases h

theorem verdict?_resolve (l : Ledger) (n m : Nat) (v : Verdict) :
    (l.resolve n v).verdict? m = if n = m ∧ l.isOpen m then some v else l.verdict? m := by
  rcases Option.eq_none_or_eq_some (l.account? m) with ha | ⟨a, ha⟩
  · simp [verdict?, account?_resolve, isOpen, ha]
  · by_cases h : n = m <;> cases hv : a.verdict <;>
      simp [verdict?, account?_resolve, isOpen, ha, h, hv]

theorem lt_of_isOpen {l : Ledger} {n : Nat} (h : l.isOpen n) : n < l.accounts.length :=
  (isOpen_iff.1 h).1

end Ledger

end Postroom
