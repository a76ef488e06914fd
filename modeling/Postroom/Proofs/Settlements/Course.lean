import Postroom.Proofs.Custody.Ownership
import Postroom.Proofs.Settlements.Steps

/-!
# Settlements along a history

Which settlements a happening begins, which it leaves, and which one it brings to its end, so that the results
of it become final. Results become final in no other way.

- `World.brings?`: the settlement that a happening brings. It waits for its sink, or is over at once.
- `World.settles?`: the settlement whose results a happening makes final.
- `World.settlements_after`: the settlements after a happening are those that it leaves and the one that it
  begins. `World.settledOf_after`: the final results afterwards are those before and those that it settles.
-/

namespace Postroom

namespace World

open Office

variable {w : World} {h : Happening}

/-- The settlement that a happening brings. -/
def brings? (w : World) : Happening → Option Settlement
  | .collect n => w.office.answered? n
  | .beginExpiry n => w.office.gaveUp? n
  | .submit s => w.office.turnedAway? s
  | _ => none

/-- The settlement that a happening begins, to wait for its sink. -/
def begins? (w : World) (h : Happening) : Option Settlement := (w.brings? h).filter (·.waits)

/-- The settlement whose results a happening makes final. -/
def settles? (w : World) : Happening → Option Settlement
  | .recordAccepted n => w.office.recorded? n
  | h => (w.brings? h).filter fun s => !s.waits

/-- The settlements that a happening leaves. -/
def pending (w : World) : Happening → List Settlement
  | .recordAccepted n => w.office.advanced n
  | .recordRefused n _ => w.office.settlements.filter (·.number ≠ n)
  | .abandon numbers => w.office.settlements.filter fun s => !(s.number ∈ numbers && Office.isBackground s)
  | _ => w.office.settlements

/-- The settlements after a happening are those that it leaves and the one that it begins. -/
theorem settlements_after (w : World) (h : Happening) :
    (w.after h).office.settlements = w.pending h ++ (w.begins? h).toList := by
  have still : ∀ o : Office, o.settlements = w.office.settlements →
      o.settlements = w.office.settlements ++ ([] : List Settlement) := by
    intro o same
    rw [same, List.append_nil]
  have kept : ∀ o : Office, o.frame = w.office.frame →
      o.settlements = w.office.settlements ++ ([] : List Settlement) := by
    intro o frame
    exact still o (congrArg (·.settlements) frame)
  have served : ∀ (bulk : BulkBudget) (n : Nat) (s : Ticking),
      (Ticking.serve bulk n s).office.settlements = s.office.settlements :=
    Ticking.serve_of_turn (P := fun o o' => o'.settlements = o.settlements) (fun _ => rfl)
      (fun _ _ _ first second => second.trans first) (fun _ _ => settlements_turn)
  cases h with
  | submit s =>
    rw [after, office_submit]
    exact settlements_submit w.office s
  | tick => exact still _ (served ..)
  | turns bulk n report bulkStarted excluded => exact still _ (served ..)
  | wake n => exact kept _ (frame_wake n)
  | sendEnded n report => exact still _ rfl
  | collect n => exact settlements_collect w.office n
  | beginExpiry n => exact settlements_beginExpiry w.office n
  | recordAccepted n => exact (settlements_recordAccepted w.office n).trans (List.append_nil _).symm
  | recordRefused n message =>
    exact (settlements_recordRefused w.office n message).trans (List.append_nil _).symm
  | register runner =>
    exact still _ (congrArg (·.settlements) (frame_withdraw
      (o := { w.office with registry := w.office.registry.register runner }) _))
  | abortRun t cause => exact still _ (congrArg (·.settlements) (frame_abortRun t cause))
  | failOutside place cause => exact kept _ (frame_useOutside place fun t => frame_fail t cause)
  | dropOutside place => exact kept _ (frame_useOutside place fun _ => rfl)
  | closeTimers => exact kept _ frame_closeTimers
  | emptyLanes => exact kept _ frame_emptyLanes
  | abandon numbers =>
    exact (congrArg (·.settlements) (frame_abandon w.office numbers)).trans (List.append_nil _).symm
  | beginTick | unregister | pass | shift | readDaily | readWindow | stopAccepting | closeWorkers | takeSends
    | takeWaiters | sessionFailed | draw =>
    exact still _ rfl

/-- A live task is of a batch in the ledger. -/
theorem inside_of_live (owned : w.custody.Owned) {x : Holding} (hx : x ∈ w.holdings) :
    x.task.ticket < w.office.ledger.accounts.length := by
  obtain ⟨s, hs, -⟩ := owned.batch x (by rwa [custody_live, Multiset.mem_coe])
  have length : w.entered.length = w.office.ledger.accounts.length := owned.entered
  exact length ▸ (List.getElem?_eq_some_iff.1 hs).1

theorem mem_holdings_attempt {a : Attempt} : .attempt a ∈ w.holdings ↔ a ∈ w.office.attempts := by
  simp [holdings, Office.holdings]

theorem mem_holdings_expiry {e : Expiry} : .expiry e ∈ w.holdings ↔ e ∈ w.office.expiries := by
  simp [holdings, Office.holdings]

theorem mem_holdings_settlement {s : Settlement} :
    .settlement s ∈ w.holdings ↔ s ∈ w.office.settlements := by
  simp [holdings, Office.holdings]

theorem mem_holdings_asleep {s : Sleeper} :
    .asleep s ∈ w.holdings ↔ s ∈ w.office.timers.sleepers := by
  simp [holdings, Office.holdings]

theorem mem_holdings_queued {l : Lane} {t : Task} :
    .queued l t ∈ w.holdings ↔ t ∈ (w.office.lanes.line l).tasks := by
  cases l <;> simp [holdings, Office.holdings, Lane.serviceOrder]

theorem mem_holdings_outside {t : Task} : .outside t ∈ w.holdings ↔ t ∈ w.outside := by
  simp [holdings, Office.holdings]

/-- The final results of a batch after a happening are those before and those that it settles. -/
theorem settledOf_after (owned : w.custody.Owned) (h : Happening) (n : Nat) :
    (w.after h).office.ledger.settledOf n =
      w.office.ledger.settledOf n ++ finalFor n (w.settles? h) := by
  have still : ∀ o : Office, o.booked = w.office.booked →
      o.booked n = w.office.booked n ++ finalFor n none := by
    intro o same
    rw [same]
    exact (List.append_nil _).symm
  cases h with
  | submit s =>
    rw [after, office_submit]
    exact booked_submit w.office s n
  | tick => exact still _ (booked_serve ..)
  | turns bulk k report bulkStarted excluded => exact still _ (booked_serve ..)
  | wake k => exact still _ (booked_wake k)
  | sendEnded k report =>
    exact still _ rfl
  | collect k =>
    exact booked_collect w.office k n fun a ha =>
      inside_of_live owned (x := .attempt a) (mem_holdings_attempt.2 ha)
  | beginExpiry k =>
    exact booked_beginExpiry w.office k n fun e he =>
      inside_of_live owned (x := .expiry e) (mem_holdings_expiry.2 he)
  | recordAccepted k =>
    exact booked_recordAccepted w.office k n fun s hs =>
      inside_of_live owned (x := .settlement s) (mem_holdings_settlement.2 hs)
  | recordRefused k message => exact still _ (booked_recordRefused k message)
  | register runner =>
    exact still _ (booked_withdraw
      (o := { w.office with registry := w.office.registry.register runner }) _)
  | abortRun t cause => exact still _ (booked_abortRun t cause)
  | failOutside place cause =>
    refine still _ ?_
    simp only [after, useOutside]
    split
    · exact booked_fail _ cause
    · rfl
  | dropOutside place =>
    refine still _ ?_
    simp only [after, useOutside]
    split
    · exact booked_drop _
    · rfl
  | closeTimers => exact still _ booked_closeTimers
  | emptyLanes => exact still _ booked_emptyLanes
  | abandon numbers => exact still _ (booked_abandon numbers)
  | beginTick | unregister | pass | shift | readDaily | readWindow | stopAccepting | closeWorkers | takeSends
    | takeWaiters | sessionFailed | draw =>
    exact still _ rfl

end World

end Postroom
