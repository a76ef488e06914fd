import Postroom.Proofs.Retries.Budget
import Postroom.Proofs.Runs.UnderWay

/-!
# A batch never falls back

Each attempt at a batch, and each wait for resources that runs out, costs a retry: what comes after it is the end
of the batch or a task with more retries. So the level of a live task, its retries and one more while an attempt
at it is under way, never becomes less.

- `Office.MovesOn`: a batch has ended, or sleeps until its next retry. `Office.movesOn_failAttempt` and the like:
  the operations with which an attempt ends bring this about.
- `Holding.level`. `World.level_le_after`: no happening lowers the level of a batch.
-/

namespace Postroom

namespace Office

variable {o o' : Office} {t : Task}

/-- The batch of `t` has ended, or sleeps until a later retry. -/
def MovesOn (o : Office) (t : Task) : Prop :=
  (∃ v, o.ledger.verdict? t.ticket = some v) ∨
    ∃ s ∈ o.timers.sleepers, s.task.ticket = t.ticket ∧ t.retries < s.task.retries

theorem movesOn_conclude (v : Verdict) (unended : o.ledger.isOpen t.ticket) : (o.conclude t v).MovesOn t := by
  refine .inl ⟨v, ?_⟩
  rw [ledger_conclude]
  exact Ledger.verdict?_resolve_of_isOpen _ _ _ unended

theorem movesOn_drop (unended : o.ledger.isOpen t.ticket) : (o.drop t).MovesOn t :=
  .inl ⟨_, Ledger.verdict?_resolve_of_isOpen _ _ _ unended⟩

theorem movesOn_scheduleRetry (kept : List Recipient) (unended : o.ledger.isOpen t.ticket) :
    (o.scheduleRetry t kept).MovesOn t := by
  unfold scheduleRetry sleep
  dsimp only
  split
  · -- where the timers are closed, the batch ends
    refine .inl ⟨.error .shutdown, ?_⟩
    rw [fail, ledger_conclude]
    exact Ledger.verdict?_resolve_of_isOpen _ _ _ unended
  · exact .inr ⟨_, List.mem_append_right _ List.mem_cons_self, rfl, Nat.lt_succ_self t.retries⟩

theorem movesOn_attemptFinished (moves : o.MovesOn t) : (o.attemptFinished t).MovesOn t := by
  unfold attemptFinished
  split <;> exact moves

theorem movesOn_conclusionOfAttempt (kept : List Recipient) (unended : o.ledger.isOpen t.ticket) :
    (o.conclusionOfAttempt t kept).MovesOn t := by
  unfold conclusionOfAttempt
  split
  · exact movesOn_conclude _ unended
  · split
    · exact movesOn_conclude _ unended
    · exact movesOn_scheduleRetry kept unended

theorem movesOn_finishSettlement (kept : List Recipient) (results : List RecipientResult)
    (unended : o.ledger.isOpen t.ticket) : (o.finishSettlement t (.attempt kept) results).MovesOn t := by
  have still : (o.settle t results).ledger.isOpen t.ticket := by
    show (o.ledger.settle t.ticket results).isOpen t.ticket
    rw [Ledger.isOpen_settle]
    exact unended
  exact movesOn_attemptFinished (movesOn_conclusionOfAttempt kept still)

theorem movesOn_abortAndFail (cause : Fault) (unended : o.ledger.isOpen t.ticket) :
    (o.abortAndFail t cause).MovesOn t :=
  .inl ⟨_, verdict?_abortAndFail cause unended⟩

theorem movesOn_failAttempt (cause : Fault) (unended : o.ledger.isOpen t.ticket) :
    (o.failAttempt t cause).MovesOn t := by
  unfold failAttempt
  split
  · exact movesOn_abortAndFail cause unended
  · split
    · exact movesOn_conclude _ unended
    · split
      · exact movesOn_scheduleRetry t.recipients unended
      · exact movesOn_conclude _ unended

/-- A wait that runs out costs a retry. -/
theorem movesOn_shortage (unended : o.ledger.isOpen t.ticket) (short : o.shortage t = (.retried, o')) :
    o'.MovesOn t := by
  unfold shortage waitSince at short
  dsimp only at short
  split at short
  · cases short
  · split at short
    · cases short
      exact movesOn_scheduleRetry t.recipients unended
    · cases short

end Office

/-- The retries of a live task, and one more while an attempt at it is under way. -/
def Holding.level (x : Holding) : Nat := x.task.retries + if x.isRunning then 1 else 0

namespace World

open Custody Office

variable {w w' : World} {h : Happening} {n : Nat} {x y : Holding}

theorem mem_live : x ∈ w.custody.live ↔ x ∈ w.holdings := by
  rw [custody_live, Multiset.mem_coe]

/-- Where a batch moves on, its live task has a greater level than the one before. -/
theorem lt_level_of_movesOn {t : Task} (owned : w.custody.Owned) (moves : w.office.MovesOn t)
    (hy : y ∈ w.holdings) (same : y.task.ticket = t.ticket) : t.retries + 1 ≤ y.level := by
  rcases moves with ⟨v, ended⟩ | ⟨s, hs, ticket, more⟩
  · have unended := isOpen_of_live owned hy
    rw [same, Ledger.isOpen_iff, ended] at unended
    cases unended.2
  · obtain rfl := eq_of_ticket owned hy (mem_holdings_asleep.2 hs) (same.trans ticket.symm)
    exact more

/-- Where a chain of changes leaves what is under way so, no level becomes less. -/
theorem level_le_of_leads {R : Task → Outcome → Prop} (leads : Leads R w.custody w'.custody)
    (owned : w.custody.Owned) (stays : x.isRunning → ∃ z ∈ w'.holdings, z.isRunning ∧ z.task = x.task)
    (hx : x ∈ w.holdings) (hy : y ∈ w'.holdings) (same : y.task.ticket = x.task.ticket) :
    x.level ≤ y.level := by
  by_cases running : x.isRunning
  · -- the batch has one live task, so y is what x became
    obtain ⟨z, hz, running', task⟩ := stays running
    obtain rfl := eq_of_ticket (owned.leads leads) hy hz (same.trans (congrArg Task.ticket task).symm)
    rw [Holding.level, Holding.level, task, if_pos running, if_pos running']
  · have fewer := leads.retries_le owned (mem_live.2 hx) (mem_live.2 hy) same
    rw [Holding.level, Holding.level, if_neg running]
    omega

theorem number?_of_running (running : x.isRunning) : ∃ k, x.number? = some k := by
  cases x with
  | attempt a => exact ⟨_, rfl⟩
  | settlement s => exact ⟨_, rfl⟩
  | _ => cases running

/-- What is under way goes with its waiter. -/
theorem mem_tasksOf_of_running {numbers : List Nat} (hx : x ∈ w.holdings) (running : x.isRunning)
    (number : x.number? = some n) (listed : n ∈ numbers) : x.task ∈ w.office.tasksOf numbers := by
  unfold tasksOf
  cases x with
  | attempt a =>
    cases number
    refine List.mem_append_left _ (List.mem_append_left _ ?_)
    exact List.mem_map_of_mem (List.mem_filter.2 ⟨mem_holdings_attempt.1 hx, decide_eq_true listed⟩)
  | settlement s =>
    cases number
    have listed := decide_eq_true listed
    have settling := mem_holdings_settlement.1 hx
    have background : isBackground s := by
      obtain ⟨k, t, purpose, written, left⟩ := s
      cases purpose with
      | attempt kept => rfl
      | expiry => cases running
      | unroutable => cases running
    refine List.mem_append_right _ (List.mem_map_of_mem (List.mem_filter.2 ⟨settling, ?_⟩))
    rw [listed, background]
    rfl
  | _ => cases running

/-- When an attempt under way ends, its batch moves on. -/
theorem underWay_or_movesOn_after {t : Task} (regular : w.custody.Regular) (owned : w.custody.Owned)
    (underWay : w.UnderWay n t) : (w.after h).UnderWay n t ∨ (w.after h).office.MovesOn t := by
  obtain ⟨x, hx, running, number, task⟩ := id underWay
  have unended : w.office.ledger.isOpen t.ticket := task ▸ isOpen_of_live owned hx
  by_cases abandoned : h.abandons n
  · obtain ⟨numbers, rfl, listed⟩ := Happening.abandons_iff.1 abandoned
    exact .inr (.inl ⟨_, verdict?_abandon (task ▸ mem_tasksOf_of_running hx running number listed) unended⟩)
  · by_cases own : h.number? = some n
    · have concluded := concludes regular underWay own
      generalize w.after h = w' at concluded ⊢
      cases concluded with
      | still _ underWay' registry => exact .inl underWay'
      | failed o cause ledger registry =>
        exact .inr (movesOn_attemptFinished (movesOn_failAttempt cause (ledger ▸ unended)))
      | lost o a outcome ledger => exact .inr (movesOn_drop (ledger ▸ unended))
      | settled o kept results ledger registry =>
        exact .inr (movesOn_finishSettlement kept results (ledger ▸ unended))
      | refused o message ledger =>
        exact .inr (movesOn_attemptFinished (movesOn_abortAndFail _ (ledger ▸ unended)))
    · exact .inl (underWay_after underWay own (Bool.not_eq_true _ ▸ abandoned))

/-- No happening lowers the level of a batch. -/
theorem level_le_after (regular : w.custody.Regular) (owned : w.custody.Owned) (hx : x ∈ w.holdings)
    (hy : y ∈ (w.after h).holdings) (same : y.task.ticket = x.task.ticket) : x.level ≤ y.level := by
  have leads : Leads (fun _ _ => True) w.custody (w.after h).custody :=
    leads_after regular (fits_true w h)
  by_cases running : x.isRunning
  · obtain ⟨k, number⟩ := number?_of_running running
    rcases underWay_or_movesOn_after (h := h) regular owned ⟨x, hx, running, number, rfl⟩ with
      ⟨z, hz, running', -, task⟩ | moves
    · exact level_le_of_leads leads owned (fun _ => ⟨z, hz, running', task⟩) hx hy same
    · have more := lt_level_of_movesOn (owned.leads leads) moves hy same
      rw [Holding.level, if_pos running]
      exact more
  · exact level_le_of_leads leads owned (absurd · running) hx hy same

end World

end Postroom
