import Postroom.Proofs.Custody.Conduct
import Postroom.Proofs.Custody.Regular

/-!
# What follows a send

The operations from the report of a worker to the end of a batch or its retry, as chains of changes of the
custody. What is kept for a retry is kept only where the retry is in the budget; a settlement that keeps
recipients is only ever begun so, and it is assumed here of the settlement at hand.

- `Office.leads_finishSettlement`, `Office.leads_beginSettlement`: from a settlement in the hands to the
  end of it.
- `Office.leads_collect`, `Office.leads_recordAccepted` and the like: what is found by its number. They need
  that no number occurs twice.
-/

namespace Postroom

namespace Office

open Custody

variable {R : Task → Outcome → Prop} {o o' : Office} {e : List Submission} {H : Multiset Holding}

/-! ### Settlements -/

theorem leads_settle (s : Settlement) :
    Leads R (o.custody e (.settlement s ::ₘ H))
      ((o.settle s.task s.results).custody e (.outside s.rest ::ₘ H)) := by
  rw [custody, custody, Multiset.cons_add, Multiset.cons_add]
  exact .one (.settle s)

/-- What is left after an attempt is retried, if anything is left and the run was not ended. -/
theorem leads_conclusionOfAttempt (t : Task) (kept : List Recipient)
    (budget : kept ≠ [] → o.config.retry.hasBudget t.retries) :
    Leads R (o.custody e (.outside { t with recipients := kept } ::ₘ H))
      ((o.conclusionOfAttempt t kept).custody e H) := by
  unfold conclusionOfAttempt
  split
  · exact leads_fail { t with recipients := kept } _
  · cases kept with
    | nil => exact leads_complete { t with recipients := [] } rfl
    | cons r kept => exact leads_scheduleRetry t _ (budget (List.cons_ne_nil r kept))

theorem leads_finishSettlement (s : Settlement) (afford : s.Affordable o.config) :
    Leads R (o.custody e (.settlement s ::ₘ H))
      ((o.finishSettlement s.task s.purpose s.results).custody e H) := by
  obtain ⟨n, t, purpose, written, left⟩ := s
  cases purpose with
  | attempt kept =>
    refine (leads_settle _).trans ?_
    simp only [finishSettlement, custody_attemptFinished]
    exact leads_conclusionOfAttempt t kept afford
  | expiry =>
    -- the failures are counted first, which the custody does not see
    let s : Settlement := ⟨n, t, .expiry, written, left⟩
    let count (m : Metrics) (r : RecipientResult) := m.recipientFailed t.domain.name r.code
    have counted := leads_settle (R := R)
      (o := { o with metrics := s.results.foldl count o.metrics }) (e := e) (H := H) s
    exact counted.trans (leads_complete { t with recipients := [] } rfl)
  | unroutable =>
    exact (leads_settle _).trans (leads_complete { t with recipients := [] } rfl)

/-- A settlement in the hands is over at once, or waits for its sink. -/
theorem leads_beginSettlement (n : Nat) (t : Task) (purpose : Purpose) (results : List RecipientResult)
    (afford : Settlement.Affordable o.config ⟨n, t, purpose, [], results⟩) :
    Leads R (o.custody e (.settlement ⟨n, t, purpose, [], results⟩ ::ₘ H))
      ((o.beginSettlement n t purpose results).custody e H) := by
  unfold beginSettlement
  split
  · exact leads_finishSettlement ⟨n, t, purpose, [], results⟩ afford
  · refine .of_eq (custody_in rfl rfl rfl ?_)
    simp only [coe_holdings, List.map_append, List.map_cons, List.map_nil,
      ← Multiset.coe_add, Multiset.coe_singleton, ← Multiset.singleton_add]
    ac_rfl

/-- The settlement that is found is taken out of its list. -/
theorem custody_removeSettlement {n : Nat} {s : Settlement}
    (nodup : (o.settlements.map (·.number)).Nodup) (found : o.settlement? n = some s) :
    o.custody e H = (o.removeSettlement n).custody e (.settlement s ::ₘ H) := by
  have perm := (Numbered.perm_remove nodup found).map Holding.settlement
  refine custody_out rfl rfl rfl ?_
  simp only [coe_holdings, removeSettlement, Multiset.coe_eq_coe.2 perm, List.map_cons,
    ← Multiset.cons_coe, Multiset.add_cons]

/-- What takes the place of the settlement that is found goes back into its list. -/
theorem custody_replaceSettlement {n : Nat} {s : Settlement} (f : Settlement → Settlement)
    (nodup : (o.settlements.map (·.number)).Nodup) (found : o.settlement? n = some s) :
    (o.removeSettlement n).custody e (.settlement (f s) ::ₘ H) =
      custody { o with settlements := o.settlements.map fun s => if s.number = n then f s else s }
        e H := by
  have perm := (Numbered.perm_replace f nodup found).map Holding.settlement
  refine custody_in rfl rfl rfl ?_
  simp only [coe_holdings, removeSettlement, Multiset.coe_eq_coe.2 perm, List.map_cons,
    ← Multiset.cons_coe, Multiset.add_cons]

theorem leads_recordAccepted (n : Nat) (nodup : (o.settlements.map (·.number)).Nodup)
    (afford : ∀ s ∈ o.settlements, s.Affordable o.config) :
    Leads R (o.custody e H) ((o.recordAccepted n).custody e H) := by
  unfold recordAccepted
  split
  · exact .refl _
  · next s found =>
    split
    · exact .refl _
    · next r hl =>
      rw [custody_removeSettlement nodup found]
      -- the last result: it is recorded, and the settlement is over
      have kept : Leads R ((o.removeSettlement n).custody e (.settlement s ::ₘ H))
          ((o.removeSettlement n).custody e
            (.settlement { s with written := s.written ++ [r], left := [] } ::ₘ H)) :=
        leads_move (.record s r [] hl)
      have done := leads_finishSettlement (R := R) (o := o.removeSettlement n) (e := e) (H := H)
        { s with written := s.written ++ [r], left := [] }
        (afford s (List.mem_of_find?_eq_some found))
      rw [Settlement.results, List.append_nil] at done
      exact kept.trans done
    · next r left hne hl =>
      rw [custody_removeSettlement nodup found]
      -- more results are left: the settlement goes back into the list
      refine (leads_move (.record s r left hl)).trans (.of_eq ?_)
      exact custody_replaceSettlement
        (fun s => { s with written := s.written ++ [r], left := left }) nodup found

theorem leads_recordRefused (n : Nat) (message : String)
    (nodup : (o.settlements.map (·.number)).Nodup) :
    Leads R (o.custody e H) ((o.recordRefused n message).custody e H) := by
  unfold recordRefused
  split
  · exact .refl _
  · next s found =>
    rw [custody_removeSettlement nodup found]
    refine (leads_take _).trans ((leads_abortAndFail s.task (.persistence message)).trans (.of_eq ?_))
    dsimp only
    split
    · rw [custody_attemptFinished]
    · rfl

/-! ### Attempts -/

/-- The attempt that is found is taken out of its list. -/
theorem custody_removeAttempt {n : Nat} {a : Attempt}
    (nodup : (o.attempts.map (·.number)).Nodup) (found : o.attempt? n = some a) :
    o.custody e H =
      custody { o with attempts := o.attempts.filter (·.number ≠ n) } e (.attempt a ::ₘ H) := by
  have perm := (Numbered.perm_remove nodup found).map Holding.attempt
  refine custody_out rfl rfl rfl ?_
  simp only [coe_holdings, Multiset.coe_eq_coe.2 perm, List.map_cons, ← Multiset.cons_coe,
    Multiset.add_cons, Multiset.cons_add]

/-- What takes the place of the attempt that is found goes back into its list. -/
theorem custody_replaceAttempt {n : Nat} {a : Attempt} (f : Attempt → Attempt)
    (nodup : (o.attempts.map (·.number)).Nodup) (found : o.attempt? n = some a) :
    custody { o with attempts := o.attempts.filter (·.number ≠ n) } e (.attempt (f a) ::ₘ H) =
      custody { o with attempts := o.attempts.map fun a => if a.number = n then f a else a } e H := by
  have perm := (Numbered.perm_replace f nodup found).map Holding.attempt
  refine custody_in rfl rfl rfl ?_
  simp only [coe_holdings, Multiset.coe_eq_coe.2 perm, List.map_cons, ← Multiset.cons_coe,
    Multiset.add_cons, Multiset.cons_add]

/-- A report reaches the attempt that it is about. -/
theorem leads_sendEnded (n : Nat) (r : Report) (nodup : (o.attempts.map (·.number)).Nodup)
    (fit : ∀ a ∈ o.attempts, a.number = n → ∀ outcome, r = .ok outcome → R a.task outcome) :
    Leads R (o.custody e H) ((o.sendEnded n r).custody e H) := by
  by_cases awaited : ∃ a ∈ o.attempts, a.number = n ∧ a.report.isNone
  · obtain ⟨a, ha, rfl, unreported⟩ := awaited
    have found := Numbered.find?_of_mem nodup ha
    rw [custody_removeAttempt nodup found]
    refine (leads_move (.report a r (fit a ha rfl))).trans (.of_eq ?_)
    refine (custody_replaceAttempt (fun a => { a with report := some r }) nodup found).trans ?_
    rw [← Numbered.map_eq_of_mem _ (·.report.isNone) nodup ha unreported]
    rfl
  · have same : (o.sendEnded n r).attempts = o.attempts :=
      Numbered.map_eq_self_of_forall _ fun a ha same unreported => awaited ⟨a, ha, same, unreported⟩
    exact .of_eq (congrArg (fun as => custody { o with attempts := as } e H) same.symm)

theorem leads_failAttempt (t : Task) (cause : Fault) :
    Leads R (o.custody e (.outside t ::ₘ H)) ((o.failAttempt t cause).custody e H) := by
  unfold failAttempt
  split
  · exact leads_abortAndFail t cause
  · split
    · exact leads_fail t _
    · split
      · next again =>
        rw [Bool.and_eq_true] at again
        exact leads_scheduleRetry t t.recipients again.2
      · exact leads_fail t _

theorem leads_settleOutcome (a : Attempt) (outcome : Outcome) (reported : a.report = some (.ok outcome)) :
    Leads R (o.custody e (.attempt a ::ₘ H)) ((o.settleOutcome a outcome).custody e H) := by
  unfold settleOutcome
  rcases o.pool.record o.now a.permit.lease outcome.statusCode outcome.anySuccess with ⟨cooldown, pool⟩
  have settled : Leads R (o.custody e (.attempt a ::ₘ H))
      (((({ o with pool := pool } : Office).releasePermit a.permit).countOutcome a.task
        outcome).beginSettlement a.number a.task
          (.attempt (outcome.kept (o.config.retry.hasBudget a.task.retries)))
          (outcome.terminal (o.config.retry.hasBudget a.task.retries)) |>.custody e H) := by
    refine (leads_move (.answer a outcome reported)).trans ?_
    exact leads_beginSettlement
      (o := (({ o with pool := pool } : Office).releasePermit a.permit).countOutcome a.task outcome)
      _ _ _ _ Outcome.budget_of_kept
  cases cooldown with
  | unrepresentable =>
    -- no end of the cooldown can be told: what follows the send is lost
    exact (leads_take _).trans (leads_drop (o := { o with pool := pool }) a.task)
  | none => exact settled
  | started => exact settled

theorem leads_collect (n : Nat) (nodup : (o.attempts.map (·.number)).Nodup) :
    Leads R (o.custody e H) ((o.collect n).custody e H) := by
  unfold collect
  split
  · exact .refl _
  · next a found =>
    split
    · exact .refl _
    · next report reported =>
      rw [custody_removeAttempt nodup found, ← custody_countEnd a.task.lane]
      dsimp only
      split
      · next cause =>
        rw [custody_attemptFinished]
        exact (leads_take _).trans (leads_failAttempt (o := (countEnd _ _).releasePermit a.permit) _ _)
      · next outcome => exact leads_settleOutcome a outcome reported

/-! ### Waits that ran out, and giving up -/

theorem leads_beginExpiry (n : Nat) (nodup : (o.expiries.map (·.number)).Nodup) :
    Leads R (o.custody e H) ((o.beginExpiry n).custody e H) := by
  unfold beginExpiry
  split
  · exact .refl _
  · next x found =>
    have perm := (Numbered.perm_remove nodup found).map Holding.expiry
    have numbered : x.number = n := Numbered.number_of_found found
    have out : o.custody e H =
        custody { o with expiries := o.expiries.filter (·.number ≠ n) } e (.expiry x ::ₘ H) := by
      refine custody_out rfl rfl rfl ?_
      simp only [coe_holdings, Multiset.coe_eq_coe.2 perm, List.map_cons, ← Multiset.cons_coe,
        Multiset.add_cons, Multiset.cons_add]
    rw [out, ← numbered]
    refine (leads_move
      (.giveUp x o.config.wait.timeoutCode (expiryMessage o.config.wait))).trans ?_
    exact leads_beginSettlement (o := { o with expiries := _ }) _ _ _ _ (absurd rfl)

end Office

end Postroom
