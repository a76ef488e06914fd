import Postroom.Proofs.Executions
import Postroom.Proofs.Runs.Coverage

/-!
# Attempts under way

An attempt is under way from its start until what follows from its report is over. Nothing but the taking of
its own report, the sink's answers for its own results and the letting go of all that runs ends it. What
becomes of its batch then depends on the record of its run.

- `World.UnderWay`: an attempt is under way. `World.underWay_after`: what happens to others leaves it so.
- `World.eq_of_number`, `World.eq_of_ticket`: what is found by its number, or by its batch, is found alone.
- `World.verdict?_after`: an end is for good.
- `World.Concludes`, `World.concludes`: what becomes of an attempt when something happens to it.
- `Ledger.resolveAll`: batches that end alike.
- `Office.EndedWithRun`: a batch has ended with the end of its run. `Office.endedWithRun_failAttempt` and the
  like: where that end is on record, the end of an attempt ends the batch so.
-/

namespace Postroom

/-- Where no value occurs twice, it is the value of one element. -/
theorem eq_of_nodup_filterMap {α β : Type} {f : α → Option β} {as : List α}
    (nodup : (as.filterMap f).Nodup) {a b : α} {v : β} (ha : a ∈ as) (hb : b ∈ as) (fa : f a = some v)
    (fb : f b = some v) : a = b := by
  induction as with
  | nil => cases ha
  | cons c as ih =>
    -- an element behind c with the value of c would make that value occur twice
    have alone : ∀ x ∈ as, f c = some v → f x = some v → False := by
      intro x hx fc fx
      rw [List.filterMap_cons_some fc] at nodup
      exact (List.nodup_cons.1 nodup).1 (List.mem_filterMap.2 ⟨x, hx, fx⟩)
    have rest : (as.filterMap f).Nodup := by
      cases fc : f c with
      | none => rwa [List.filterMap_cons_none fc] at nodup
      | some u =>
        rw [List.filterMap_cons_some fc] at nodup
        exact (List.nodup_cons.1 nodup).2
    rcases List.mem_cons.1 ha with here | there
    · rcases List.mem_cons.1 hb with here' | there'
      · exact here.trans here'.symm
      · exact (alone b there' (here ▸ fa) fb).elim
    · rcases List.mem_cons.1 hb with here' | there'
      · exact (alone a there (here' ▸ fb) fa).elim
      · exact ih rest there there'

/-- An ended batch stays as it ended. -/
theorem Custody.Leads.verdict? {R : Task → Outcome → Prop} {c d : Custody} (h : Custody.Leads R c d)
    {n : Nat} {v : Verdict} (ended : c.ledger.verdict? n = some v) : d.ledger.verdict? n = some v := by
  refine h.keeps (I := fun c => c.ledger.verdict? n = some v) (fun c d change ended => ?_) ended
  cases change with
  | move m => exact ended
  | enter s nonempty => exact (Ledger.verdict?_enter ..).trans ended
  | settle s => exact (Ledger.verdict?_settle ..).trans ended
  | complete t done => exact Ledger.verdict?_resolve_of_some _ _ _ _ _ ended
  | fail t cause => exact Ledger.verdict?_resolve_of_some _ _ _ _ _ ended

namespace World

open Custody

variable {w : World} {h : Happening} {n : Nat} {t : Task}

/-- What is found by its number is found alone. -/
theorem eq_of_number (regular : w.custody.Regular) {x y : Holding} (hx : x ∈ w.holdings)
    (hy : y ∈ w.holdings) (nx : x.number? = some n) (ny : y.number? = some n) : x = y := by
  have nodup := regular.nodup
  rw [numbers, custody_live, Multiset.filterMap_coe, Multiset.coe_nodup] at nodup
  exact eq_of_nodup_filterMap nodup hx hy nx ny

theorem eq_attempt_of_found (regular : w.custody.Regular) {x : Holding} {a : Attempt} (hx : x ∈ w.holdings)
    (number : x.number? = some n) (found : w.office.attempt? n = some a) : x = .attempt a := by
  refine eq_of_number regular hx (mem_holdings_attempt.2 (List.mem_of_find?_eq_some found)) number ?_
  exact congrArg some (Numbered.number_of_found found)

theorem eq_settlement_of_found (regular : w.custody.Regular) {x : Holding} {s : Settlement}
    (hx : x ∈ w.holdings) (number : x.number? = some n) (found : w.office.settlement? n = some s) :
    x = .settlement s := by
  refine eq_of_number regular hx (mem_holdings_settlement.2 (List.mem_of_find?_eq_some found)) number ?_
  exact congrArg some (Numbered.number_of_found found)

/-- A batch has one live task. -/
theorem eq_of_ticket (owned : w.custody.Owned) {x y : Holding} (hx : x ∈ w.holdings) (hy : y ∈ w.holdings)
    (same : x.task.ticket = y.task.ticket) : x = y := by
  have one := length_heldOf owned y.task.ticket
  have xs : x ∈ w.heldOf y.task.ticket := mem_heldOf.2 ⟨hx, same⟩
  have ys : y ∈ w.heldOf y.task.ticket := mem_heldOf.2 ⟨hy, rfl⟩
  have most : (w.heldOf y.task.ticket).length ≤ 1 := by
    rw [one]
    split <;> omega
  clear one
  generalize w.heldOf y.task.ticket = zs at xs ys most
  rcases zs with _ | ⟨z, _ | ⟨z', zs⟩⟩
  · cases xs
  · exact (List.mem_singleton.1 xs).trans (List.mem_singleton.1 ys).symm
  · simp only [List.length_cons] at most
    omega

/-- The batch of a live task has not ended. -/
theorem isOpen_of_live (owned : w.custody.Owned) {x : Holding} (hx : x ∈ w.holdings) :
    w.office.ledger.isOpen x.task.ticket := by
  by_contra closed
  have none := length_heldOf owned x.task.ticket
  rw [if_neg closed] at none
  have held : x ∈ w.heldOf x.task.ticket := mem_heldOf.2 ⟨hx, rfl⟩
  rw [List.length_eq_zero_iff.1 none] at held
  cases held

theorem heldOf_of_live (owned : w.custody.Owned) {x : Holding} (hx : x ∈ w.holdings) :
    w.heldOf x.task.ticket = [x] := by
  have one := length_heldOf owned x.task.ticket
  rw [if_pos (isOpen_of_live owned hx)] at one
  obtain ⟨y, hy⟩ := List.length_eq_one_iff.1 one
  have held : x ∈ w.heldOf x.task.ticket := mem_heldOf.2 ⟨hx, rfl⟩
  rw [hy] at held ⊢
  rw [List.mem_singleton.1 held]

theorem heldOf_of_ended (owned : w.custody.Owned) {v : Verdict}
    (ended : w.office.ledger.verdict? n = some v) : w.heldOf n = [] := by
  have closed : ¬ w.office.ledger.isOpen n := by
    intro unended
    rw [(Ledger.isOpen_iff.1 unended).2] at ended
    cases ended
  have none := length_heldOf owned n
  rw [if_neg closed] at none
  exact List.length_eq_zero_iff.1 none

theorem owned_after (regular : w.custody.Regular) (owned : w.custody.Owned) (h : Happening) :
    (w.after h).custody.Owned :=
  owned.leads (leads_after (R := fun _ _ => True) regular (fits_true w h))

/-- An end is for good. -/
theorem verdict?_after (regular : w.custody.Regular) (h : Happening) {v : Verdict}
    (ended : w.office.ledger.verdict? n = some v) : (w.after h).office.ledger.verdict? n = some v :=
  (leads_after (R := fun _ _ => True) regular (fits_true w h)).verdict? ended

theorem verdict?_run (regular : w.custody.Regular) {v : Verdict}
    (ended : w.office.ledger.verdict? n = some v) (hs : List Happening) :
    (w.run hs).office.ledger.verdict? n = some v :=
  (leads_run (R := fun _ _ => True) regular (along_of_forall fits_true w hs)).verdict? ended

/-- The attempt `n` at `t` is under way. -/
def UnderWay (w : World) (n : Nat) (t : Task) : Prop :=
  ∃ x ∈ w.holdings, x.isRunning ∧ x.number? = some n ∧ x.task = t

/-- A settlement is left alone unless its sink answers or it is let go of. -/
theorem settlement_after {s : Settlement} (hs : s ∈ w.office.settlements)
    (other : h.number? ≠ some s.number) (kept : h.abandons s.number = false) : s ∈ (w.after h).office.settlements := by
  rw [settlements_after]
  refine List.mem_append_left _ ?_
  cases h with
  | recordAccepted k =>
    have ne : s.number ≠ k := fun same => other (congrArg some same.symm)
    show s ∈ w.office.advanced k
    unfold Office.advanced
    split
    · exact List.mem_filter.2 ⟨hs, decide_eq_true ne⟩
    · exact List.mem_map.2 ⟨s, hs, if_neg ne⟩
    · exact hs
  | recordRefused k message =>
    have ne : s.number ≠ k := fun same => other (congrArg some same.symm)
    exact List.mem_filter.2 ⟨hs, decide_eq_true ne⟩
  | abandon numbers =>
    refine List.mem_filter.2 ⟨hs, ?_⟩
    rw [show decide (s.number ∈ numbers) = false from kept]
    rfl
  | _ => exact hs

/-- An attempt whose report is not taken goes on, perhaps with its report. -/
theorem attempt_after {a : Attempt} (ha : a ∈ w.office.attempts) (other : h.number? ≠ some a.number)
    (kept : h.abandons a.number = false) :
    ∃ b ∈ (w.after h).office.attempts, b.number = a.number ∧ b.task = a.task := by
  rw [attempts_after]
  have stays : a ∈ w.remaining h ++ w.started h → ∃ b ∈ w.remaining h ++ w.started h,
      b.number = a.number ∧ b.task = a.task := fun ha => ⟨a, ha, rfl, rfl⟩
  cases h with
  | sendEnded k report =>
    refine ⟨_, List.mem_append_left _ (List.mem_map_of_mem ha), ?_⟩
    split <;> exact ⟨rfl, rfl⟩
  | collect k =>
    have ne : a.number ≠ k := fun same => other (congrArg some same.symm)
    refine stays (List.mem_append_left _ ?_)
    show a ∈ if ((w.office.attempt? k).bind (·.report)).isSome then
      w.office.attempts.filter (·.number ≠ k) else w.office.attempts
    split
    · exact List.mem_filter.2 ⟨ha, decide_eq_true ne⟩
    · exact ha
  | abandon numbers =>
    exact stays (List.mem_append_left _ (List.mem_filter.2 ⟨ha, decide_eq_true (of_decide_eq_false kept)⟩))
  | _ => exact stays (List.mem_append_left _ ha)

/-- What happens to others leaves an attempt under way. -/
theorem underWay_after (underWay : w.UnderWay n t) (other : h.number? ≠ some n) (kept : h.abandons n = false) :
    (w.after h).UnderWay n t := by
  obtain ⟨x, hx, running, number, rfl⟩ := underWay
  cases x with
  | attempt a =>
    cases number
    obtain ⟨b, hb, same, task⟩ := attempt_after (mem_holdings_attempt.1 hx) other kept
    exact ⟨.attempt b, mem_holdings_attempt.2 hb, rfl, congrArg some same, task⟩
  | settlement s =>
    cases number
    have stays := settlement_after (mem_holdings_settlement.1 hx) other kept
    exact ⟨.settlement s, mem_holdings_settlement.2 stays, running, rfl, rfl⟩
  | _ => cases running

/-! ### The end of an attempt -/

open Office in
/-- What can become of the attempt `n` at `t` when its report is taken, or when its sink answers for one of its
results. Where it ends, `o` is the office that it has left, with the ledger as before. -/
inductive Concludes (w : World) (h : Happening) (n : Nat) (t : Task) : World → Prop where
  /-- It is still under way. -/
  | still (w' : World) (underWay : w'.UnderWay n t) (registry : w'.office.registry = w.noted h) :
      Concludes w h n t w'
  /-- Its send failed as a whole. -/
  | failed (o : Office) (cause : Fault) (ledger : o.ledger = w.office.ledger)
      (registry : o.registry.noteEnd (endedByFault t cause) = w.noted h) :
      Concludes w h n t { w with office := (o.failAttempt t cause).attemptFinished t }
  /-- What follows from its answer is lost. -/
  | lost (o : Office) (a : Attempt) (outcome : Outcome) (ledger : o.ledger = w.office.ledger)
      (collected : h = .collect n) (found : w.office.attempt? n = some a)
      (reported : a.report = some (.ok outcome)) (lost : w.office.loses a outcome) :
      Concludes w h n t { w with office := o.drop t }
  /-- All its results are recorded. -/
  | settled (o : Office) (kept : List Recipient) (results : List RecipientResult)
      (ledger : o.ledger = w.office.ledger) (registry : o.registry = w.noted h) :
      Concludes w h n t { w with office := o.finishSettlement t (.attempt kept) results }
  /-- Its sink has refused a result. -/
  | refused (o : Office) (message : String) (ledger : o.ledger = w.office.ledger) :
      Concludes w h n t
        { w with office := (o.abortAndFail t (.persistence message)).attemptFinished t }

section Concludes

open Office

variable {x : Holding}

theorem concludes_collect (regular : w.custody.Regular) (hx : x ∈ w.holdings) (running : x.isRunning)
    (number : x.number? = some n) :
    w.Concludes (.collect n) n x.task { w with office := w.office.collect n } := by
  have noted : w.noted (.collect n) =
    w.office.registry.noteEnd ((w.office.attempt? n).bind endedByReport) := rfl
  have collected := w.office.collects n
  generalize w.office.collect n = p at collected ⊢
  cases collected with
  | idle unreported =>
    refine .still w ⟨x, hx, running, number, rfl⟩ ?_
    rw [noted]
    cases found : w.office.attempt? n with
    | none => rfl
    | some a =>
      rw [found, Option.bind_some] at unreported
      rw [Option.bind_some, endedByReport, unreported]
      rfl
  | failed a cause found reported =>
    obtain rfl := eq_attempt_of_found regular hx number found
    obtain ⟨inFlight, metrics, rest⟩ := w.office.close_rest a
    refine .failed ((w.office.close a).releasePermit a.permit) cause ?_ ?_
    · rw [rest]
      rfl
    · rw [noted, found, Option.bind_some, endedByReport, reported, rest]
      rfl
  | lost a outcome found reported lost pool =>
    obtain rfl := eq_attempt_of_found regular hx number found
    obtain ⟨inFlight, metrics, rest⟩ := w.office.close_rest a
    refine .lost { w.office.close a with pool := pool } a outcome ?_ rfl found reported lost
    rw [rest]
  | settled a outcome found reported settles =>
    obtain rfl := eq_attempt_of_found regular hx number found
    -- neither the ledger nor the registry has changed when the results are brought
    obtain ⟨inFlight, metrics, rest⟩ := w.office.close_rest a
    have ledger : ((w.office.close a).answer a outcome).ledger = w.office.ledger := by
      show (w.office.close a).ledger = _
      rw [rest]
    have registry : ((w.office.close a).answer a outcome).registry = w.noted (.collect n) := by
      show (w.office.close a).registry = _
      rw [noted, found, Option.bind_some, endedByReport, reported, rest]
      rfl
    rw [beginSettlement_eq _ rfl]
    by_cases waits : (w.office.settlementOf a outcome).waits
    · rw [if_pos waits]
      refine .still _ ⟨.settlement (w.office.settlementOf a outcome), ?_, rfl, number, rfl⟩ registry
      exact mem_holdings_settlement.2 (List.mem_append_right _ List.mem_cons_self)
    · rw [if_neg waits]
      exact .settled _ _ _ ledger registry

theorem concludes_recordAccepted (regular : w.custody.Regular) (hx : x ∈ w.holdings)
    (running : x.isRunning) (number : x.number? = some n) :
    w.Concludes (.recordAccepted n) n x.task { w with office := w.office.recordAccepted n } := by
  have recorded := w.office.records n
  generalize w.office.recordAccepted n = p at recorded ⊢
  cases recorded with
  | idle none left => exact .still w ⟨x, hx, running, number, rfl⟩ rfl
  | more s r r' left found next =>
    obtain rfl := eq_settlement_of_found regular hx number found
    have listed : ({ s with written := s.written ++ [r], left := r' :: left } : Settlement) ∈
        w.office.advanced n := by
      rw [advanced, found, Option.map_some, next]
      refine List.mem_map.2 ⟨s, List.mem_of_find?_eq_some found, ?_⟩
      rw [if_pos (Numbered.number_of_found found)]
    -- what it records is still from an attempt
    have still : (Holding.settlement { s with written := s.written ++ [r], left := r' :: left }).isRunning := by
      obtain ⟨k, t, purpose, written, left⟩ := s
      cases purpose with
      | attempt kept => rfl
      | expiry => exact running
      | unroutable => exact running
    exact .still _ ⟨_, mem_holdings_settlement.2 listed, still, number, rfl⟩ rfl
  | last s r found next =>
    obtain rfl := eq_settlement_of_found regular hx number found
    obtain ⟨k, t, purpose, written, left⟩ := s
    cases purpose with
    | attempt kept => exact .settled (w.office.removeSettlement n) kept _ rfl rfl
    | expiry => cases running
    | unroutable => cases running

theorem concludes_recordRefused {message : String} (regular : w.custody.Regular) (hx : x ∈ w.holdings)
    (running : x.isRunning) (number : x.number? = some n) :
    w.Concludes (.recordRefused n message) n x.task
      { w with office := w.office.recordRefused n message } := by
  have noted : w.noted (.recordRefused n message) =
    w.office.registry.noteEnd ((w.office.settlement? n).bind (endedByRefusal · message)) := rfl
  unfold recordRefused
  cases found : w.office.settlement? n with
  | none =>
    refine .still w ⟨x, hx, running, number, rfl⟩ ?_
    rw [noted, found]
    rfl
  | some s =>
    obtain rfl := eq_settlement_of_found regular hx number found
    obtain ⟨k, t, purpose, written, left⟩ := s
    cases purpose with
    | attempt kept => exact .refused (w.office.removeSettlement n) message rfl
    | expiry => cases running
    | unroutable => cases running

/-- What becomes of an attempt under way when something happens to it. -/
theorem concludes (regular : w.custody.Regular) (underWay : w.UnderWay n t) (own : h.number? = some n) :
    w.Concludes h n t (w.after h) := by
  obtain ⟨x, hx, running, number, rfl⟩ := underWay
  cases h with
  | collect k =>
    cases own
    exact concludes_collect regular hx running number
  | recordAccepted k =>
    cases own
    exact concludes_recordAccepted regular hx running number
  | recordRefused k message =>
    cases own
    exact concludes_recordRefused regular hx running number
  | _ => cases own

end Concludes

end World

/-! ### Batches that end alike -/

namespace Ledger

variable {l : Ledger} {v w : Verdict} {n : Nat}

/-- The batches of some tasks end alike. -/
def resolveAll (l : Ledger) (ts : List Task) (v : Verdict) : Ledger :=
  ts.foldl (fun l t => l.resolve t.ticket v) l

theorem verdict?_resolveAll_of_some (ts : List Task) (ended : l.verdict? n = some w) :
    (l.resolveAll ts v).verdict? n = some w := by
  induction ts generalizing l with
  | nil => exact ended
  | cons t ts ih => exact ih (verdict?_resolve_of_some _ _ _ _ _ ended)

/-- A batch ends with the first of its tasks. -/
theorem verdict?_resolveAll {ts : List Task} {t : Task} (ht : t ∈ ts) (unended : l.isOpen t.ticket) :
    (l.resolveAll ts v).verdict? t.ticket = some v := by
  induction ts generalizing l with
  | nil => cases ht
  | cons u ts ih =>
    by_cases same : u.ticket = t.ticket
    · rw [← same] at unended ⊢
      exact verdict?_resolveAll_of_some ts (verdict?_resolve_of_isOpen _ _ _ unended)
    · have other : t ∈ ts := (List.mem_cons.1 ht).resolve_left fun he => same (congrArg Task.ticket he.symm)
      refine ih other ?_
      rw [isOpen_resolve, unended, Bool.true_and]
      exact decide_eq_true same

/-- A batch stays open where none of the tasks is of it, or ends like them. -/
theorem isOpen_or_ended_resolveAll (ts : List Task) (unended : l.isOpen n) :
    (l.resolveAll ts v).isOpen n ∨ (l.resolveAll ts v).verdict? n = some v := by
  induction ts generalizing l with
  | nil => exact .inl unended
  | cons t ts ih =>
    by_cases same : t.ticket = n
    · subst same
      exact .inr (verdict?_resolveAll_of_some ts (verdict?_resolve_of_isOpen _ _ _ unended))
    · refine ih ?_
      rw [isOpen_resolve, unended, Bool.true_and]
      exact decide_eq_true same

end Ledger

/-! ### The end of a run's batch -/

namespace Office

variable {o o' : Office} {t : Task} {u : Runner} {c : Fault}

theorem ledger_failAll (ts : List Task) (cause : Fault) :
    (o.failAll ts cause).ledger = o.ledger.resolveAll ts (.error cause) := by
  induction ts generalizing o with
  | nil => rfl
  | cons t ts ih =>
    refine (ih (o := o.fail t cause)).trans ?_
    rw [fail, ledger_conclude]
    rfl

theorem ledger_publishDepths (ls : List Lane) : (ls.foldl publishDepth o).ledger = o.ledger := by
  induction ls generalizing o with
  | nil => rfl
  | cons l ls ih => exact ih (o := o.publishDepth l)

theorem ledger_withdraw (p : Task → Bool) : (o.withdraw p).2.ledger = o.ledger := ledger_publishDepths _

theorem verdict?_fail (cause : Fault) (unended : o.ledger.isOpen t.ticket) :
    (o.fail t cause).ledger.verdict? t.ticket = some (.error cause) := by
  rw [fail, ledger_conclude]
  exact Ledger.verdict?_resolve_of_isOpen _ _ _ unended

theorem ownFault_of_run (cause : Fault) (run : t.runner = some u) :
    ownFault t cause = .abortedBy u.id cause := by
  rw [ownFault, Task.runnerId, show t.batch.runner = some u from run]
  rfl

/-- A task that brings its run down ends with that, as do the queued tasks of the run. -/
theorem verdict?_abortAndFail (cause : Fault) (unended : o.ledger.isOpen t.ticket) :
    (o.abortAndFail t cause).ledger.verdict? t.ticket = some (.error (ownFault t cause)) := by
  unfold abortAndFail abortRun
  split
  · exact verdict?_fail _ unended
  · next runner run =>
    split
    · exact verdict?_fail _ unended
    · next registry _ =>
      have withdrawn : (withdraw { o with registry := registry } (·.ownedBy runner)).2.ledger = o.ledger :=
        ledger_withdraw _
      rw [ownFault_of_run cause run, fail, ledger_conclude]
      show Ledger.verdict? (Ledger.resolve (failAll _ _ _).ledger _ _) _ = _
      rw [ledger_failAll, withdrawn]
      rcases Ledger.isOpen_or_ended_resolveAll (v := .error (.abortedBy runner.id cause)) _ unended with
        still | ended
      · exact Ledger.verdict?_resolve_of_isOpen _ _ _ still
      · exact Ledger.verdict?_resolve_of_some _ _ _ _ _ ended

/-- What the waiters that are let go of waited for ends cancelled. -/
theorem verdict?_abandon {numbers : List Nat} (ht : t ∈ o.tasksOf numbers) (unended : o.ledger.isOpen t.ticket) :
    (o.abandon numbers).ledger.verdict? t.ticket = some (.error .cancelled) := by
  unfold abandon
  rw [foldl_drop]
  exact Ledger.verdict?_resolveAll ht unended

/-- The batch of a ticket has ended with the end of its run. -/
def EndedWithRun (o : Office) (n : Nat) : Prop :=
  ∃ r c, o.ledger.verdict? n = some (.error (.aborted r c))

theorem abortedBy_eq (id : RunnerId) (c : Fault) : ∃ r d, Fault.abortedBy id c = .aborted r d := by
  cases c with
  | aborted inner d => exact ⟨inner, d, rfl⟩
  | _ => exact ⟨id, _, rfl⟩

theorem endedWithRun_fail {id : RunnerId} (unended : o.ledger.isOpen t.ticket) :
    (o.fail t (.abortedBy id c)).EndedWithRun t.ticket := by
  obtain ⟨r, d, aborted⟩ := abortedBy_eq id c
  refine ⟨r, d, ?_⟩
  rw [verdict?_fail _ unended, aborted]

theorem endedWithRun_abortAndFail (cause : Fault) (run : t.runner = some u)
    (unended : o.ledger.isOpen t.ticket) : (o.abortAndFail t cause).EndedWithRun t.ticket := by
  obtain ⟨r, d, aborted⟩ := abortedBy_eq u.id cause
  refine ⟨r, d, ?_⟩
  rw [verdict?_abortAndFail cause unended, ownFault_of_run cause run, aborted]

/-- The end of a run is the cause for its tasks. -/
theorem abortCause_of_record (run : t.runner = some u)
    (record : o.registry.aborted.find? u.id = some ⟨u.token, c⟩) :
    o.registry.abortCause t = some (.abortedBy u.id c) := by
  rw [Registry.abortCause, run, Option.bind_some, Registry.endOf, record]
  exact if_pos rfl

/-- A send that failed as a whole: where the end of the run is on record, the batch ends with it. -/
theorem endedWithRun_failAttempt (cause : Fault) (run : t.runner = some u)
    (record : (o.registry.noteEnd (endedByFault t cause)).aborted.find? u.id = some ⟨u.token, c⟩)
    (unended : o.ledger.isOpen t.ticket) : (o.failAttempt t cause).EndedWithRun t.ticket := by
  unfold failAttempt
  by_cases persistence : cause.isPersistence
  · rw [if_pos persistence]
    exact endedWithRun_abortAndFail cause run unended
  · rw [endedByFault, if_neg persistence] at record
    rw [if_neg persistence, abortCause_of_record run record]
    exact endedWithRun_fail unended

/-- The results of an attempt: where the end of the run is on record, the batch ends with it. -/
theorem endedWithRun_finishSettlement {kept : List Recipient} {results : List RecipientResult}
    (run : t.runner = some u) (record : o.registry.aborted.find? u.id = some ⟨u.token, c⟩)
    (unended : o.ledger.isOpen t.ticket) :
    (o.finishSettlement t (.attempt kept) results).EndedWithRun t.ticket := by
  have still : (o.settle t results).ledger.isOpen t.ticket := by
    show (o.ledger.settle t.ticket results).isOpen t.ticket
    rw [Ledger.isOpen_settle]
    exact unended
  have ended : ((o.settle t results).conclusionOfAttempt t kept).EndedWithRun t.ticket := by
    unfold conclusionOfAttempt
    rw [abortCause_of_record (o := o.settle t results) run record]
    exact endedWithRun_fail still
  obtain ⟨r, d, ended⟩ := ended
  refine ⟨r, d, Eq.trans ?_ ended⟩
  show (attemptFinished _ t).ledger.verdict? _ = _
  unfold attemptFinished
  split <;> rfl

theorem ledger_attemptFinished (t : Task) : (o.attemptFinished t).ledger = o.ledger := by
  unfold attemptFinished
  split <;> rfl

end Office

end Postroom
