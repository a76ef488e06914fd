import Postroom.Proofs.Custody.Change
import Postroom.Proofs.Numbered

/-!
# What the office does with a task

Each operation of an office as a chain of changes of its custody. A task that the office works on at the
moment is in its hands and counts as taken out, so that the operations compose: what one leaves in the hands
the next one finds there.

- `Office.custody_out`, `Office.custody_in`: what is taken out of a place is in the hands, and back.
- One lemma for each operation, named for it, of the form: with so much in the hands before and so much
  after, the custody before leads to the custody after.
-/

namespace Postroom

namespace Custody

variable {R : Task → Outcome → Prop}

/-- Whatever holds a number of tasks, all of them can be taken out. -/
theorem Leads.takeAll (g : Config) (e : List Submission) (l : Ledger) (n : Nat)
    (X L : Multiset Holding) :
    Leads R ⟨g, e, l, n, X + L⟩ ⟨g, e, l, n, X.map (fun x => .outside x.task) + L⟩ := by
  induction X using Multiset.induction generalizing L with
  | empty => exact .of_eq (by rw [Multiset.map_zero])
  | cons x X ih =>
    -- one is taken out, and goes to the rest while the others follow
    rw [Multiset.cons_add, Multiset.map_cons, Multiset.cons_add]
    refine (Leads.one (.move (.take x))).trans ?_
    rw [← Multiset.add_cons, ← Multiset.add_cons]
    exact ih _

end Custody

namespace Office

open Custody

variable {R : Task → Outcome → Prop} {o o' : Office} {e : List Submission} {H : Multiset Holding}

/-- What an office does not hold any more is in the hands. -/
theorem custody_out {x : Holding} (config : o'.config = o.config) (ledger : o'.ledger = o.ledger)
    (number : o'.nextNumber = o.nextNumber)
    (live : (o.holdings : Multiset Holding) = x ::ₘ ↑o'.holdings) :
    o.custody e H = o'.custody e (x ::ₘ H) := by
  rw [custody, custody, config, ledger, number, live, Multiset.add_cons, Multiset.cons_add]

/-- What goes from the hands into a place, the office holds. -/
theorem custody_in {x : Holding} (config : o'.config = o.config) (ledger : o'.ledger = o.ledger)
    (number : o'.nextNumber = o.nextNumber)
    (live : (o'.holdings : Multiset Holding) = x ::ₘ ↑o.holdings) :
    o.custody e (x ::ₘ H) = o'.custody e H :=
  (custody_out config.symm ledger.symm number.symm live).symm

/-- A move of what is in the hands. -/
theorem leads_move {x y : Holding} (m : Move R o.config o.nextNumber x y o.nextNumber) :
    Leads R (o.custody e (x ::ₘ H)) (o.custody e (y ::ₘ H)) := by
  rw [custody, custody, Multiset.cons_add, Multiset.cons_add]
  exact .one (.move m)

/-- A move that takes a number. -/
theorem leads_number {x y : Holding} (m : Move R o.config o.nextNumber x y (o.nextNumber + 1)) :
    Leads R (o.custody e (x ::ₘ H))
      (custody { o with nextNumber := o.nextNumber + 1 } e (y ::ₘ H)) := by
  rw [custody, custody, Multiset.cons_add, Multiset.cons_add]
  exact .one (.move m)

theorem leads_take (x : Holding) :
    Leads R (o.custody e (x ::ₘ H)) (o.custody e (.outside x.task ::ₘ H)) :=
  leads_move (.take x)

/-! ### How batches end -/

theorem ledger_conclude (o : Office) (t : Task) (v : Verdict) :
    (o.conclude t v).ledger = o.ledger.resolve t.ticket v := by
  simp only [conclude]
  split
  · rfl
  · next h => exact (Ledger.resolve_of_not_isOpen _ _ _ (by simpa using h)).symm

theorem custody_conclude (o : Office) (t : Task) (v : Verdict) :
    (o.conclude t v).custody e H =
      ⟨o.config, e, o.ledger.resolve t.ticket v, o.nextNumber, H + ↑o.holdings⟩ := by
  rw [custody, ledger_conclude]
  simp only [conclude]
  split <;> rfl

theorem leads_complete (t : Task) (done : t.recipients = []) :
    Leads R (o.custody e (.outside t ::ₘ H)) ((o.complete t).custody e H) := by
  rw [complete, custody_conclude, custody, Multiset.cons_add]
  exact .one (.complete t done)

theorem leads_fail (t : Task) (cause : Fault) :
    Leads R (o.custody e (.outside t ::ₘ H)) ((o.fail t cause).custody e H) := by
  rw [fail, custody_conclude, custody, Multiset.cons_add]
  exact .one (.fail t cause)

theorem leads_failAll (ts : List Task) (cause : Fault) :
    Leads R (o.custody e (↑(ts.map Holding.outside) + H)) ((o.failAll ts cause).custody e H) := by
  induction ts generalizing o with
  | nil => exact .of_eq (by rw [List.map_nil, Multiset.coe_nil, zero_add]; rfl)
  | cons t ts ih =>
    rw [List.map_cons, ← Multiset.cons_coe, Multiset.cons_add]
    exact (leads_fail t cause).trans ih

theorem leads_drop (t : Task) :
    Leads R (o.custody e (.outside t ::ₘ H)) ((o.drop t).custody e H) := by
  rw [custody, Multiset.cons_add]
  exact .one (.fail t .cancelled)

theorem leads_dropAll (ts : List Task) :
    Leads R (o.custody e (↑(ts.map Holding.outside) + H)) ((ts.foldl drop o).custody e H) := by
  induction ts generalizing o with
  | nil => exact .of_eq (by rw [List.map_nil, Multiset.coe_nil, zero_add]; rfl)
  | cons t ts ih =>
    rw [List.map_cons, ← Multiset.cons_coe, Multiset.cons_add]
    exact (leads_drop t).trans ih

/-! ### The lanes -/

theorem leads_offer (t : Task) :
    Leads R (o.custody e (.outside t ::ₘ H)) ((o.offer t).custody e H) := by
  refine (leads_move (.queue t o.now)).trans (.of_eq ?_)
  refine custody_in rfl rfl rfl ?_
  simp only [coe_holdings, offer, publishDepth, Lanes.held_offer, Multiset.cons_add]

theorem leads_poll? {l : Lane} {excluded : List Domain} {t : Task}
    (h : o.poll? l excluded = some (t, o')) :
    Leads R (o.custody e H) (o'.custody e (.outside t ::ₘ H)) := by
  obtain ⟨⟨u, lanes⟩, hp, he⟩ := Option.map_eq_some_iff.1 h
  cases he
  have out : o.custody e H =
      (publishDepth { o with lanes := lanes } l).custody e (.queued l u ::ₘ H) := by
    refine custody_out rfl rfl rfl ?_
    simp only [coe_holdings, publishDepth, Lanes.held_poll? _ hp, Multiset.cons_add]
  rw [out]
  exact leads_take (.queued l u)

/-- Showing depths leaves everything else as it is. -/
theorem custody_publishDepths (ls : List Lane) :
    (ls.foldl publishDepth o).custody e H = o.custody e H := by
  induction ls generalizing o with
  | nil => rfl
  | cons l ls ih => rw [List.foldl_cons, ih]; rfl

/-- Much is taken out at once. -/
theorem leads_takeAll {p : Office} (X : Multiset Holding) (config : p.config = o.config)
    (ledger : p.ledger = o.ledger) (number : p.nextNumber = o.nextNumber)
    (live : (o.holdings : Multiset Holding) = X + ↑p.holdings) :
    Leads R (o.custody e H) (p.custody e (X.map (fun x => .outside x.task) + H)) := by
  have before : o.custody e H =
      ⟨p.config, e, p.ledger, p.nextNumber, X + (H + ↑p.holdings)⟩ := by
    rw [custody, config, ledger, number, live, add_left_comm]
  rw [before, custody, add_assoc]
  exact Leads.takeAll ..

theorem leads_withdraw (p : Task → Bool) :
    Leads R (o.custody e H)
      ((o.withdraw p).2.custody e (↑((o.withdraw p).1.map Holding.outside) + H)) := by
  -- the withdrawn tasks, as they were held and as they are handed over
  have taken : (o.lanes.taken Holding.queued p).map (fun x => Holding.outside x.task) =
      ↑((o.lanes.withdraw p).1.map Holding.outside) := by
    simp [Lanes.taken, Lanes.withdraw, List.map_flatMap, Function.comp_def, Holding.task]
  simp only [withdraw]
  rw [custody_publishDepths, ← taken]
  refine leads_takeAll (p := { o with lanes := (o.lanes.withdraw p).2 }) _ rfl rfl rfl ?_
  rw [coe_holdings, coe_holdings, Lanes.held_withdraw Holding.queued o.lanes p]
  ac_rfl

/-! ### Runs -/

theorem leads_abortRun (t : Task) (cause : Fault) :
    Leads R (o.custody e H) ((o.abortRun t cause).2.custody e H) := by
  unfold abortRun
  split
  · exact .refl _
  · split
    · exact .refl _
    · next registry _ =>
      have out := leads_withdraw (R := R) (o := { o with registry := registry }) (e := e) (H := H)
      exact (out _).trans (leads_failAll _ _)

theorem leads_abortAndFail (t : Task) (cause : Fault) :
    Leads R (o.custody e (.outside t ::ₘ H)) ((o.abortAndFail t cause).custody e H) :=
  (leads_abortRun t cause).trans (leads_fail t _)

theorem leads_requeue (t : Task) :
    Leads R (o.custody e (.outside t ::ₘ H)) ((o.requeue t).custody e H) := by
  unfold requeue
  split
  · exact leads_offer t
  · exact leads_fail t _

/-! ### Sleep -/

theorem leads_sleep (delay : Nat) (t : Task) :
    Leads R (o.custody e (.outside t ::ₘ H)) ((o.sleep delay t).custody e H) := by
  unfold sleep
  split
  · exact leads_fail t _
  · refine (leads_number (.sleep t (o.clock.uptime + delay))).trans (.of_eq ?_)
    refine custody_in rfl rfl rfl ?_
    simp only [coe_holdings, Timers.add, List.map_append, List.map_cons, List.map_nil,
      ← Multiset.coe_add, Multiset.coe_singleton, ← Multiset.singleton_add]
    ac_rfl

theorem leads_scheduleRetry (t : Task) (kept : List Recipient)
    (budget : o.config.retry.hasBudget t.retries) :
    Leads R (o.custody e (.outside { t with recipients := kept } ::ₘ H))
      ((o.scheduleRetry t kept).custody e H) := by
  have next : Leads R (o.custody e (.outside { t with recipients := kept } ::ₘ H))
      (o.custody e (.outside ({ t with recipients := kept } : Task).next ::ₘ H)) :=
    leads_move (.retry _ budget)
  exact next.trans (leads_sleep (o := { o with waits := o.waits.clear t.id, metrics := _ }) _ _)

/-- What a shortage leaves in the hands: a task that may not be retried any more. -/
def Shortage.remains : Shortage → Multiset Holding
  | .expired t => {.outside t}
  | .requeued _ | .retried => 0

/-- A wait that ran out is given up only where no retry is left. -/
theorem spent_shortage {t u : Task} (h : o.shortage t = (.expired u, o')) :
    u = t ∧ o'.config = o.config ∧ o.config.retry.hasBudget t.retries = false := by
  rcases hw : o.waitSince t with ⟨start, w⟩
  have config : w.config = o.config := by
    cases hw
    rfl
  simp only [shortage, hw] at h
  split at h
  · cases h
  · split at h
    · cases h
    · next spent =>
      cases h
      rw [Bool.not_eq_true, config] at spent
      exact ⟨rfl, config, spent⟩

theorem leads_shortage {t : Task} {s : Shortage} (h : o.shortage t = (s, o')) :
    Leads R (o.custody e (.outside t ::ₘ H)) (o'.custody e (s.remains + H)) := by
  -- w differs from o in the waits, which are no part of the custody
  rcases hw : o.waitSince t with ⟨start, w⟩
  have same : ∀ H, o.custody e H = w.custody e H := by
    cases hw
    exact fun _ => rfl
  simp only [shortage, hw] at h
  rw [same]
  split at h
  · cases h
    rw [Shortage.remains, zero_add]
    exact leads_sleep (o := w.draw.2) _ t
  · split at h
    · next budget =>
      cases h
      rw [Shortage.remains, zero_add]
      exact leads_scheduleRetry (o := { w with waits := w.waits.clear t.id }) t t.recipients budget
    · cases h
      rw [Shortage.remains, Multiset.singleton_add]
      exact .refl _

/-! ### Attempts -/

theorem custody_countEnd (l : Lane) : (o.countEnd l).custody e H = o.custody e H := by
  unfold countEnd
  split <;> rfl

theorem custody_attemptStarted (t : Task) :
    (o.attemptStarted t).custody e H = o.custody e H := by
  unfold attemptStarted
  split <;> rfl

theorem custody_attemptFinished (t : Task) :
    (o.attemptFinished t).custody e H = o.custody e H := by
  unfold attemptFinished
  split <;> rfl

theorem custody_acquire? {t : Task} {p : Permit} (h : o.acquire? t = some (p, o')) :
    o'.custody e H = o.custody e H := by
  obtain ⟨_, _, h⟩ := Option.bind_eq_some_iff.1 h
  obtain ⟨_, _, h⟩ := Option.bind_eq_some_iff.1 h
  cases h
  rfl

theorem leads_execute (t : Task) :
    Leads R (o.custody e (.outside t ::ₘ H)) ((o.execute t).2.custody e H) := by
  rw [execute_eq]
  split
  · rcases hs : o.shortage t with ⟨s, o'⟩
    have short := leads_shortage (R := R) (e := e) (H := H) hs
    cases s with
    | requeued delay => simpa [Shortage.remains] using short
    | retried => simpa [Shortage.remains] using short
    | expired u =>
      rw [Shortage.remains, Multiset.singleton_add] at short
      obtain ⟨rfl, config, spent⟩ := spent_shortage hs
      -- it waited too long and may not be retried: an expiry takes it
      refine short.trans ((leads_number (.defer _ (config ▸ spent))).trans (.of_eq (custody_in rfl rfl rfl ?_)))
      simp only [coe_holdings, List.map_append, List.map_cons, List.map_nil,
        ← Multiset.coe_add, Multiset.coe_singleton, ← Multiset.singleton_add]
      ac_rfl
  · next permit o' h =>
    rw [← custody_acquire? h]
    dsimp only
    split
    · -- No worker takes it: what was taken for it goes back, and its batch ends.
      have same : (((o'.countStart t.lane).countEnd t.lane).releasePermit permit).custody e
          (.outside t ::ₘ H) = o'.custody e (.outside t ::ₘ H) := custody_countEnd t.lane
      rw [← same]
      exact leads_fail t _
    · rw [custody_attemptStarted]
      refine (leads_number (.start t permit)).trans (.of_eq (custody_in rfl rfl rfl ?_))
      simp only [coe_holdings, countStart, List.map_append, List.map_cons, List.map_nil,
        ← Multiset.coe_add, Multiset.coe_singleton, ← Multiset.singleton_add]
      ac_rfl

end Office

end Postroom
