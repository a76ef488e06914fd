import Postroom.Proofs.Custody.Ownership
import Postroom.Proofs.Session.Classified
import Postroom.Proofs.Session.EachOnce

/-!
# The retry budget

Every live task carries the name, the lane and the recipients that go with the number of its retries, and has not
been retried more often than the settings allow. Where sends are sessions, a failure becomes final only where the
code is excluded from retries or no retry is left, or where the domain is not known.

- `Task.Proper`: a task fits the number of its retries.
- `Task.SentBySession`: the reports of sessions. `Task.Final`: a result that a task may come to.
- `Custody.Patient`: the invariant, kept by every change.
- `Custody.Leads.succeed`: what comes in the place of a batch's live task. `Custody.Leads.retries_le`: its retries never
  become fewer.
-/

namespace Postroom

/-- The name, the lane and the recipients of a task go with the number of its retries. -/
structure Task.Proper (t : Task) : Prop where
  named : t.id = if t.retries = 0 then t.batch.root else t.batch.root.retry t.retries
  lane : t.lane = Lane.of t.traffic t.retries
  counted : ∀ r ∈ t.recipients, r.retries = t.retries

theorem Task.Proper.first (n : Nat) (b : Batch) (addresses : List String) :
    (Task.first n b addresses).Proper where
  named := rfl
  lane := rfl
  counted := by
    intro r hr
    obtain ⟨a, -, rfl⟩ := List.mem_map.1 hr
    rfl

theorem Task.Proper.next {t : Task} (h : t.Proper) : t.next.Proper where
  named := rfl
  lane := rfl
  counted := by
    intro r hr
    obtain ⟨r', hr', rfl⟩ := List.mem_map.1 hr
    exact congrArg (· + 1) (h.counted r' hr')

/-- The outcome is that of a session for the recipients of the task, with some peer. -/
def Task.SentBySession (policy : RecipientPolicy) (t : Task) (outcome : Outcome) : Prop :=
  ∃ (σ : Type) (peer : Peer σ) (source : IpAddress) (p : σ), outcome =
    (Session.run peer policy ⟨t.domain, source, t.recipients, t.batch.message⟩ p).outcome

/-- The outcome speaks of recipients of the task, and classifies them by code. -/
def Task.ClassifiedBy (policy : RecipientPolicy) (t : Task) (outcome : Outcome) : Prop :=
  ∀ r ∈ outcome.recipients, r.recipient ∈ t.recipients ∧ r.Classified policy

theorem Task.SentBySession.classifiedBy {policy : RecipientPolicy} {t : Task} {outcome : Outcome}
    (sent : t.SentBySession policy outcome) : t.ClassifiedBy policy outcome := by
  obtain ⟨σ, peer, source, p, rfl⟩ := sent
  intro r hr
  have named := (Session.perm_run peer policy ⟨t.domain, source, t.recipients, t.batch.message⟩ p).mem_iff.1
    (List.mem_map_of_mem hr)
  exact ⟨named, Session.classified_run peer _ policy p r hr⟩

/-- A result with as many retries as its task. Where it is a failure, the domain is not known, the code is
excluded from retries, or no retry is left. -/
structure Task.Final (g : Config) (t : Task) (r : RecipientResult) : Prop where
  retries : r.retries = t.retries
  failed : r.status = .failed → t.domain.isUnroutable ∨ r.code ∈ g.recipients.excludedCodes ∨
    r.retries = g.retry.maxRetries

/-- What is known of a live task: the report and the results that it may come to. -/
def Holding.Patient (g : Config) : Holding → Prop
  | .attempt a => ∀ outcome, a.report = some (.ok outcome) → a.task.ClassifiedBy g.recipients outcome
  | .expiry e => e.task.retries = g.retry.maxRetries
  | .settlement s => (∀ r ∈ s.results, s.task.Final g r) ∧ ∀ r ∈ s.purpose.kept, r.retries = s.task.retries
  | _ => True

section Results

variable {g : Config} {t : Task}

/-- Without budget, all retries are spent. -/
theorem Backoff.eq_of_spent {p : Backoff} {n : Nat} (within : n ≤ p.maxRetries)
    (spent : p.hasBudget n = false) : n = p.maxRetries := by
  have full : ¬ n < p.maxRetries := of_decide_eq_false spent
  omega

/-- The failures of a task of which no retry is left. -/
theorem Task.final_failed (counted : ∀ r ∈ t.recipients, r.retries = t.retries)
    (given : t.domain.isUnroutable ∨ t.retries = g.retry.maxRetries) (code : Nat) (message : String) :
    ∀ r ∈ t.recipients.map (RecipientResult.failed · code message), t.Final g r := by
  intro r hr
  obtain ⟨recipient, listed, rfl⟩ := List.mem_map.1 hr
  have retries : recipient.retries = t.retries := counted recipient listed
  refine ⟨retries, fun _ => ?_⟩
  rcases given with unknown | spent
  · exact .inl unknown
  · exact .inr (.inr (retries.trans spent))

/-- The results of an answer. -/
theorem Task.final_terminal (proper : t.Proper) (within : t.retries ≤ g.retry.maxRetries) {outcome : Outcome}
    (classified : t.ClassifiedBy g.recipients outcome) :
    ∀ r ∈ outcome.terminal (g.retry.hasBudget t.retries), t.Final g r := by
  intro r hr
  obtain ⟨o, ho, rfl⟩ := List.mem_map.1 hr
  obtain ⟨listed, given_up⟩ := List.mem_filter.1 ho
  obtain ⟨named, sorted⟩ := classified o listed
  have retries : o.result.retries = t.retries := by
    rw [RecipientOutcome.result]
    split <;> exact proper.counted _ named
  refine ⟨retries, fun failed => ?_⟩
  by_cases delivered : o.disposition = .delivered
  · rw [RecipientOutcome.result, RecipientOutcome.isDelivered, if_pos (decide_eq_true delivered)] at failed
    cases failed
  · have code : o.result.code = o.code := by
      rw [RecipientOutcome.result]
      split <;> rfl
    have sorted := sorted.resolve_left delivered
    rw [Bool.not_eq_true', Outcome.isKept, Bool.and_eq_false_iff] at given_up
    by_cases excluded : o.code ∈ g.recipients.excludedCodes
    · exact .inr (.inl (code ▸ excluded))
    · -- the code is worth a retry, so none was left
      have worth : g.recipients.isRetryable o.code := by
        rw [RecipientPolicy.isRetryable, Bool.not_eq_true', ← Bool.not_eq_true, List.contains_iff_mem]
        exact excluded
      rw [if_pos worth] at sorted
      rcases given_up with spent | other
      · exact .inr (.inr (retries.trans (Backoff.eq_of_spent within spent)))
      · exact absurd sorted (of_decide_eq_false other)

end Results

section Moves

variable {g : Config} {n n' : Nat} {x y : Holding} {R : Task → Outcome → Prop}

theorem Move.proper (m : Move R g n x y n') (proper : x.task.Proper) : y.task.Proper := by
  cases m with
  | retry t budget => exact proper.next
  | queue t now => exact ⟨proper.named, proper.lane, proper.counted⟩
  | _ => exact proper

theorem Move.within (m : Move R g n x y n') (within : x.task.retries ≤ g.retry.maxRetries) :
    y.task.retries ≤ g.retry.maxRetries := by
  cases m with
  | retry t budget => exact of_decide_eq_true budget
  | _ => exact within

theorem Move.patient (m : Move (Task.SentBySession g.recipients) g n x y n') (proper : x.task.Proper)
    (within : x.task.retries ≤ g.retry.maxRetries) (patient : x.Patient g) : y.Patient g := by
  cases m with
  | take | queue | sleep | retry => trivial
  | start t p => exact nofun
  | defer t spent => exact Backoff.eq_of_spent within spent
  | reject t unknown code message =>
    exact ⟨Task.final_failed proper.counted (.inl unknown) code message, nofun⟩
  | report a r fit =>
    intro outcome reported
    exact (fit outcome (Option.some.inj reported)).classifiedBy
  | answer a outcome reported =>
    have classified := patient outcome reported
    refine ⟨Task.final_terminal proper within classified, fun r hr => ?_⟩
    obtain ⟨o, ho, rfl⟩ := List.mem_map.1 hr
    exact proper.counted _ (classified o (List.mem_filter.1 ho).1).1
  | giveUp e code message =>
    exact ⟨Task.final_failed proper.counted (.inr patient) code message, nofun⟩
  | record s r left next =>
    have same : s.written ++ [r] ++ left = s.results := by
      rw [Settlement.results, next, List.append_assoc, List.singleton_append]
    refine ⟨fun r' hr' => patient.1 r' ?_, patient.2⟩
    rw [← same]
    exact hr'

end Moves

namespace Custody

/-- With settings `g`, live tasks fit the number of their retries and keep to the budget, and so do the final
results. -/
structure Patient (g : Config) (c : Custody) : Prop where
  config : c.config = g
  proper : ∀ x ∈ c.live, x.task.Proper
  within : ∀ x ∈ c.live, x.task.retries ≤ g.retry.maxRetries
  patient : ∀ x ∈ c.live, x.Patient g
  settled : ∀ n s, c.entered[n]? = some s → ∀ r ∈ c.ledger.settledOf n,
    r.retries ≤ g.retry.maxRetries ∧ (r.status = .failed → s.domain.isUnroutable ∨
      r.code ∈ g.recipients.excludedCodes ∨ r.retries = g.retry.maxRetries)

namespace Patient

variable {g : Config} {c d : Custody}

/-- Nothing changes but that tasks go and batches end. -/
theorem of_sub (hc : Patient g c) (config : d.config = c.config) (live : ∀ x ∈ d.live, x ∈ c.live)
    (entered : d.entered = c.entered) (settled : ∀ n, d.ledger.settledOf n = c.ledger.settledOf n) :
    Patient g d where
  config := config.trans hc.config
  proper x hx := hc.proper x (live x hx)
  within x hx := hc.within x (live x hx)
  patient x hx := hc.patient x (live x hx)
  settled n s inside r hr := hc.settled n s (entered ▸ inside) r (settled n ▸ hr)

section Live

variable {e : List Submission} {l : Ledger} {n n' : Nat} {x y : Holding} {L : Multiset Holding}

/-- One live task comes in the place of another. -/
theorem replace (hc : Patient g ⟨g, e, l, n, x ::ₘ L⟩) (proper : y.task.Proper)
    (within : y.task.retries ≤ g.retry.maxRetries) (patient : y.Patient g) :
    Patient g ⟨g, e, l, n', y ::ₘ L⟩ := by
  refine ⟨rfl, ?_, ?_, ?_, hc.settled⟩
  · intro z hz
    rcases Multiset.mem_cons.1 hz with rfl | hz
    · exact proper
    · exact hc.proper z (Multiset.mem_cons_of_mem hz)
  · intro z hz
    rcases Multiset.mem_cons.1 hz with rfl | hz
    · exact within
    · exact hc.within z (Multiset.mem_cons_of_mem hz)
  · intro z hz
    rcases Multiset.mem_cons.1 hz with rfl | hz
    · exact patient
    · exact hc.patient z (Multiset.mem_cons_of_mem hz)

/-- The first task of a batch that is entered fits. -/
theorem enter (hc : Patient g ⟨g, e, l, n, L⟩) (length : e.length = l.accounts.length) (s : Submission) :
    Patient g ⟨g, e ++ [s], (l.enter s.batch).2, n, .outside (s.task (l.enter s.batch).1) ::ₘ L⟩ := by
  refine ⟨rfl, ?_, ?_, ?_, ?_⟩
  · intro z hz
    rcases Multiset.mem_cons.1 hz with rfl | hz
    · exact .first _ _ _
    · exact hc.proper z hz
  · intro z hz
    rcases Multiset.mem_cons.1 hz with rfl | hz
    · exact Nat.zero_le _
    · exact hc.within z hz
  · intro z hz
    rcases Multiset.mem_cons.1 hz with rfl | hz
    · trivial
    · exact hc.patient z hz
  · intro k u hu r hr
    rw [Ledger.settledOf_enter] at hr
    -- a batch with final results was entered before
    have inside : k < e.length := by
      by_contra outside
      rw [Ledger.settledOf, Ledger.account?, List.getElem?_eq_none (by omega)] at hr
      cases hr
    rw [List.getElem?_append_left inside] at hu
    exact hc.settled k u hu r hr

/-- The results of a settlement become final. -/
theorem settle {s : Settlement} (hc : Patient g ⟨g, e, l, n, .settlement s ::ₘ L⟩)
    (owned : Owned ⟨g, e, l, n, .settlement s ::ₘ L⟩) :
    Patient g ⟨g, e, l.settle s.task.ticket s.results, n, .settlement s ::ₘ L⟩ := by
  have hs : Holding.settlement s ∈ Holding.settlement s ::ₘ L := Multiset.mem_cons_self _ L
  refine ⟨rfl, hc.proper, hc.within, hc.patient, ?_⟩
  intro k u hu r hr
  by_cases same : s.task.ticket = k
  · subst same
    have inside : s.task.ticket < l.accounts.length := Ledger.lt_of_isOpen owned.of_live.1
    have grown : (l.settle s.task.ticket s.results).settledOf s.task.ticket =
        l.settledOf s.task.ticket ++ s.results := Ledger.settledOf_settle _ _ _ inside
    rw [grown] at hr
    rcases List.mem_append.1 hr with old | new
    · exact hc.settled _ u hu r old
    · obtain ⟨u', hu', batch⟩ := owned.batch _ hs
      obtain rfl : u' = u := Option.some.inj (hu'.symm.trans hu)
      have domain : s.task.domain = u'.domain := congrArg Batch.domain batch
      obtain ⟨retries, failed⟩ := (hc.patient _ hs).1 r new
      exact ⟨retries ▸ hc.within _ hs, domain ▸ failed⟩
  · rw [Ledger.settledOf_settle_of_ne _ _ same] at hr
    exact hc.settled k u hu r hr

end Live

theorem change (hc : Patient g c) (h : Change (Task.SentBySession g.recipients) c d) (owned : Owned c) :
    Patient g d := by
  cases h with
  | @move g' e l n n' x y L m =>
    obtain rfl : g' = g := hc.config
    have hx : x ∈ x ::ₘ L := Multiset.mem_cons_self x L
    exact hc.replace (m.proper (hc.proper x hx)) (m.within (hc.within x hx))
      (m.patient (hc.proper x hx) (hc.within x hx) (hc.patient x hx))
  | @enter g' e l n L s nonempty =>
    obtain rfl : g' = g := hc.config
    exact hc.enter owned.entered s
  | @settle g' e l n L s =>
    obtain rfl : g' = g := hc.config
    have hs : Holding.settlement s ∈ Holding.settlement s ::ₘ L := Multiset.mem_cons_self _ L
    have proper := hc.proper _ hs
    have within := hc.within _ hs
    -- what is left of the task is for the recipients that are kept
    refine (hc.settle owned).replace ⟨proper.named, proper.lane, ?_⟩ within trivial
    exact (hc.patient _ hs).2
  | complete t done =>
    refine hc.of_sub rfl (fun z hz => Multiset.mem_cons_of_mem hz) rfl fun k => ?_
    exact Ledger.settledOf_resolve ..
  | fail t cause =>
    refine hc.of_sub rfl (fun z hz => Multiset.mem_cons_of_mem hz) rfl fun k => ?_
    exact Ledger.settledOf_resolve ..

theorem leads (h : Leads (Task.SentBySession g.recipients) c d) (owned : Owned c) (hc : Patient g c) :
    Patient g d :=
  owned.keeps (fun _ _ step owned hc => hc.change step owned) h hc

end Patient

/-- The ledger never becomes shorter. -/
theorem Leads.length_le {R : Task → Outcome → Prop} {c d : Custody} (h : Leads R c d) :
    c.ledger.accounts.length ≤ d.ledger.accounts.length := by
  refine h.keeps (I := fun d => c.ledger.accounts.length ≤ d.ledger.accounts.length) ?_ (Nat.le_refl _)
  intro d d' change longer
  refine longer.trans ?_
  cases change with
  | move m => exact Nat.le_refl _
  | enter s nonempty =>
    rw [Ledger.enter, List.length_append]
    exact Nat.le_add_right _ _
  | settle s => rw [Ledger.settle, List.length_modify]
  | complete t done => rw [Ledger.complete, Ledger.resolve, List.length_modify]
  | fail t cause => rw [Ledger.resolve, List.length_modify]

section Succeed

variable {R : Task → Outcome → Prop} {c d : Custody} {P : Task → Prop}

/-- What holds of the live task of a batch, and of each task that can come in its place, holds of every task that
comes in its place. -/
theorem succeed_of_change {n : Nat} (stamp : ∀ t now, P t → P { t with enqueuedAt := now })
    (rest : ∀ t kept, P t → P { t with recipients := kept }) (next : ∀ t : Task, P t → P t.next) (step : Change R c d)
    (inside : n < c.ledger.accounts.length) (all : ∀ y ∈ c.live, y.task.ticket = n → P y.task) :
    ∀ y ∈ d.live, y.task.ticket = n → P y.task := by
  cases step with
  | @move g e l m m' z z' L move =>
    intro y hy ticket
    rcases Multiset.mem_cons.1 hy with rfl | hy
    · rw [move.ticket] at ticket
      have before := all z (Multiset.mem_cons_self z L) ticket
      cases move with
      | retry t budget => exact next t before
      | queue t now => exact stamp t now before
      | _ => exact before
    · exact all y (Multiset.mem_cons_of_mem hy) ticket
  | @enter g e l m L s nonempty =>
    intro y hy ticket
    rcases Multiset.mem_cons.1 hy with rfl | hy
    -- the new batch has another ticket
    · exact absurd ticket (Nat.ne_of_gt inside)
    · exact all y hy ticket
  | @settle g e l m L s =>
    intro y hy ticket
    rcases Multiset.mem_cons.1 hy with rfl | hy
    · exact rest s.task s.purpose.kept (all (.settlement s) (Multiset.mem_cons_self _ L) ticket)
    · exact all y (Multiset.mem_cons_of_mem hy) ticket
  | complete t done => exact fun y hy => all y (Multiset.mem_cons_of_mem hy)
  | fail t cause => exact fun y hy => all y (Multiset.mem_cons_of_mem hy)

theorem Leads.succeed (h : Leads R c d) (owned : Owned c) (stamp : ∀ t now, P t → P { t with enqueuedAt := now })
    (rest : ∀ t kept, P t → P { t with recipients := kept }) (next : ∀ t : Task, P t → P t.next) {x y : Holding}
    (hx : x ∈ c.live) (hy : y ∈ d.live) (same : y.task.ticket = x.task.ticket) (holds : P x.task) : P y.task := by
  have all : x.task.ticket < d.ledger.accounts.length ∧ ∀ y ∈ d.live, y.task.ticket = x.task.ticket → P y.task := by
    refine h.keeps (I := fun c => x.task.ticket < c.ledger.accounts.length ∧
      ∀ y ∈ c.live, y.task.ticket = x.task.ticket → P y.task) ?_ ⟨?_, ?_⟩
    · rintro c d step ⟨inside, all⟩
      exact ⟨inside.trans_le (Leads.one step).length_le, succeed_of_change stamp rest next step inside all⟩
    · obtain ⟨s, entered, -⟩ := owned.batch x hx
      rw [← owned.entered]
      exact (List.getElem?_eq_some_iff.1 entered).1
    · -- in the beginning, x is the only live task of its batch
      intro z hz ticket
      obtain ⟨g, e, l, n, live⟩ := c
      obtain ⟨L, rfl⟩ := Multiset.exists_cons_of_mem hx
      rcases Multiset.mem_cons.1 hz with rfl | hz
      · exact holds
      · exact absurd ticket (owned.of_live.2 z hz)
  exact all.2 y hy same

/-- The retries of a batch never become fewer. -/
theorem Leads.retries_le (h : Leads R c d) (owned : Owned c) {x y : Holding} (hx : x ∈ c.live) (hy : y ∈ d.live)
    (same : y.task.ticket = x.task.ticket) : x.task.retries ≤ y.task.retries :=
  h.succeed (P := fun t => x.task.retries ≤ t.retries) owned (fun _ _ least => least) (fun _ _ least => least)
    (fun _ least => Nat.le_succ_of_le least) hx hy same (Nat.le_refl _)

/-- The name of a batch's task changes with the number of its retries only. -/
theorem Leads.id_eq (h : Leads R c d) (owned : Owned c) {x y : Holding} (hx : x ∈ c.live) (hy : y ∈ d.live)
    (same : y.task.ticket = x.task.ticket) (retries : y.task.retries = x.task.retries) : y.task.id = x.task.id := by
  have named := h.succeed (P := fun t => x.task.retries < t.retries ∨ t.retries = x.task.retries ∧ t.id = x.task.id)
    owned (fun _ _ named => named) (fun _ _ named => named)
    (fun t named => .inl (Nat.lt_succ_of_le (named.elim Nat.le_of_lt fun same => same.1.ge)))
    hx hy same (.inr ⟨rfl, rfl⟩)
  exact (named.resolve_left (Nat.lt_irrefl _ <| retries ▸ ·)).2

end Succeed

end Custody

end Postroom
