import Postroom.Proofs.Runs.Cascade
import Postroom.Proofs.Settlements.Sinks
import Postroom.Proofs.Waits.Expiry

/-!
# What a submission does

A submission that is refused, or that has no recipients, leaves the office as it was. One for a domain that is known
puts one task into one line, and only shows that besides. One for a domain that is not known puts nothing there: its
recipients have failed as soon as its sink has kept that of each of them, and until then, while the submitter is kept
waiting, the office goes on. If the sink refuses one of these results, the run of the batch is ended first and then
the batch, and this is the only way to a fault.

- `Lanes.Appended`: a task comes in behind the others of its domain, and nothing else changes.
- `Office.submit_of_error`, `Office.submit_of_nil`, `Office.submit_queued`, `Office.submit_unroutable`: the four ends of
  a submission.
- `World.RefusedAlong`: the sink of a batch refuses a result along a history.
- `World.Resolution`: how far a submission for an unknown domain has come; kept by `World.resolution_run`, and what it
  can have come to by `World.Resolution.ends`.
- `World.Submits`, `World.submits_run`: what submissions do after any history.
-/

namespace Postroom

namespace Lanes

/-- A task has come in behind the others of its domain, in the line of its lane, and a domain without others behind
all domains. Nothing else has changed. -/
structure Appended (q : Lanes) (t : Task) (q' : Lanes) : Prop where
  others : ∀ l, l ≠ t.lane → q'.line l = q.line l
  queues : ∀ d, Line.queueOf (q'.line t.lane).stands d =
    Line.queueOf (q.line t.lane).stands d ++ if t.domain = d then [t] else []
  ring : (q'.line t.lane).ring = (q.line t.lane).ring ++
    if (Line.queueOf (q.line t.lane).stands t.domain).isEmpty then [t.domain] else []
  size : q'.size t.lane = q.size t.lane + 1

theorem appended_offer (q : Lanes) (t : Task) : q.Appended t (q.offer t) := by
  have self : (q.offer t).line t.lane = (q.line t.lane).push t := by
    rw [offer, PerLane.modify, line_set, if_pos rfl]
    rfl
  refine ⟨fun l other => ?_, fun d => ?_, ?_, ?_⟩
  · rw [offer, PerLane.modify, line_set, if_neg (Ne.symm other)]
  · rw [self]
    exact Line.queueOf_pushInto ..
  · rw [self, Line.push]
    dsimp only
    split
    · rfl
    · exact (List.append_nil _).symm
  · rw [size, self]
    rfl

end Lanes

/-- A batch that has just been entered has no final results. -/
theorem Ledger.settledOf_entered (l : Ledger) (b : Batch) : (l.enter b).2.settledOf l.accounts.length = [] := by
  rw [settledOf_enter, settledOf, account?, List.getElem?_eq_none (Nat.le_refl _)]
  rfl

namespace Office

variable {o : Office} {s : Submission}

/-- A submission is refused where no more are taken, or it is malformed. -/
theorem submit_error_iff : (∃ cause, (o.submit s).1 = .error cause) ↔ o.accepting = false ∨ s.defect?.isSome := by
  unfold submit
  by_cases accepting : o.accepting
  · rw [if_neg (by simp [accepting])]
    rcases s.defect? with - | refusal
    · dsimp only
      split
      · simp [accepting]
      · split <;> simp [accepting]
    · simp
  · rw [if_pos (by simp [accepting])]
    simp [accepting]

/-- A refusal leaves no trace. -/
theorem submit_of_error {cause : Fault} (h : (o.submit s).1 = .error cause) : o.submit s = (.error cause, o) := by
  rcases o.submit_cases s with ⟨answer, same, -⟩ | ⟨-, a, -, same⟩
  · rw [same] at h ⊢
    exact congrArg (·, o) h
  · rw [same] at h
    cases h

theorem lanes_beginSettlement (k : Nat) (t : Task) (rs : List RecipientResult) :
    (o.beginSettlement k t .unroutable rs).lanes = o.lanes := by
  unfold beginSettlement
  split
  · show ((o.settle t rs).conclude t _).lanes = o.lanes
    unfold conclude
    dsimp only
    split <;> rfl
  · rfl

/-- A submission is entered with the next ticket. -/
theorem enter_eq (o : Office) (s : Submission) : o.enter s =
    (s.task o.ledger.accounts.length, { o with ledger := (o.ledger.enter s.batch).2 }) := rfl

variable (taken : o.accepting = true ∧ s.defect? = none)
include taken

theorem submit_of_nil (empty : s.recipients = []) :
    o.submit s = (.ok ⟨s.batchId, .ready (.ok ⟨s.batchId, s.domain, []⟩), none⟩, o) := by
  rw [submit, if_neg (by simp [taken.1]), taken.2]
  exact if_pos (List.isEmpty_iff.2 empty)

/-- The first task of a submission for a known domain goes into the lanes. -/
theorem submit_queued (nonempty : s.recipients ≠ []) (known : s.domain.isUnroutable = false) :
    o.submit s = (.ok ⟨s.batchId, .ticket o.ledger.accounts.length, none⟩,
      offer { o with ledger := (o.ledger.enter s.batch).2 } (s.task o.ledger.accounts.length)) := by
  rw [submit, if_neg (by simp [taken.1]), taken.2]
  refine (if_neg (mt List.isEmpty_iff.1 nonempty)).trans ?_
  rw [enter_eq, known]
  rfl

/-- That of a submission for an unknown domain is settled. -/
theorem submit_unroutable (nonempty : s.recipients ≠ []) (unknown : s.domain.isUnroutable = true) :
    o.submit s = (.ok ⟨s.batchId, .ticket o.ledger.accounts.length, some o.nextNumber⟩,
      beginSettlement { o with ledger := (o.ledger.enter s.batch).2, nextNumber := o.nextNumber + 1 } o.nextNumber
        (s.task o.ledger.accounts.length) .unroutable
        (unroutableResults o.config.recipients (s.task o.ledger.accounts.length))) := by
  rw [submit, if_neg (by simp [taken.1]), taken.2]
  refine (if_neg (mt List.isEmpty_iff.1 nonempty)).trans ?_
  rw [enter_eq, unknown]
  rfl

end Office

namespace World

open Office

variable {w start : World} {t : Task} {k n : Nat} {rs : List RecipientResult} {h : Happening} {js : List Happening}
  {message : String}

/-! ### Refusals -/

/-- Along a history, the sink of the batch `n` refuses a result of its settlement `k`. -/
def RefusedAlong (start : World) (k n : Nat) (js : List Happening) (message : String) : Prop :=
  ∃ ks ls, js = ks ++ .recordRefused k message :: ls ∧
    ∃ y ∈ (start.run ks).office.settlements, y.number = k ∧ y.task.ticket = n

theorem not_refusedAlong_nil : ¬ start.RefusedAlong k n [] message := by
  rintro ⟨ks, ls, split, -⟩
  cases ks <;> cases split

/-- One more happening is the refusal, or it was one before. -/
theorem refusedAlong_snoc : start.RefusedAlong k n (js ++ [h]) message ↔
    start.RefusedAlong k n js message ∨ h = .recordRefused k message ∧
      ∃ y ∈ (start.run js).office.settlements, y.number = k ∧ y.task.ticket = n := by
  constructor
  · rintro ⟨ks, ls, split, found⟩
    rcases List.eq_nil_or_concat ls with rfl | ⟨ls, l, rfl⟩
    · obtain ⟨rfl, last⟩ := List.append_inj' split rfl
      cases last
      exact .inr ⟨rfl, found⟩
    · rw [List.concat_eq_append, ← List.cons_append, ← List.append_assoc] at split
      obtain ⟨rfl, -⟩ := List.append_inj' split rfl
      exact .inl ⟨ks, ls, rfl, found⟩
  · rintro (⟨ks, ls, rfl, found⟩ | ⟨rfl, found⟩)
    · exact ⟨ks, ls ++ [h], List.append_assoc .., found⟩
    · exact ⟨js, [], rfl, found⟩

/-- Nothing is refused of a batch that has ended. -/
theorem no_settlement_of_ended (owned : w.custody.Owned) {v : Verdict} (ended : w.office.ledger.verdict? n = some v) :
    ¬ ∃ y ∈ w.office.settlements, y.number = k ∧ y.task.ticket = n := by
  rintro ⟨y, listed, -, rfl⟩
  have unended := (Ledger.isOpen_iff.1 (isOpen_of_live owned (mem_holdings_settlement.2 listed))).2
  rw [show Holding.task (.settlement y) = y.task from rfl, ended] at unended
  cases unended

/-! ### Batches for unknown domains -/

/-- How far the batch of `t`, for an unknown domain, has come with its results `rs`. -/
inductive Resolution (start : World) (t : Task) (k : Nat) (rs : List RecipientResult) (js : List Happening) : Prop where
  /-- The sink is asked for the next of the results. -/
  | asks (y : Settlement) (listed : y ∈ (start.run js).office.settlements) (number : y.number = k) (task : y.task = t)
      (purpose : y.purpose = .unroutable) (results : y.results = rs) (left : y.left ≠ [])
      (fresh : (start.run js).office.ledger.settledOf t.ticket = [])
      (unrefused : ∀ message, ¬ start.RefusedAlong k t.ticket js message)
  /-- Its recipients have failed. -/
  | failed (ended : (start.run js).office.ledger.verdict? t.ticket = some (.ok ⟨t.batch.root, t.domain, rs⟩))
      (unrefused : ∀ message, ¬ start.RefusedAlong k t.ticket js message)
  /-- The sink has refused a result. -/
  | refused (message : String) (refused : start.RefusedAlong k t.ticket js message)
      (ended : (start.run js).office.ledger.verdict? t.ticket =
        some (.error (ownFault t (.persistence message))))

/-- Only its sink ends the settlement of a batch for an unknown domain. -/
theorem unroutable_kept {y : Settlement} (listed : y ∈ w.office.settlements) (purpose : y.purpose = .unroutable)
    (accepted : h ≠ .recordAccepted y.number) (refused : ∀ message, h ≠ .recordRefused y.number message) :
    y ∈ (w.after h).office.settlements := by
  cases gone : h.abandons y.number with
  | true =>
    obtain ⟨numbers, rfl, -⟩ := Happening.abandons_iff.1 gone
    rw [settlements_after]
    refine List.mem_append_left _ (List.mem_filter.2 ⟨listed, ?_⟩)
    simp [isBackground, purpose]
  | false => exact settlement_kept listed accepted refused gone

/-- The sink has kept one more result of the settlement, which is over with the last one. -/
theorem recordAccepted_of_unroutable (regular : w.custody.Regular) (owned : w.custody.Owned) {y : Settlement}
    (listed : y ∈ w.office.settlements) (purpose : y.purpose = .unroutable) (left : y.left ≠ [])
    (fresh : w.office.ledger.settledOf y.task.ticket = []) :
    (∃ z ∈ (w.after (.recordAccepted y.number)).office.settlements, z.number = y.number ∧ z.task = y.task ∧
      z.purpose = .unroutable ∧ z.results = y.results ∧ z.left ≠ [] ∧
      (w.after (.recordAccepted y.number)).office.ledger.settledOf y.task.ticket = []) ∨
    (w.after (.recordAccepted y.number)).office.ledger.verdict? y.task.ticket =
      some (.ok ⟨y.task.batch.root, y.task.domain, y.results⟩) := by
  have found : w.office.settlement? y.number = some y := Numbered.find?_of_mem (nodup_settlements regular) listed
  rcases next : y.left with _ | ⟨r, _ | ⟨r', rest⟩⟩
  · exact absurd next left
  · right
    have last : w.office.recordAccepted y.number =
        (w.office.removeSettlement y.number).finishSettlement y.task y.purpose y.results := by
      rw [recordAccepted, found]
      dsimp only
      rw [next, Settlement.results, next]
    have unended : (w.office.removeSettlement y.number).ledger.isOpen y.task.ticket :=
      isOpen_of_live owned (mem_holdings_settlement.2 listed)
    have whole : ∀ kept, y.purpose ≠ .attempt kept := fun kept same => by rw [purpose] at same; cases same
    have ended := (ended_finishSettlement y.purpose whole unended y.results).2
    rw [← last] at ended
    rw [show (w.office.removeSettlement y.number).ledger.settledOf y.task.ticket = [] from fresh,
      List.nil_append] at ended
    exact ended
  · left
    refine ⟨{ y with written := y.written ++ [r], left := r' :: rest }, ?_, rfl, rfl, purpose, ?_,
      List.cons_ne_nil r' rest, ?_⟩
    · show _ ∈ (w.office.recordAccepted y.number).settlements
      rw [settlements_recordAccepted, advanced, found, Option.map_some, next]
      exact List.mem_map.2 ⟨y, listed, if_pos rfl⟩
    · rw [Settlement.results, Settlement.results, next, List.append_assoc]
      rfl
    · refine (settledOf_of_none owned fun z settles => ?_).trans fresh
      have unsettled : w.settles? (.recordAccepted y.number) = none := by
        show w.office.recorded? y.number = none
        rw [recorded?, found, Option.bind_some, next]
      rw [unsettled] at settles
      cases settles

/-- How far it has come when something has happened. -/
theorem resolution_snoc (regular : (start.run js).custody.Regular) (owned : (start.run js).custody.Owned)
    (reached : Resolution start t k rs js) (h : Happening) : Resolution start t k rs (js ++ [h]) := by
  have last : start.run (js ++ [h]) = (start.run js).after h := run_append start js [h]
  cases reached with
  | asks y listed number task purpose results left fresh unrefused =>
    subst task number
    by_cases accepted : h = .recordAccepted y.number
    · subst accepted
      have unrefused' : ∀ message, ¬ start.RefusedAlong y.number y.task.ticket (js ++ [.recordAccepted y.number])
          message := by
        rintro message refused
        rcases refusedAlong_snoc.1 refused with before | ⟨same, -⟩
        · exact unrefused message before
        · cases same
      rcases recordAccepted_of_unroutable regular owned listed purpose left fresh with
        ⟨z, listed', number', task', purpose', results', left', fresh'⟩ | ended
      · rw [← last] at listed' fresh'
        exact .asks z listed' number' task' purpose' (results'.trans results) left' fresh' unrefused'
      · rw [← last, results] at ended
        exact .failed ended unrefused'
    · by_cases refused : ∃ message, h = .recordRefused y.number message
      · obtain ⟨message, rfl⟩ := refused
        refine .refused message (refusedAlong_snoc.2 (.inr ⟨rfl, y, listed, rfl, rfl⟩)) ?_
        rw [last]
        exact verdict?_recordRefused message (Numbered.find?_of_mem (nodup_settlements regular) listed)
          (isOpen_of_live owned (mem_holdings_settlement.2 listed))
      · have others : ∀ message, h ≠ .recordRefused y.number message := not_exists.1 refused
        refine .asks y ?_ rfl rfl purpose results left ?_ fun message refused' => ?_
        · rw [last]
          exact unroutable_kept listed purpose accepted others
        · rw [last]
          refine (settledOf_of_others owned (x := .settlement y) (mem_holdings_settlement.2 listed) ?_).trans fresh
          rintro ⟨⟩
          exact accepted rfl
        · rcases refusedAlong_snoc.1 refused' with before | ⟨same, -⟩
          · exact unrefused message before
          · exact others message same
  | failed ended unrefused =>
    refine .failed ?_ fun message refused => ?_
    · rw [last]
      exact verdict?_after regular h ended
    · rcases refusedAlong_snoc.1 refused with before | ⟨-, found⟩
      · exact unrefused message before
      · exact no_settlement_of_ended owned ended found
  | refused message refused ended =>
    refine .refused message (refusedAlong_snoc.2 (.inl refused)) ?_
    rw [last]
    exact verdict?_after regular h ended

/-- How far it has come after any history. -/
theorem resolution_run (regular : start.custody.Regular) (owned : start.custody.Owned)
    (reached : Resolution start t k rs []) (js : List Happening) : Resolution start t k rs js := by
  induction js using List.reverseRecOn with
  | nil => exact reached
  | append_singleton js h ih =>
    exact resolution_snoc (regular_run regular js) (owned_run regular owned js) ih h

namespace Resolution

variable (reached : Resolution start t k rs js)
include reached

/-- The settlement of its batch is its own. -/
theorem task_eq (owned : (start.run js).custody.Owned) {y : Settlement}
    (listed : y ∈ (start.run js).office.settlements) (ticket : y.task.ticket = t.ticket) : y.task = t := by
  cases reached with
  | asks z listed' number task =>
    have one := eq_of_ticket owned (mem_holdings_settlement.2 listed) (mem_holdings_settlement.2 listed')
      (ticket.trans (congrArg Task.ticket task).symm)
    cases one
    exact task
  | failed ended => exact absurd ⟨y, listed, rfl, ticket⟩ (no_settlement_of_ended owned ended)
  | refused message _ ended => exact absurd ⟨y, listed, rfl, ticket⟩ (no_settlement_of_ended owned ended)

/-- Nothing of its batch is in the lanes: the only task there is the one that is settled. -/
theorem unqueued (owned : (start.run js).custody.Owned) {q : Task} (queued : q ∈ (start.run js).office.lanes.tasks) :
    q.ticket ≠ t.ticket := by
  intro same
  have unended := (Ledger.isOpen_iff.1 (open_of_queued owned queued)).2
  rw [same] at unended
  cases reached with
  | asks y listed number task =>
    obtain ⟨l, live⟩ := (Lanes.mem_tasks_iff _).1 queued
    have one := eq_of_ticket owned (x := .queued l q) (mem_holdings_queued.2 live) (mem_holdings_settlement.2 listed)
      (same.trans (congrArg Task.ticket task).symm)
    cases one
  | failed ended =>
    rw [ended] at unended
    cases unended
  | refused message _ ended =>
    rw [ended] at unended
    cases unended

/-- It has ended well or by a refusal, or the sink is still asked. -/
theorem ends (regular : (start.run js).custody.Regular) (owned : (start.run js).custody.Owned) :
    ((start.run js).office.ledger.verdict? t.ticket = some (.ok ⟨t.batch.root, t.domain, rs⟩) ∧
      ∀ message, ¬ start.RefusedAlong k t.ticket js message) ∨
    (∃ message, start.RefusedAlong k t.ticket js message ∧
      (start.run js).office.ledger.verdict? t.ticket = some (.error (ownFault t (.persistence message)))) ∨
    ((start.run js).office.ledger.verdict? t.ticket = none ∧
      (∀ message, ¬ start.RefusedAlong k t.ticket js message) ∧
      ∃ y, (start.run js).office.settlement? k = some y ∧ y.left ≠ [] ∧ y.results = rs) := by
  cases reached with
  | asks y listed number task purpose results left fresh unrefused =>
    have unended := (Ledger.isOpen_iff.1 (isOpen_of_live owned (mem_holdings_settlement.2 listed))).2
    rw [show Holding.task (.settlement y) = y.task from rfl, task] at unended
    have found : (start.run js).office.settlement? y.number = some y :=
      Numbered.find?_of_mem (nodup_settlements regular) listed
    exact .inr (.inr ⟨unended, unrefused, y, number ▸ found, left, results⟩)
  | failed ended unrefused => exact .inl ⟨ended, unrefused⟩
  | refused message refused ended => exact .inr (.inl ⟨message, refused, ended⟩)

end Resolution

/-! ### What a submission leads to -/

/-- The task that a submission puts into the lanes. -/
def arrival (w : World) (s : Submission) : Task :=
  { s.task w.office.ledger.accounts.length with enqueuedAt := w.office.now }

/-- The results of a submission for an unknown domain. -/
def rejections (w : World) (s : Submission) : List RecipientResult :=
  unroutableResults w.office.config.recipients (s.task w.office.ledger.accounts.length)

/-- The world after a submission and a history. -/
def later (w : World) (s : Submission) (js : List Happening) : World := (w.after (.submit s)).run js

/-- After a submission, its sink refuses one of these along a history. -/
def RefusesLater (w : World) (s : Submission) (js : List Happening) (message : String) : Prop :=
  (w.after (.submit s)).RefusedAlong w.office.nextNumber w.office.ledger.accounts.length js message

/-- A submission is queued. -/
structure Queues (w : World) (s : Submission) (a : Admission) : Prop where
  admission : a = ⟨s.batchId, .ticket w.office.ledger.accounts.length, none⟩
  /-- Its task is for all recipients, none of them retried, in the fresh lane of its class. -/
  task : (w.arrival s).recipients = s.recipients.map (fun address => ⟨address, 0⟩) ∧ (w.arrival s).retries = 0 ∧
    (w.arrival s).lane = s.traffic.freshLane ∧ (w.arrival s).domain = s.domain ∧ (w.arrival s).id = s.batchId
  /-- This task comes into the lanes. -/
  lanes : w.office.lanes.Appended (w.arrival s) (w.after (.submit s)).office.lanes
  /-- Besides, there is an open account of the batch, and the depth of the lane is shown. -/
  rest : w.after (.submit s) =
    { w with
      entered := w.entered ++ [s]
      office := { w.office with
        lanes := (w.after (.submit s)).office.lanes
        ledger := ⟨w.office.ledger.accounts ++ [{ batch := s.batch }]⟩
        metrics := w.office.metrics.setDepth s.traffic.freshLane
          ((w.after (.submit s)).office.lanes.size s.traffic.freshLane) } }

/-- A submission for an unknown domain is rejected. -/
structure Rejects (w : World) (s : Submission) (a : Admission) : Prop where
  admission : a = ⟨s.batchId, .ticket w.office.ledger.accounts.length, some w.office.nextNumber⟩
  /-- Every recipient fails once, in the order of the submission. -/
  results : w.rejections s = s.recipients.map fun address =>
    ⟨address, .failed, w.office.config.recipients.invalidDomainCode, "Invalid recipient domain", 0⟩
  /-- Nothing is queued, then or later. -/
  lanes : (w.after (.submit s)).office.lanes = w.office.lanes
  unqueued : ∀ js, ∀ q ∈ (w.later s js).office.lanes.tasks, q.ticket ≠ w.office.ledger.accounts.length
  /-- Without a sink the batch has ended. -/
  atOnce : s.sink = none → (w.after (.submit s)).office.verdict? a.handle =
    some (.ok ⟨s.batchId, s.domain, w.rejections s⟩)
  /-- It ends well, or with a fault of the sink exactly where the sink refuses a result; or the sink is still asked for
  the next one. -/
  ends : ∀ js,
    ((w.later s js).office.verdict? a.handle = some (.ok ⟨s.batchId, s.domain, w.rejections s⟩) ∧
      ∀ message, ¬ w.RefusesLater s js message) ∨
    (∃ message fault, w.RefusesLater s js message ∧ (w.later s js).office.verdict? a.handle = some (.error fault) ∧
      fault.isPersistence ∧ fault = ownFault (s.task w.office.ledger.accounts.length) (.persistence message)) ∨
    ((w.later s js).office.verdict? a.handle = none ∧ (∀ message, ¬ w.RefusesLater s js message) ∧
      ∃ y, (w.later s js).office.settlement? w.office.nextNumber = some y ∧ y.left ≠ [] ∧
        y.written ++ y.left = w.rejections s)
  /-- When the submitter is kept waiting no longer, it has ended. -/
  resolved : ∀ js, (w.later s js).office.settlement? w.office.nextNumber = none →
    ∃ v, (w.later s js).office.verdict? a.handle = some v
  /-- By the refusal the run of the batch is ended, with all its queued tasks if it was not before. -/
  aborts : ∀ js message u, s.runner = some u →
    (∃ y ∈ (w.later s js).office.settlements, y.number = w.office.nextNumber ∧
      y.task.ticket = w.office.ledger.accounts.length) →
    ((w.later s js).after (.recordRefused w.office.nextNumber message)).office.registry.TurnedAway u ∧
    ((w.later s js).office.registry.endOf u = none →
      (w.later s js).office.lanes.Without (·.ownedBy u)
        ((w.later s js).after (.recordRefused w.office.nextNumber message)).office.lanes)

/-- What a submission does in a world. -/
structure Submits (w : World) (s : Submission) : Prop where
  /-- It is refused where no more are taken, or it is malformed. -/
  refused : (∃ cause, (w.office.submit s).1 = .error cause) ↔ w.office.accepting = false ∨ s.defect?.isSome
  /-- Then nothing has happened. -/
  traceless : ∀ cause, (w.office.submit s).1 = .error cause → w.after (.submit s) = w
  /-- Nothing happens without recipients, either, and if it is taken it has ended well. -/
  empty : s.recipients = [] → w.after (.submit s) = w ∧ ∀ a, (w.office.submit s).1 = .ok a →
    a = ⟨s.batchId, .ready (.ok ⟨s.batchId, s.domain, []⟩), none⟩
  queued : ∀ a, (w.office.submit s).1 = .ok a → s.recipients ≠ [] → s.domain.isUnroutable = false → w.Queues s a
  rejected : ∀ a, (w.office.submit s).1 = .ok a → s.recipients ≠ [] → s.domain.isUnroutable = true → w.Rejects s a

variable {s : Submission} {a : Admission}

theorem taken_of_ok (taken : (w.office.submit s).1 = .ok a) : w.office.accepting = true ∧ s.defect? = none := by
  have unrefused : ¬ ∃ cause, (w.office.submit s).1 = .error cause := by
    rintro ⟨cause, refused⟩
    rw [refused] at taken
    cases taken
  rw [submit_error_iff, not_or] at unrefused
  exact ⟨by simpa using unrefused.1, by simpa using unrefused.2⟩

/-- What leaves no trace in the office leaves none in the world. -/
theorem after_of_traceless {answer : Except Fault Admission} (same : w.office.submit s = (answer, w.office))
    (handle : ∀ a, answer = .ok a → ∃ v, a.handle = .ready v) : w.after (.submit s) = w := by
  show w.submit s = w
  unfold submit
  rw [same]
  dsimp only
  split
  · obtain ⟨v, ready⟩ := handle _ rfl
    cases ready
  · rfl

theorem queues (taken : (w.office.submit s).1 = .ok a) (nonempty : s.recipients ≠ [])
    (known : s.domain.isUnroutable = false) : w.Queues s a := by
  have same := submit_queued (taken_of_ok taken) nonempty known
  have after : w.after (.submit s) = _ := submit_of_entered same rfl
  rw [same] at taken
  obtain rfl := Except.ok.inj taken
  refine ⟨rfl, ⟨rfl, rfl, rfl, rfl, rfl⟩, ?_, ?_⟩
  · rw [after]
    exact Lanes.appended_offer w.office.lanes (w.arrival s)
  · rw [after]
    rfl

section Unknown

variable (taken : (w.office.submit s).1 = .ok a) (nonempty : s.recipients ≠ [])
  (unknown : s.domain.isUnroutable = true)
include taken nonempty unknown

theorem after_of_unknown : (w.after (.submit s)).office =
    beginSettlement { w.office with
        ledger := (w.office.ledger.enter s.batch).2
        nextNumber := w.office.nextNumber + 1 } w.office.nextNumber
      (s.task w.office.ledger.accounts.length) .unroutable (w.rejections s) := by
  have after : w.after (.submit s) = _ :=
    submit_of_entered (submit_unroutable (taken_of_ok taken) nonempty unknown) rfl
  rw [after]
  rfl

/-- Without a sink all its recipients have failed at once. -/
theorem verdict?_of_unknown (none : s.sink = none) :
    (w.after (.submit s)).office.ledger.verdict? w.office.ledger.accounts.length =
      some (.ok ⟨s.batchId, s.domain, w.rejections s⟩) := by
  rw [after_of_unknown taken nonempty unknown, beginSettlement, if_pos]
  · have unended : (w.office.ledger.enter s.batch).2.isOpen w.office.ledger.accounts.length := by
      rw [Ledger.isOpen_enter, decide_eq_true rfl, Bool.true_or]
    have fresh := w.office.ledger.settledOf_entered s.batch
    have ended := (ended_finishSettlement .unroutable (by rintro _ ⟨⟩)
      (o := { w.office with
        ledger := (w.office.ledger.enter s.batch).2
        nextNumber := w.office.nextNumber + 1 })
      (t := s.task w.office.ledger.accounts.length) unended (w.rejections s)).2
    rw [show Ledger.settledOf _ (s.task w.office.ledger.accounts.length).ticket = [] from fresh] at ended
    exact ended
  · rw [show (s.task w.office.ledger.accounts.length).batch.sink = s.sink from rfl, none]
    rfl

/-- Its first result is brought to the sink, if it has one. -/
theorem resolution_submit : Resolution (w.after (.submit s)) (s.task w.office.ledger.accounts.length)
    w.office.nextNumber (w.rejections s) [] := by
  rcases sink : s.sink with - | name
  · exact .failed (verdict?_of_unknown taken nonempty unknown sink) fun _ => not_refusedAlong_nil
  · have more : w.rejections s ≠ [] := by simpa [rejections, unroutableResults, Submission.task, Task.first]
    have begun := after_of_unknown taken nonempty unknown
    rw [beginSettlement, if_neg] at begun
    · refine .asks ⟨w.office.nextNumber, s.task w.office.ledger.accounts.length, .unroutable, [], w.rejections s⟩ ?_
        rfl rfl rfl rfl more ?_ fun _ => not_refusedAlong_nil
      · rw [run_nil, begun]
        exact List.mem_append_right _ List.mem_cons_self
      · rw [run_nil, begun]
        exact w.office.ledger.settledOf_entered s.batch
    · rw [show (s.task w.office.ledger.accounts.length).batch.sink = s.sink from rfl, sink]
      simpa using more

theorem rejects (regular : w.custody.Regular) (owned : w.custody.Owned) (covered : w.Covered)
    (sound : w.office.lanes.Sound) : w.Rejects s a := by
  have regular₁ := regular_after regular (.submit s)
  have owned₁ := owned_after regular owned (.submit s)
  have reached := resolution_run regular₁ owned₁ (resolution_submit taken nonempty unknown)
  have told := taken
  rw [submit_unroutable (taken_of_ok taken) nonempty unknown] at told
  obtain rfl := Except.ok.inj told
  refine ⟨rfl, ?_, ?_, fun js q => (reached js).unqueued (owned_run regular₁ owned₁ js),
    verdict?_of_unknown taken nonempty unknown, fun js => ?_, fun js returned => ?_, fun js message u run asked => ?_⟩
  · rw [rejections, unroutableResults, Submission.task, Task.first, List.map_map]
    rfl
  · rw [after_of_unknown taken nonempty unknown]
    exact lanes_beginSettlement ..
  · refine ((reached js).ends (regular_run regular₁ js) (owned_run regular₁ owned₁ js)).imp_right (Or.imp_left ?_)
    rintro ⟨message, refused, ended⟩
    exact ⟨message, _, refused, ended, isPersistence_ownFault _ message, rfl⟩
  · rcases (reached js).ends (regular_run regular₁ js) (owned_run regular₁ owned₁ js) with
      ⟨ended, -⟩ | ⟨message, -, ended⟩ | ⟨-, -, y, found, -⟩
    · exact ⟨_, ended⟩
    · exact ⟨_, ended⟩
    · rw [show ((w.later s js).office.settlement? w.office.nextNumber) = some y from found] at returned
      cases returned
  · have regularJs := regular_run regular₁ js
    obtain ⟨y, listed, number, ticket⟩ := asked
    have found : ((w.after (.submit s)).run js).office.settlement? w.office.nextNumber = some y :=
      number ▸ Numbered.find?_of_mem (nodup_settlements regularJs) listed
    have task := (reached js).task_eq (owned_run regular₁ owned₁ js) listed ticket
    obtain ⟨abort, away⟩ := turnedAway_of_refused message found ((congrArg Task.runner task).trans run)
    have cascades := cascades regularJs (owned_run regular₁ owned₁ js)
      (covered_run regular₁ (covered_after regular covered _) js) (sound_run (sound_after _ sound) js)
    exact ⟨away, fun first => (cascades.ends _ u _ abort first).1⟩

end Unknown

/-- Whatever has happened before in a new office, a submission is refused or taken as a whole. -/
theorem submits_run (config : Config) (workers : Nat) (wall : Calendar.Moment) (hs : List Happening) (s : Submission) :
    ((opening config workers wall).run hs).Submits s := by
  have regular₀ := regular_opening config workers wall
  have regular := regular_run regular₀ hs
  have owned := owned_run regular₀ (owned_opening config workers wall) hs
  have covered := covered_run regular₀ (covered_opening config workers wall) hs
  have sound := sound_run (sound_opening config workers wall) hs
  refine ⟨submit_error_iff, fun cause refused => ?_, fun empty => ?_, fun a => queues, fun a taken nonempty unknown =>
    rejects taken nonempty unknown regular owned covered sound⟩
  · refine after_of_traceless (submit_of_error refused) ?_
    rintro a ⟨⟩
  · rcases answered : (((opening config workers wall).run hs).office.submit s).1 with cause | a
    · refine ⟨after_of_traceless (submit_of_error answered) ?_, ?_⟩
      · rintro a ⟨⟩
      · rintro a ⟨⟩
    · have same := submit_of_nil (taken_of_ok answered) empty
      refine ⟨after_of_traceless same fun a told => ?_, fun a told => ?_⟩
      · cases told
        exact ⟨_, rfl⟩
      · rw [← answered, same] at told
        exact (Except.ok.inj told).symm

end World

end Postroom
