import Postroom.Proofs.Settlements.Booked

/-!
# How results become final

A settlement is begun with the results of an answer, of an expiry or of a submission for a domain that is not
known. Its results become final all at once: at the beginning, where no sink waits for them, or else when the
sink has kept the last of them.

- `Office.answered?`, `Office.gaveUp?`, `Office.turnedAway?`: the settlements that are brought.
- `Office.Collects`, `Office.Records`: all that the taking of a report, and the keeping of a result, can do.
- `Office.booked_collect` and the like: which results become final. `Office.settlements_collect` and the like:
  which settlements are left and begun.
-/

namespace Postroom

/-- There are results to be recorded, and a sink that records them. -/
def Settlement.waits (s : Settlement) : Bool := s.task.batch.sink.isSome && !s.left.isEmpty

/-- The results of the settlement that become final for the batch of a ticket. -/
def finalFor (n : Nat) : Option Settlement → List RecipientResult
  | some s => if s.task.ticket = n then s.results else []
  | none => []

namespace Office

variable {o o' : Office} {t : Task} {n : Nat}

/-! ### The settlements that are brought -/

/-- What follows from an answer is lost: the end of a cooldown is beyond the calendar. -/
def loses (o : Office) (a : Attempt) (outcome : Outcome) : Bool :=
  (o.pool.record o.now a.permit.lease outcome.statusCode outcome.anySuccess).1 = .unrepresentable

/-- The settlement of an answer. -/
def settlementOf (o : Office) (a : Attempt) (outcome : Outcome) : Settlement :=
  ⟨a.number, a.task, .attempt (outcome.kept (o.config.retry.hasBudget a.task.retries)), [],
    outcome.terminal (o.config.retry.hasBudget a.task.retries)⟩

/-- The settlement to which the report of an attempt leads, if it leads to one. -/
def answered? (o : Office) (n : Nat) : Option Settlement :=
  (o.attempt? n).bind fun a =>
    match a.report with
    | some (.ok outcome) => if o.loses a outcome then none else some (o.settlementOf a outcome)
    | _ => none

/-- The settlement to which an expiry leads. -/
def gaveUp? (o : Office) (n : Nat) : Option Settlement :=
  (o.expiries.find? (·.number = n)).map fun e =>
    ⟨n, e.task, .expiry, [], expiryResults o.config.wait e.task⟩

/-- The settlement of a submission for a domain that is not known. -/
def turnedAway? (o : Office) (s : Submission) : Option Settlement :=
  match (o.submit s).1 with
  | .ok ⟨_, .ticket _, _⟩ =>
    if s.domain.isUnroutable then
      some ⟨o.nextNumber, (o.enter s).1, .unroutable, [],
        unroutableResults o.config.recipients (o.enter s).1⟩
    else none
  | _ => none

/-- The settlement of which the next result is the last one, with that result recorded. -/
def recorded? (o : Office) (n : Nat) : Option Settlement :=
  (o.settlement? n).bind fun s =>
    match s.left with
    | [r] => some { s with written := s.written ++ [r], left := [] }
    | _ => none

/-- The settlements once the next result of one of them is recorded. -/
def advanced (o : Office) (n : Nat) : List Settlement :=
  match (o.settlement? n).map (·.left) with
  | some [_] => o.settlements.filter (·.number ≠ n)
  | some (r :: left) => o.settlements.map fun s =>
      if s.number = n then { s with written := s.written ++ [r], left := left } else s
  | _ => o.settlements

/-! ### Settlements that are over -/

theorem booked_settle (inside : t.ticket < o.ledger.accounts.length) (results : List RecipientResult)
    (n : Nat) : (o.settle t results).booked n =
      o.booked n ++ if t.ticket = n then results else [] := by
  by_cases same : t.ticket = n
  · subst same
    rw [if_pos rfl]
    exact Ledger.settledOf_settle _ _ _ inside
  · rw [if_neg same, List.append_nil]
    exact Ledger.settledOf_settle_of_ne _ _ same

/-- When a settlement is over, its results are final. -/
theorem booked_finishSettlement (s : Settlement) (inside : s.task.ticket < o.ledger.accounts.length)
    (n : Nat) : (o.finishSettlement s.task s.purpose s.results).booked n =
      o.booked n ++ finalFor n (some s) := by
  have settled := booked_settle (o := o) inside s.results n
  rw [finalFor, ← settled]
  obtain ⟨k, t, purpose, written, left⟩ := s
  cases purpose with
  | attempt kept =>
    have ended := booked_conclusionOfAttempt (o := o.settle t (written ++ left)) t kept
    exact congrFun ((booked_attemptFinished t).trans ended) n
  | expiry =>
    -- the failures are counted first, which touches no result
    exact congrFun (booked_complete t) n
  | unroutable => exact congrFun (booked_complete t) n

theorem settlements_finishSettlement (t : Task) (purpose : Purpose) (results : List RecipientResult) :
    (o.finishSettlement t purpose results).settlements = o.settlements := by
  cases purpose with
  | attempt kept =>
    have ended : ((o.settle t results).conclusionOfAttempt t kept).settlements = o.settlements :=
      congrArg (·.settlements) (frame_conclusionOfAttempt (o := o.settle t results) t kept)
    exact (settlements_attemptFinished t).trans ended
  | expiry => exact congrArg (·.settlements) (frame_complete t)
  | unroutable => exact congrArg (·.settlements) (frame_complete t)

/-! ### Settlements that begin -/

/-- A settlement that is begun waits for its sink, or is over at once. -/
theorem beginSettlement_eq (s : Settlement) (fresh : s.written = []) :
    o.beginSettlement s.number s.task s.purpose s.left =
      if s.waits then { o with settlements := o.settlements ++ [s] }
      else o.finishSettlement s.task s.purpose s.results := by
  obtain ⟨k, t, purpose, written, left⟩ := s
  cases fresh
  rw [beginSettlement]
  by_cases idle : t.batch.sink.isNone || left.isEmpty
  · have ended : (Settlement.waits ⟨k, t, purpose, [], left⟩) = false := by
      rw [Settlement.waits, Bool.and_eq_false_iff, Bool.not_eq_false']
      rcases Bool.or_eq_true _ _ ▸ idle with none | empty
      · exact .inl (by rw [Option.isNone_iff_eq_none.1 none]; rfl)
      · exact .inr empty
    rw [if_pos idle, ended]
    rfl
  · have awaits : (Settlement.waits ⟨k, t, purpose, [], left⟩) = true := by
      rw [Bool.not_eq_true, Bool.or_eq_false_iff, Option.isNone_eq_false_iff] at idle
      rw [Settlement.waits, Bool.and_eq_true, Bool.not_eq_true']
      exact idle
    rw [if_neg idle, awaits]
    rfl

theorem settlements_beginSettlement (s : Settlement) (fresh : s.written = []) :
    (o.beginSettlement s.number s.task s.purpose s.left).settlements =
      o.settlements ++ ((some s).filter (·.waits)).toList := by
  rw [beginSettlement_eq s fresh]
  cases hw : s.waits with
  | true =>
    rw [Option.filter_some, hw]
    rfl
  | false =>
    simp only [hw, Option.filter_some, Bool.false_eq_true, if_false, Option.toList_none, List.append_nil]
    exact settlements_finishSettlement s.task s.purpose s.results

theorem booked_beginSettlement (s : Settlement) (fresh : s.written = [])
    (inside : s.task.ticket < o.ledger.accounts.length) (n : Nat) :
    (o.beginSettlement s.number s.task s.purpose s.left).booked n =
      o.booked n ++ finalFor n ((some s).filter fun s => !s.waits) := by
  rw [beginSettlement_eq s fresh]
  cases hw : s.waits with
  | true =>
    simp only [Option.filter_some, hw, Bool.not_true, Bool.false_eq_true, if_false, if_true, finalFor,
      List.append_nil]
    rfl
  | false =>
    simp only [Option.filter_some, hw, Bool.not_false, Bool.false_eq_true, if_false, if_true]
    exact booked_finishSettlement s inside n

/-! ### The end of an attempt -/

/-- The office once the report of an attempt is taken: it is not in flight any more. -/
def close (o : Office) (a : Attempt) : Office :=
  countEnd { o with attempts := o.attempts.filter (·.number ≠ a.number) } a.task.lane

/-- The office once the answer of an attempt is recorded: the permit is back, and all is counted. -/
def answer (o : Office) (a : Attempt) (outcome : Outcome) : Office :=
  (({ o with pool := (o.pool.record o.now a.permit.lease outcome.statusCode outcome.anySuccess).2 } :
    Office).releasePermit a.permit).countOutcome a.task outcome

theorem close_rest (o : Office) (a : Attempt) : ∃ inFlight metrics, o.close a =
    { o with
      attempts := o.attempts.filter (·.number ≠ a.number)
      inFlight := inFlight
      metrics := metrics } := by
  unfold close countEnd
  split
  · exact ⟨_, _, rfl⟩
  · exact ⟨_, _, rfl⟩

/-- An answer is lost, or its settlement begins. -/
theorem settleOutcome_eq (o : Office) (a : Attempt) (outcome : Outcome) :
    o.settleOutcome a outcome =
      if o.loses a outcome then
        drop { o with pool :=
          (o.pool.record o.now a.permit.lease outcome.statusCode outcome.anySuccess).2 } a.task
      else (o.answer a outcome).beginSettlement a.number a.task (o.settlementOf a outcome).purpose
        (o.settlementOf a outcome).left := by
  unfold settleOutcome loses answer
  rcases o.pool.record o.now a.permit.lease outcome.statusCode outcome.anySuccess with ⟨cooldown, pool⟩
  cases cooldown <;> rfl

/-- What taking the report of an attempt does to an office. -/
inductive Collects (o : Office) (n : Nat) : Office → Prop where
  /-- There is no report to take. -/
  | idle (unreported : (o.attempt? n).bind (·.report) = none) : Collects o n o
  /-- The send failed as a whole. -/
  | failed (a : Attempt) (cause : Fault) (found : o.attempt? n = some a)
      (reported : a.report = some (.error cause)) : Collects o n
        ((((o.close a).releasePermit a.permit).failAttempt a.task cause).attemptFinished a.task)
  /-- What follows from the answer is lost. -/
  | lost (a : Attempt) (outcome : Outcome) (found : o.attempt? n = some a)
      (reported : a.report = some (.ok outcome)) (lost : o.loses a outcome) (pool : AddressPool) :
      Collects o n (drop { o.close a with pool := pool } a.task)
  /-- The settlement of the answer begins. -/
  | settled (a : Attempt) (outcome : Outcome) (found : o.attempt? n = some a)
      (reported : a.report = some (.ok outcome)) (kept : o.loses a outcome = false) : Collects o n
        (((o.close a).answer a outcome).beginSettlement (o.settlementOf a outcome).number
          (o.settlementOf a outcome).task (o.settlementOf a outcome).purpose
          (o.settlementOf a outcome).left)

theorem collects (o : Office) (n : Nat) : o.Collects n (o.collect n) := by
  cases found : o.attempt? n with
  | none =>
    rw [collect, found]
    exact .idle (by rw [found]; rfl)
  | some a =>
    obtain rfl : a.number = n := Numbered.number_of_found found
    cases reported : a.report with
    | none =>
      simp only [collect, found, reported]
      exact .idle (by rw [found]; exact reported)
    | some report =>
      cases report with
      | error cause =>
        simp only [collect, found, reported]
        exact .failed a cause found reported
      | ok outcome =>
        obtain ⟨inFlight, metrics, rest⟩ := o.close_rest a
        have lost : (o.close a).loses a outcome = o.loses a outcome := by rw [rest]; rfl
        have settlement : (o.close a).settlementOf a outcome = o.settlementOf a outcome := by
          rw [rest]; rfl
        simp only [collect, found, reported]
        show o.Collects a.number ((o.close a).settleOutcome a outcome)
        rw [settleOutcome_eq, lost, settlement]
        cases hl : o.loses a outcome with
        | true => exact .lost a outcome found reported hl _
        | false => exact .settled a outcome found reported hl

theorem answered?_of_error {a : Attempt} {cause : Fault} (found : o.attempt? n = some a)
    (reported : a.report = some (.error cause)) : o.answered? n = none := by
  rw [answered?, found, Option.bind_some, reported]

theorem answered?_of_ok {a : Attempt} {outcome : Outcome} (found : o.attempt? n = some a)
    (reported : a.report = some (.ok outcome)) :
    o.answered? n = if o.loses a outcome then none else some (o.settlementOf a outcome) := by
  rw [answered?, found, Option.bind_some, reported]

theorem answered?_of_idle (unreported : (o.attempt? n).bind (·.report) = none) :
    o.answered? n = none := by
  rw [answered?]
  cases found : o.attempt? n with
  | none => rfl
  | some a =>
    rw [found, Option.bind_some] at unreported
    rw [Option.bind_some, unreported]

theorem settlements_collect (o : Office) (n : Nat) : (o.collect n).settlements =
    o.settlements ++ ((o.answered? n).filter (·.waits)).toList := by
  have closed : ∀ a, (o.close a).settlements = o.settlements := by
    intro a
    obtain ⟨inFlight, metrics, rest⟩ := o.close_rest a
    rw [rest]
  have taken := o.collects n
  generalize o.collect n = p at taken ⊢
  cases taken with
  | idle unreported =>
    rw [answered?_of_idle unreported]
    exact (List.append_nil _).symm
  | failed a cause found reported =>
    rw [answered?_of_error found reported, settlements_attemptFinished]
    have ended := congrArg (·.settlements)
      (frame_failAttempt (o := (o.close a).releasePermit a.permit) a.task cause)
    exact (ended.trans (closed a)).trans (List.append_nil _).symm
  | lost a outcome found reported lost pool =>
    rw [answered?_of_ok found reported, if_pos lost]
    exact (closed a).trans (List.append_nil _).symm
  | settled a outcome found reported kept =>
    rw [answered?_of_ok found reported, kept, settlements_beginSettlement _ rfl]
    exact congrArg (· ++ _) (closed a)

theorem booked_collect (o : Office) (n k : Nat)
    (inside : ∀ a ∈ o.attempts, a.task.ticket < o.ledger.accounts.length) : (o.collect n).booked k =
      o.booked k ++ finalFor k ((o.answered? n).filter fun s => !s.waits) := by
  have closed : ∀ a, (o.close a).ledger = o.ledger := by
    intro a
    obtain ⟨inFlight, metrics, rest⟩ := o.close_rest a
    rw [rest]
  have same : ∀ {p : Office}, p.booked = o.booked → p.booked k = o.booked k ++ finalFor k none := by
    intro p hp
    rw [hp]
    exact (List.append_nil _).symm
  have taken := o.collects n
  generalize o.collect n = p at taken ⊢
  cases taken with
  | idle unreported =>
    rw [answered?_of_idle unreported]
    exact same rfl
  | failed a cause found reported =>
    rw [answered?_of_error found reported]
    have failed := booked_failAttempt (o := (o.close a).releasePermit a.permit) a.task cause
    refine same (((booked_attemptFinished a.task).trans failed).trans ?_)
    exact congrArg Ledger.settledOf (closed a)
  | lost a outcome found reported lost pool =>
    rw [answered?_of_ok found reported, if_pos lost]
    refine same ((booked_drop a.task).trans ?_)
    exact congrArg Ledger.settledOf (closed a)
  | settled a outcome found reported kept =>
    have ledger : ((o.close a).answer a outcome).ledger = o.ledger := closed a
    have within : (o.settlementOf a outcome).task.ticket <
        ((o.close a).answer a outcome).ledger.accounts.length := by
      rw [ledger]
      exact inside a (List.mem_of_find?_eq_some found)
    rw [answered?_of_ok found reported, kept, booked_beginSettlement _ rfl within k]
    exact congrArg (· ++ _) (congrFun (congrArg Ledger.settledOf ledger) k)

/-! ### Records -/

/-- What the sink's keeping of the next result does to an office. -/
inductive Records (o : Office) (n : Nat) : Office → Prop where
  /-- There is nothing to be recorded. -/
  | idle (none : o.recorded? n = none) (left : o.advanced n = o.settlements) : Records o n o
  /-- More results are left. -/
  | more (s : Settlement) (r r' : RecipientResult) (left : List RecipientResult)
      (found : o.settlement? n = some s) (next : s.left = r :: r' :: left) :
      Records o n { o with settlements := o.advanced n }
  /-- It was the last one. -/
  | last (s : Settlement) (r : RecipientResult) (found : o.settlement? n = some s)
      (next : s.left = [r]) : Records o n
        ((o.removeSettlement n).finishSettlement s.task s.purpose (s.written ++ [r]))

theorem records (o : Office) (n : Nat) : o.Records n (o.recordAccepted n) := by
  cases found : o.settlement? n with
  | none =>
    rw [recordAccepted, found]
    exact .idle (by rw [recorded?, found]; rfl) (by rw [advanced, found]; rfl)
  | some s =>
    rcases next : s.left with _ | ⟨r, _ | ⟨r', left⟩⟩
    · simp only [recordAccepted, found, next]
      refine .idle ?_ ?_
      · rw [recorded?, found, Option.bind_some, next]
      · rw [advanced, found, Option.map_some, next]
    · simp only [recordAccepted, found, next]
      exact .last s r found next
    · have moved : o.advanced n = o.settlements.map fun s =>
          if s.number = n then { s with written := s.written ++ [r], left := r' :: left } else s := by
        rw [advanced, found, Option.map_some, next]
      simp only [recordAccepted, found, next]
      rw [← moved]
      exact .more s r r' left found next

theorem settlements_recordAccepted (o : Office) (n : Nat) :
    (o.recordAccepted n).settlements = o.advanced n := by
  have recorded := o.records n
  generalize o.recordAccepted n = p at recorded ⊢
  cases recorded with
  | idle none left => exact left.symm
  | more s r r' left found next => rfl
  | last s r found next =>
    rw [settlements_finishSettlement, advanced, found, Option.map_some, next]
    rfl

theorem booked_recordAccepted (o : Office) (n k : Nat)
    (inside : ∀ s ∈ o.settlements, s.task.ticket < o.ledger.accounts.length) :
    (o.recordAccepted n).booked k = o.booked k ++ finalFor k (o.recorded? n) := by
  have recorded := o.records n
  generalize o.recordAccepted n = p at recorded ⊢
  cases recorded with
  | idle none left =>
    rw [none]
    exact (List.append_nil _).symm
  | more s r r' left found next =>
    have none : o.recorded? n = none := by
      rw [recorded?, found, Option.bind_some, next]
    rw [none]
    exact (List.append_nil _).symm
  | last s r found next =>
    have ended : o.recorded? n = some { s with written := s.written ++ [r], left := [] } := by
      rw [recorded?, found, Option.bind_some, next]
    have within : s.task.ticket < (o.removeSettlement n).ledger.accounts.length :=
      inside s (List.mem_of_find?_eq_some found)
    have settled := booked_finishSettlement (o := o.removeSettlement n)
      { s with written := s.written ++ [r], left := [] } within k
    rw [Settlement.results, List.append_nil] at settled
    rw [ended]
    exact settled

theorem settlements_recordRefused (o : Office) (n : Nat) (message : String) :
    (o.recordRefused n message).settlements = o.settlements.filter (·.number ≠ n) := by
  unfold recordRefused
  cases found : o.settlement? n with
  | none =>
    have unfound := List.find?_eq_none.1 found
    refine (Numbered.filter_eq_self fun listed => ?_).symm
    obtain ⟨s, hs, same⟩ := List.mem_map.1 listed
    exact unfound s hs (decide_eq_true same)
  | some s =>
    have ended : ((o.removeSettlement n).abortAndFail s.task (.persistence message)).settlements =
        (o.removeSettlement n).settlements :=
      congrArg (·.settlements) (frame_abortAndFail (o := o.removeSettlement n) s.task _)
    dsimp only
    split
    · exact (settlements_attemptFinished s.task).trans ended
    · exact ended

/-! ### Expiries and submissions -/

/-- An expiry that is taken up begins its settlement. -/
theorem beginExpiry_eq (o : Office) (n : Nat) : o.beginExpiry n =
    match o.gaveUp? n with
    | some s => beginSettlement { o with expiries := o.expiries.filter (·.number ≠ n) } s.number s.task
        s.purpose s.left
    | none => o := by
  unfold beginExpiry gaveUp?
  cases o.expiries.find? (·.number = n) <;> rfl

theorem gaveUp?_fresh {s : Settlement} (h : o.gaveUp? n = some s) :
    s.written = [] ∧ ∃ e ∈ o.expiries, e.task = s.task := by
  obtain ⟨e, found, rfl⟩ := Option.map_eq_some_iff.1 h
  exact ⟨rfl, e, List.mem_of_find?_eq_some found, rfl⟩

theorem settlements_beginExpiry (o : Office) (n : Nat) : (o.beginExpiry n).settlements =
    o.settlements ++ ((o.gaveUp? n).filter (·.waits)).toList := by
  rw [beginExpiry_eq]
  cases h : o.gaveUp? n with
  | none => exact (List.append_nil _).symm
  | some s => exact settlements_beginSettlement s (gaveUp?_fresh h).1

theorem booked_beginExpiry (o : Office) (n k : Nat)
    (inside : ∀ e ∈ o.expiries, e.task.ticket < o.ledger.accounts.length) : (o.beginExpiry n).booked k =
      o.booked k ++ finalFor k ((o.gaveUp? n).filter fun s => !s.waits) := by
  rw [beginExpiry_eq]
  cases h : o.gaveUp? n with
  | none => exact (List.append_nil _).symm
  | some s =>
    obtain ⟨fresh, e, he, task⟩ := gaveUp?_fresh h
    exact booked_beginSettlement (o := { o with expiries := o.expiries.filter (·.number ≠ n) }) s fresh
      (task ▸ inside e he) k

/-- A submission for a domain that is not known begins its settlement. -/
theorem submit_turnedAway? (o : Office) (s : Submission) :
    (o.turnedAway? s = none ∧ (o.submit s).2.settlements = o.settlements ∧
      (o.submit s).2.booked = o.booked) ∨
    ∃ x, o.turnedAway? s = some x ∧ x.written = [] ∧ x.task = (o.enter s).1 ∧ (o.submit s).2 =
      beginSettlement { (o.enter s).2 with nextNumber := o.nextNumber + 1 } x.number x.task x.purpose
        x.left := by
  rcases o.submit_cases s with ⟨answer, h, trace⟩ | ⟨-, a, handle, h⟩
  · refine .inl ⟨?_, by rw [h], by rw [h]⟩
    rw [turnedAway?, h]
    cases answer with
    | error cause => rfl
    | ok a =>
      obtain ⟨id, handle, x⟩ := a
      obtain ⟨-, ended⟩ := trace _ rfl
      cases ended
      rfl
  · obtain ⟨id, _, x⟩ := a
    cases handle
    rw [turnedAway?, h]
    by_cases unknown : s.domain.isUnroutable
    · exact .inr ⟨_, if_pos unknown, rfl, rfl, if_pos unknown⟩
    · refine .inl ⟨if_neg unknown, ?_, ?_⟩
      · rw [if_neg unknown]
        rfl
      · rw [if_neg unknown]
        funext n
        exact Ledger.settledOf_enter ..

theorem settlements_submit (o : Office) (s : Submission) : (o.submit s).2.settlements =
    o.settlements ++ ((o.turnedAway? s).filter (·.waits)).toList := by
  rcases o.submit_turnedAway? s with ⟨none, same, -⟩ | ⟨x, some, fresh, -, same⟩
  · rw [none, same]
    exact (List.append_nil _).symm
  · rw [some, same]
    exact settlements_beginSettlement x fresh

theorem booked_submit (o : Office) (s : Submission) (k : Nat) : (o.submit s).2.booked k =
    o.booked k ++ finalFor k ((o.turnedAway? s).filter fun s => !s.waits) := by
  rcases o.submit_turnedAway? s with ⟨none, -, same⟩ | ⟨x, some, fresh, task, same⟩
  · rw [none, same]
    exact (List.append_nil _).symm
  · have inside : x.task.ticket < (o.enter s).2.ledger.accounts.length := by
      rw [task]
      simp [enter, Ledger.enter, Task.first]
    rw [some, same, booked_beginSettlement (o := { (o.enter s).2 with nextNumber := o.nextNumber + 1 })
      x fresh inside k]
    exact congrArg (· ++ _) (Ledger.settledOf_enter ..)

end Office

end Postroom
