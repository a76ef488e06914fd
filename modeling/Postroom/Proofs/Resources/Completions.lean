import Postroom.Proofs.Resources.Accounts
import Postroom.Proofs.Resources.Judging

/-!
# Recording an answer, and what hangs on it

When the report of an attempt is taken, its answer is recorded on the address before the permit goes back. The
recording comes to an end whatever the settings, the state of the pool and the time are, but for one case: the answer
would start a cooldown, and the end of it lies beyond the calendar. Then all that was to follow is lost, and the
permit stays taken. In every other case it goes back, and no entry's cooldown is touched unless one starts.

- `AddressPool.Due`, `AddressPool.Cools`: an answer with which a cooldown is due.
- `AddressPool.Recorded`, `AddressPool.recorded`: when a recording is lost, and what it changes.
- `Office.Returned`: a permit is back. `Office.LosesReport`: the reports with which none comes back.
- `Office.Completes`, `Office.recordsAnswers`: what taking a report comes to.
-/

namespace Postroom

namespace AddressPool

/-- With this answer a cooldown of an entry is due: enough failures that count have come together. -/
def Due (c : AddressConfig) (code : Option Nat) (anySuccess : Bool) (s : SourceState) : Prop :=
  anySuccess = false ∧ ∃ threshold, code.bind c.triggers.find? = some threshold ∧ threshold ≤ s.streak + 1

namespace Judged

variable {c : AddressConfig} {now : Int} {code : Option Nat} {s s' : SourceState} {anySuccess : Bool}
  {outcome : Cooldown}

theorem due (h : Judged c now code s anySuccess outcome s') : outcome ≠ .none ↔ Due c code anySuccess s := by
  cases h with
  | success => exact iff_of_false (fun some => some rfl) fun due => Bool.noConfusion due.1
  | other uncounted =>
    refine iff_of_false (fun some => some rfl) ?_
    rintro ⟨-, threshold, trigger, -⟩
    rw [uncounted] at trigger
    cases trigger
  | counted threshold trigger few =>
    refine iff_of_false (fun some => some rfl) ?_
    rintro ⟨-, threshold', trigger', enough⟩
    rw [trigger] at trigger'
    cases trigger'
    exact Nat.not_lt_of_le enough few
  | cooled threshold trigger enough _ => exact iff_of_true Cooldown.noConfusion ⟨rfl, threshold, trigger, enough⟩
  | endless threshold trigger enough _ => exact iff_of_true Cooldown.noConfusion ⟨rfl, threshold, trigger, enough⟩

theorem lost (h : Judged c now code s anySuccess outcome s') :
    outcome = .unrepresentable ↔ Due c code anySuccess s ∧ c.Endless now := by
  rw [← h.due]
  cases h with
  | success | other | counted => exact iff_of_false Cooldown.noConfusion fun both => both.1 rfl
  | cooled _ _ _ ends => exact iff_of_false Cooldown.noConfusion fun both => ends both.2
  | endless _ _ _ endless => exact iff_of_true rfl ⟨Cooldown.noConfusion, endless⟩

theorem starts (h : Judged c now code s anySuccess outcome s') :
    outcome = .started ↔ Due c code anySuccess s ∧ ¬ c.Endless now := by
  rw [← h.due]
  cases h with
  | success | other | counted => exact iff_of_false Cooldown.noConfusion fun both => both.1 rfl
  | cooled _ _ _ ends => exact iff_of_true rfl ⟨Cooldown.noConfusion, ends⟩
  | endless _ _ _ endless => exact iff_of_false Cooldown.noConfusion fun both => both.2 endless

theorem ends (h : Judged c now code s anySuccess outcome s') (started : outcome = .started) :
    s'.cooledUntil = some (now + c.span) ∧ s'.streak = 0 := by
  cases h with
  | cooled => exact ⟨rfl, rfl⟩
  | success | other | counted | endless => cases started

theorem keeps (h : Judged c now code s anySuccess outcome s') (idle : outcome ≠ .started) :
    s'.cooledUntil = s.cooledUntil := by
  cases h with
  | cooled => exact absurd rfl idle
  | success | other | counted | endless => rfl

end Judged

/-- With this answer a cooldown of the entry that the lease is of is due. -/
def Cools (p : AddressPool) (l : Lease) (code : Option Nat) (anySuccess : Bool) : Prop :=
  ∃ e, p.sources[l.index]? = some e ∧ Due p.config code anySuccess e

/-- What recording an answer comes to. -/
structure Recorded (p : AddressPool) (now : Int) (l : Lease) (code : Option Nat) (anySuccess : Bool) : Prop where
  /-- It is lost exactly where a cooldown is due and would have no end. -/
  lost : (p.record now l code anySuccess).1 = .unrepresentable ↔
    p.Cools l code anySuccess ∧ p.config.Endless now
  starts : (p.record now l code anySuccess).1 = .started ↔ p.Cools l code anySuccess ∧ ¬ p.config.Endless now
  /-- A cooldown that starts ends after the time set for it, and with it a new streak begins. -/
  ends : (p.record now l code anySuccess).1 = .started → ∃ e,
    (p.record now l code anySuccess).2.sources[l.index]? = some e ∧
      e.cooledUntil = some (now + p.config.span) ∧ e.streak = 0
  /-- Where none starts, every entry cools down for as long as before. -/
  keeps : (p.record now l code anySuccess).1 ≠ .started →
    (p.record now l code anySuccess).2.sources.map SourceState.cooledUntil = p.sources.map SourceState.cooledUntil
  /-- Other entries are not touched. -/
  apart : ∀ j, l.index ≠ j → (p.record now l code anySuccess).2.sources[j]? = p.sources[j]?

theorem recorded (p : AddressPool) (now : Int) (l : Lease) (code : Option Nat) (anySuccess : Bool) :
    p.Recorded now l code anySuccess := by
  cases he : p.sources[l.index]? with
  | none =>
    have idle : ¬ p.Cools l code anySuccess := by
      rintro ⟨e, some, -⟩
      rw [he] at some
      cases some
    have same : p.record now l code anySuccess = (.none, p) := record_of_none he
    constructor
    case lost => exact iff_of_false (by rw [same]; exact Cooldown.noConfusion) fun both => idle both.1
    case starts => exact iff_of_false (by rw [same]; exact Cooldown.noConfusion) fun both => idle both.1
    case ends =>
      intro started
      rw [same] at started
      cases started
    case keeps => rw [same]; exact fun _ => rfl
    case apart => exact fun j other => getElem?_record_of_ne other
  | some e =>
    have judged := judged p.config now code anySuccess e
    have entry : (p.record now l code anySuccess).2.sources[l.index]? =
        some (judge p.config now code anySuccess e).2 := getElem?_record_self he
    have same : p.record now l code anySuccess = ((judge p.config now code anySuccess e).1,
        { p with sources := p.sources.set l.index (judge p.config now code anySuccess e).2 }) := record_of_entry he
    have cools : p.Cools l code anySuccess ↔ Due p.config code anySuccess e := by
      refine ⟨?_, fun due => ⟨e, he, due⟩⟩
      rintro ⟨e', he', due⟩
      rw [he] at he'
      cases he'
      exact due
    constructor
    case lost => rw [cools, same]; exact judged.lost
    case starts => rw [cools, same]; exact judged.starts
    case ends =>
      intro started
      rw [same] at started
      exact ⟨_, entry, judged.ends started⟩
    case keeps =>
      intro idle
      rw [same] at idle ⊢
      -- the entry is set to one that cools down as it did
      obtain ⟨inside, rfl⟩ := List.getElem?_eq_some_iff.1 he
      rw [List.map_set, judged.keeps idle, ← List.getElem_map SourceState.cooledUntil (h := by simpa using inside),
        List.set_getElem_self]
    case apart => exact fun j other => getElem?_record_of_ne other

end AddressPool

namespace Office

variable {o o' o'' : Office} {n : Nat} {a : Attempt} {p : Permit}

/-- What permits are taken from. -/
def stock (o : Office) : AddressPool × SlotGroups := (o.pool, o.slots)

theorem stock_of_frame (h : o'.frame = o.frame) : o'.stock = o.stock := by
  have part : ∀ o : Office, o.stock = o.frame.stock := fun _ => rfl
  rw [part, h, ← part]

theorem stock_attemptFinished (t : Task) : (o.attemptFinished t).stock = o.stock := by
  unfold attemptFinished
  split <;> rfl

theorem stock_failAttempt (t : Task) (cause : Fault) : (o.failAttempt t cause).stock = o.stock :=
  stock_of_frame (o := { o with registry := o.registry.noteEnd (endedByFault t cause) })
    (frame_failAttempt t cause)

theorem stock_beginSettlement (n : Nat) (t : Task) (purpose : Purpose) (results : List RecipientResult) :
    (o.beginSettlement n t purpose results).stock = o.stock := by
  unfold beginSettlement
  split
  · cases purpose with
    | attempt kept =>
      refine (stock_attemptFinished t).trans ?_
      exact stock_of_frame (frame_conclusionOfAttempt (o := o.settle t results) t kept)
    | expiry => exact stock_of_frame (frame_complete t)
    | unroutable => exact stock_of_frame (frame_complete t)
  · rfl

theorem stock_close (o : Office) (a : Attempt) : (o.close a).stock = o.stock := by
  obtain ⟨inFlight, metrics, rest⟩ := o.close_rest a
  rw [rest]
  rfl

/-- A permit is back: of each count that it stands in, there is one less. -/
structure Returned (o : Office) (p : Permit) (o' : Office) : Prop where
  leases : ∀ i d, o'.pool.leasesAt i d =
    o.pool.leasesAt i d - if p.lease.index = i ∧ p.lease.domain = d then 1 else 0
  total : ∀ i, o'.pool.totalAt i = o.pool.totalAt i - if p.lease.index = i then 1 else 0
  slots : ∀ k, o'.slots.inUse k = o.slots.inUse k - if p.slot = some k ∧ (o.slots.limit k).isSome then 1 else 0
  limit : o'.slots.limit = o.slots.limit

theorem returned_releasePermit (o : Office) (p : Permit) : o.Returned p (o.releasePermit p) where
  leases := o.pool.leasesAt_release p.lease
  total := o.pool.totalAt_release p.lease
  slots := congrFun (o.slots_releasePermit p).2
  limit := (o.slots_releasePermit p).1

/-- Only what permits are taken from matters. -/
theorem Returned.congr (h : o.Returned p o') {x x' : Office} (before : x.stock = o.stock)
    (after : x'.stock = o'.stock) : x.Returned p x' := by
  obtain ⟨pool, slots⟩ := Prod.mk.inj before
  obtain ⟨pool', slots'⟩ := Prod.mk.inj after
  constructor
  case leases => rw [pool, pool']; exact h.leases
  case total => rw [pool, pool']; exact h.total
  case slots => rw [slots, slots']; exact h.slots
  case limit => rw [slots, slots']; exact h.limit

/-- What follows from the report of an attempt is lost: a cooldown is due that would have no end. -/
def LosesReport (o : Office) (a : Attempt) : Report → Prop
  | .ok outcome => o.pool.Cools a.permit.lease outcome.statusCode outcome.anySuccess ∧ o.pool.config.Endless o.now
  | .error _ => False

theorem loses_iff {outcome : Outcome} : o.loses a outcome ↔ o.LosesReport a (.ok outcome) :=
  decide_eq_true_iff.trans (o.pool.recorded o.now a.permit.lease outcome.statusCode outcome.anySuccess).lost

/-- What taking the report of an attempt comes to. -/
structure Completes (o : Office) (n : Nat) (a : Attempt) (report : Report) : Prop where
  /-- Where nothing is lost, the permit goes back. -/
  back : ¬ o.LosesReport a report → o.Returned a.permit (o.collect n)
  /-- Else it stays taken, its run is counted as running, and the batch is let go of without being counted. -/
  lost : o.LosesReport a report → (o.collect n).pool.leasesAt = o.pool.leasesAt ∧
    (o.collect n).pool.totalAt = o.pool.totalAt ∧ (o.collect n).slots = o.slots ∧
    (o.collect n).registry = o.registry ∧ (o.collect n).daily = o.daily ∧
    (o.collect n).ledger = o.ledger.resolve a.task.ticket (.error .cancelled)

/-- An answer is taken when its attempt was closed. -/
theorem collect_of_answer {outcome : Outcome} (found : o.attempt? n = some a)
    (reported : a.report = some (.ok outcome)) : o.collect n = (o.close a).settleOutcome a outcome := by
  obtain rfl : a.number = n := Numbered.number_of_found found
  simp only [collect, found, reported]
  rfl

theorem loses_close (outcome : Outcome) : (o.close a).loses a outcome = o.loses a outcome := by
  obtain ⟨inFlight, metrics, rest⟩ := o.close_rest a
  rw [rest]
  rfl

/-- Where what follows is lost, only the attempt and its batch are gone. -/
theorem collect_of_lost {outcome : Outcome} (found : o.attempt? n = some a)
    (reported : a.report = some (.ok outcome)) (lost : o.loses a outcome) : ∃ inFlight metrics, o.collect n =
      { o with
        attempts := o.attempts.filter (·.number ≠ n)
        inFlight := inFlight
        metrics := metrics
        pool := (o.pool.record o.now a.permit.lease outcome.statusCode outcome.anySuccess).2
        ledger := o.ledger.resolve a.task.ticket (.error .cancelled) } := by
  obtain rfl : a.number = n := Numbered.number_of_found found
  obtain ⟨inFlight, metrics, rest⟩ := o.close_rest a
  rw [← loses_close] at lost
  rw [collect_of_answer found reported, settleOutcome_eq, if_pos lost, rest]
  exact ⟨inFlight, metrics, rfl⟩

theorem completes_failure {cause : Fault} (found : o.attempt? n = some a)
    (reported : a.report = some (.error cause)) : o.Completes n a (.error cause) where
  back _ := by
    obtain rfl : a.number = n := Numbered.number_of_found found
    have ended : (o.collect a.number).stock = ((o.close a).releasePermit a.permit).stock := by
      simp only [collect, found, reported]
      exact (stock_attemptFinished a.task).trans (stock_failAttempt a.task cause)
    exact ((o.close a).returned_releasePermit a.permit).congr (o.stock_close a).symm ended
  lost none := none.elim

theorem completes_answer {outcome : Outcome} (found : o.attempt? n = some a)
    (reported : a.report = some (.ok outcome)) : o.Completes n a (.ok outcome) where
  back kept := by
    rw [← loses_iff, ← loses_close] at kept
    rw [collect_of_answer found reported, settleOutcome_eq, if_neg kept]
    have settled : (beginSettlement ((o.close a).answer a outcome) a.number a.task
        ((o.close a).settlementOf a outcome).purpose ((o.close a).settlementOf a outcome).left).stock =
        ((o.close a).answer a outcome).stock := stock_beginSettlement _ _ _ _
    -- q is the office in which the permit goes back, once the answer is recorded
    let q : Office := { o.close a with
      pool := ((o.close a).pool.record (o.close a).now a.permit.lease outcome.statusCode outcome.anySuccess).2 }
    have back := (q.returned_releasePermit a.permit).congr (x := q) rfl settled
    obtain ⟨pool, slots⟩ := Prod.mk.inj (o.stock_close a)
    constructor
    case leases =>
      intro i d
      rw [back.leases, AddressPool.leasesAt_record, pool]
    case total =>
      intro i
      rw [back.total, AddressPool.totalAt_record, pool]
    case slots =>
      intro k
      rw [back.slots]
      exact slots ▸ rfl
    case limit => exact back.limit.trans (congrArg SlotGroups.limit slots)
  lost lost := by
    obtain ⟨inFlight, metrics, rest⟩ := collect_of_lost found reported (loses_iff.2 lost)
    rw [rest]
    refine ⟨?_, ?_, rfl, rfl, rfl, rfl⟩
    · funext i d
      exact o.pool.leasesAt_record o.now a.permit.lease outcome.statusCode outcome.anySuccess i d
    · exact funext (o.pool.totalAt_record o.now a.permit.lease outcome.statusCode outcome.anySuccess)

/-- Every recording comes to what was said, with any settings, in any state of the pool and at any time; and every
report that is taken gives its permit back, unless a cooldown is due that would have no end. -/
theorem recordsAnswers (o : Office) :
    (∀ now l code anySuccess, o.pool.Recorded now l code anySuccess) ∧
      ∀ n a report, o.attempt? n = some a → a.report = some report → o.Completes n a report := by
  refine ⟨o.pool.recorded, ?_⟩
  intro n a report found reported
  cases report with
  | error cause => exact completes_failure found reported
  | ok outcome => exact completes_answer found reported

/-- The office in which a server has put off the session of `parcel`, where a cooldown takes so many seconds. -/
def putOff (seconds : Nat) : Office :=
  ((World.opening { World.oneSlot with addresses := { cooldownSeconds := seconds } } 4 0).run
    [.register ⟨⟨"job"⟩, 1⟩, .submit World.parcel, .tick, .sendEnded 0 (.ok { sessionFailure := some 421 })]).office

/-- The attempt at `parcel`. -/
def parcelAnswered : Attempt :=
  ⟨0, World.parcel.task 0, ⟨⟨0, .v4 [0, 0, 0, 0], ⟨"example.org"⟩⟩, some .bulk⟩,
    some (.ok { sessionFailure := some 421 })⟩

/-- A minute has an end, and the slot goes back; a cooldown of the greatest length has none, and the slot stays
taken. -/
theorem recordsAnswers_putOff :
    (putOff 60).attempt? 0 = some parcelAnswered ∧
      (putOff 60).Returned parcelAnswered.permit ((putOff 60).collect 0) ∧
      ((putOff 60).collect 0).slots.inUse .bulk = 0 ∧
      (putOff 18446744073709551615).LosesReport parcelAnswered (.ok { sessionFailure := some 421 }) ∧
      ((putOff 18446744073709551615).collect 0).slots.inUse .bulk = 1 := by
  have reported : parcelAnswered.report = some (.ok { sessionFailure := some 421 }) := rfl
  have kept : ¬ (putOff 60).loses parcelAnswered { sessionFailure := some 421 } := by decide
  have lost : (putOff 18446744073709551615).loses parcelAnswered { sessionFailure := some 421 } := by decide
  have short := (recordsAnswers (putOff 60)).2 0 parcelAnswered _ rfl reported
  have long := (recordsAnswers (putOff 18446744073709551615)).2 0 parcelAnswered _ rfl reported
  obtain ⟨-, -, slots, -⟩ := long.lost (loses_iff.1 lost)
  refine ⟨rfl, short.back fun loses => kept (loses_iff.2 loses), by decide, loses_iff.1 lost, ?_⟩
  rw [slots]
  decide

end Office

end Postroom
