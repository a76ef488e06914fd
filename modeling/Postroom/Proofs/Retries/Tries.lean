import Postroom.Proofs.Executions
import Postroom.Proofs.Retries.MovesOn

/-!
# How often a batch is tried

A batch is tried when an attempt at it starts, and when its wait for resources runs out and costs a retry. Each
time its level becomes greater, and nothing lowers it. As no live task has more retries than the settings allow, a
batch is tried at most once more than that.

- `Ticking.tries`, `World.triesAlong`: how often a batch is tried by executions, and along a history.
- `World.Tried`: the invariant. `World.Tried.served`, `World.Tried.after`: what a tick, and what any happening, adds
  to the tries of a batch. `World.Tried.run`: what a history adds.
-/

namespace Postroom

namespace Office

/-- To execute `t` costs a retry, since its wait for resources has run out. -/
def escalates (o : Office) (t : Task) : Bool :=
  (o.acquire? t).isNone && match (o.shortage t).1 with
    | .retried => true
    | _ => false

/-- How often `t` is tried when it is executed. -/
def tries (o : Office) (t : Task) : Nat := (o.attemptOf t).toList.length + (o.escalates t).toNat

variable {o : Office} {t : Task}

/-- Either an attempt starts, or a wait costs a retry, or neither. -/
theorem tries_cases (o : Office) (t : Task) : (∃ a, o.attemptOf t = some a ∧ o.tries t = 1) ∨
    (o.escalates t ∧ o.tries t = 1) ∨ o.tries t = 0 := by
  cases attempt : o.attemptOf t with
  | some a =>
    have acquired : (o.acquire? t).isNone = false := by
      unfold attemptOf at attempt
      split at attempt
      · next taken _ => rw [taken, Option.isNone_some]
      · cases attempt
    refine .inl ⟨a, rfl, ?_⟩
    rw [tries, attempt, escalates, acquired, Bool.false_and]
    rfl
  | none =>
    cases short : o.escalates t with
    | true =>
      refine .inr (.inl ⟨rfl, ?_⟩)
      rw [tries, attempt, short]
      rfl
    | false =>
      refine .inr (.inr ?_)
      rw [tries, attempt, short]
      rfl

theorem movesOn_execute (unended : o.ledger.isOpen t.ticket) (escalates : o.escalates t) :
    (o.execute t).2.MovesOn t := by
  obtain ⟨none, retried⟩ := Bool.and_eq_true_iff.1 escalates
  have acquired : o.acquire? t = .none := Option.isNone_iff_eq_none.1 none
  rcases short : o.shortage t with ⟨s, o'⟩
  rw [short] at retried
  cases s with
  | retried =>
    simp only [execute_eq, acquired, short]
    exact movesOn_shortage unended short
  | requeued delay => cases retried
  | expired u => cases retried

/-- A wait costs a retry only where one is left. -/
theorem lt_maxRetries_of_escalates (escalates : o.escalates t) : t.retries < o.config.retry.maxRetries := by
  obtain ⟨-, retried⟩ := Bool.and_eq_true_iff.1 escalates
  unfold shortage waitSince at retried
  dsimp only at retried
  split at retried
  · next short =>
    split at short
    · cases short
    · split at short
      · next budget => exact of_decide_eq_true budget
      · cases short
  · cases retried

end Office

/-- How often the batch of a ticket is tried by executions: the attempts at it that they start, and the waits that
cost it a retry. -/
def Ticking.tries (n : Nat) (ps : List (Office × Task)) : Nat :=
  (ps.filterMap fun p => p.1.attemptOf p.2).countP (·.task.ticket = n) +
    ps.countP fun p => p.2.ticket = n && p.1.escalates p.2

theorem Ticking.tries_cons (n : Nat) (o : Office) (t : Task) (ps : List (Office × Task)) :
    tries n ((o, t) :: ps) = (if t.ticket = n then o.tries t else 0) + tries n ps := by
  have started : (((o, t) :: ps).filterMap fun p => p.1.attemptOf p.2).countP (·.task.ticket = n) =
      (if t.ticket = n then (o.attemptOf t).toList.length else 0) +
        (ps.filterMap fun p => p.1.attemptOf p.2).countP (·.task.ticket = n) := by
    cases attempt : o.attemptOf t with
    | none => simp [attempt]
    | some a =>
      have task : a.task = t := Office.task_attemptOf attempt
      have first : ((o, t) :: ps).filterMap (fun p => p.1.attemptOf p.2) =
          a :: ps.filterMap fun p => p.1.attemptOf p.2 := List.filterMap_cons_some attempt
      rw [first, List.countP_cons, task, Nat.add_comm]
      by_cases same : t.ticket = n <;> simp [same]
  rw [tries, started, List.countP_cons, Ticking.tries, Office.tries]
  by_cases same : t.ticket = n
  · rw [if_pos same, if_pos same]
    cases o.escalates t <;> simp [same] <;> omega
  · simp [same]

namespace World

open Custody Office

/-- How often the batch of a ticket is tried when something happens: the attempts at it that start, and the waits
that cost it a retry. -/
def triesOf (w : World) (h : Happening) (n : Nat) : Nat :=
  (w.started h).countP (·.task.ticket = n) + (w.executed h).countP fun p => p.2.ticket = n && p.1.escalates p.2

/-- How often the batch of a ticket is tried along a history. -/
def triesAlong : World → List Happening → Nat → Nat
  | _, [], _ => 0
  | w, h :: hs, n => w.triesOf h n + triesAlong (w.after h) hs n

variable {w w' : World} {g : Config} {h : Happening} {n k : Nat}

/-- With settings `g`, a batch that was tried `k` times is not below that level. -/
structure Tried (w : World) (g : Config) (n k : Nat) : Prop where
  level : ∀ x ∈ w.holdings, x.task.ticket = n → k ≤ x.level
  within : k ≤ g.retry.maxRetries + 1
  known : k ≠ 0 → n < w.office.ledger.accounts.length

/-- A live task of a batch that is not new comes from one before. -/
theorem live_of_leads {R : Task → Outcome → Prop} (leads : Leads R w.custody w'.custody)
    (owned : w.custody.Owned) {y : Holding} (hy : y ∈ w'.holdings)
    (known : y.task.ticket < w.office.ledger.accounts.length) :
    ∃ x ∈ w.holdings, x.task.ticket = y.task.ticket := by
  have unended : w.office.ledger.isOpen y.task.ticket := by
    refine Ledger.isOpen_iff.2 ⟨known, ?_⟩
    cases ended : w.office.ledger.verdict? y.task.ticket with
    | none => rfl
    | some v =>
      have still : w'.office.ledger.verdict? y.task.ticket = some v := leads.verdict? ended
      have unended := (Ledger.isOpen_iff.1 (isOpen_of_live (owned.leads leads) hy)).2
      rw [still] at unended
      cases unended
  have one := length_heldOf owned y.task.ticket
  rw [if_pos unended] at one
  obtain ⟨x, hx⟩ := List.length_eq_one_iff.1 one
  have held : x ∈ w.heldOf y.task.ticket := hx ▸ List.mem_singleton_self x
  exact ⟨x, mem_heldOf.1 held⟩

/-- Where no level becomes less, a batch remains tried as often. -/
theorem Tried.kept {R : Task → Outcome → Prop} (tried : w.Tried g n k) (leads : Leads R w.custody w'.custody)
    (owned : w.custody.Owned)
    (rises : ∀ x ∈ w.holdings, ∀ y ∈ w'.holdings, y.task.ticket = x.task.ticket → x.level ≤ y.level) :
    w'.Tried g n k := by
  refine ⟨fun y hy ticket => ?_, tried.within, fun some => ?_⟩
  · by_cases none : k = 0
    · exact none ▸ Nat.zero_le _
    · obtain ⟨x, hx, same⟩ := live_of_leads leads owned hy (ticket ▸ tried.known none)
      exact (tried.level x hx (same.trans ticket)).trans (rises x hx y hy same.symm)
  · exact (tried.known some).trans_le leads.length_le

/-- Where all that is under way stays so, a batch remains tried as often. -/
theorem Tried.carried {R : Task → Outcome → Prop} (tried : w.Tried g n k)
    (leads : Leads R w.custody w'.custody) (owned : w.custody.Owned)
    (attempts : ∀ a ∈ w.office.attempts, a ∈ w'.office.attempts)
    (settlements : w'.office.settlements = w.office.settlements) : w'.Tried g n k := by
  refine tried.kept leads owned fun x hx y hy same => level_le_of_leads leads owned (fun runs => ?_) hx hy same
  refine ⟨x, ?_, runs, rfl⟩
  cases x with
  | attempt a => exact mem_holdings_attempt.2 (attempts a (mem_holdings_attempt.1 hx))
  | settlement s =>
    refine mem_holdings_settlement.2 ?_
    rw [settlements]
    exact mem_holdings_settlement.1 hx
  | _ => cases runs

/-! ### Ticks -/

section Executing

variable {o o' : Office} {t : Task}

/-- A world in which `t` is in the hands of a tick, in the office `o`. -/
def holding (w : World) (o : Office) (t : Task) : World :=
  { w with office := o, outside := t :: w.outside }

theorem mem_holding (w : World) (o : Office) (t : Task) : .outside t ∈ (w.holding o t).holdings :=
  List.mem_append_left _ List.mem_cons_self

theorem leads_executed {R : Task → Outcome → Prop} (w : World) (o : Office) (t : Task) :
    Leads R (w.holding o t).custody ({ w with office := (o.execute t).2 } : World).custody :=
  leads_execute (o := o) (e := w.entered) (H := ↑(w.outside.map Holding.outside)) t

/-- The level of a batch rises as often as it is tried. -/
theorem level_le_execute (owned : (w.holding o t).custody.Owned) {y : Holding}
    (hy : y ∈ ({ w with office := (o.execute t).2 } : World).holdings) (same : y.task.ticket = t.ticket) :
    t.retries + o.tries t ≤ y.level := by
  have leads := leads_executed (R := fun _ _ => True) w o t
  have owned' := owned.leads leads
  have live := mem_holding w o t
  rcases o.tries_cases t with ⟨a, attempt, one⟩ | ⟨escalates, one⟩ | none
  · -- the attempt is what is live of the batch
    have started : a ∈ (o.execute t).2.attempts := by
      rw [attempts_execute, attempt]
      exact List.mem_append_right _ List.mem_cons_self
    have task : a.task = t := task_attemptOf attempt
    obtain rfl := eq_of_ticket owned' hy (mem_holdings_attempt.2 started)
      (same.trans (congrArg Task.ticket task).symm)
    rw [one]
    exact le_of_eq (congrArg (·.retries + 1) task.symm)
  · have unended : o.ledger.isOpen t.ticket := isOpen_of_live owned live
    rw [one]
    exact lt_level_of_movesOn owned' (movesOn_execute unended escalates) hy same
  · rw [none]
    have fewer : t.retries ≤ y.task.retries := leads.retries_le owned (mem_live.2 live) (mem_live.2 hy) same
    rw [Holding.level]
    omega

theorem Tried.executed (tried : (w.holding o t).Tried g n k) (owned : (w.holding o t).custody.Owned)
    (within : t.retries ≤ g.retry.maxRetries) :
    ({ w with office := (o.execute t).2 } : World).Tried g n
      (k + if t.ticket = n then o.tries t else 0) := by
  have leads := leads_executed (R := fun _ _ => True) w o t
  have live := mem_holding w o t
  by_cases same : t.ticket = n
  · rw [if_pos same]
    have below : k ≤ t.retries := tried.level _ live same
    have known : t.ticket < o.ledger.accounts.length := Ledger.lt_of_isOpen (isOpen_of_live owned live)
    refine ⟨fun y hy ticket => ?_, ?_, fun _ => ?_⟩
    · have risen := level_le_execute owned hy (ticket.trans same.symm)
      omega
    · have once : o.tries t ≤ 1 := by
        rcases o.tries_cases t with ⟨a, -, one⟩ | ⟨-, one⟩ | none <;> omega
      omega
    · exact same ▸ known.trans_le leads.length_le
  · rw [if_neg same]
    refine tried.carried leads owned (fun a ha => ?_) (settlements_execute t)
    show a ∈ (o.execute t).2.attempts
    rw [attempts_execute]
    exact List.mem_append_left _ ha

/-- Whatever is executed comes into the hands of the tick by a chain of changes. -/
theorem leads_of_serves {R : Task → Outcome → Prop} {ps : List (Office × Task)}
    (serves : Ticking.Serves o ps o') : ∀ p ∈ ps,
      Leads R ({ w with office := o } : World).custody (w.holding p.1 p.2).custody := by
  induction serves with
  | done o =>
    intro p hp
    cases hp
  | @drop o p o'' bulk m excluded t r ps next invalid rest ih =>
    have leads : Leads R ({ w with office := o } : World).custody
        ({ w with office := p.fail t r.cause } : World).custody := leads_turn (.drop next invalid)
    exact fun q hq => leads.trans (ih q hq)
  | @execute o p o'' bulk m excluded t ps next valid rest ih =>
    have taken : Leads R ({ w with office := o } : World).custody (w.holding p t).custody :=
      leads_nextTask? next
    intro q hq
    rcases List.mem_cons.1 hq with rfl | hq
    · exact taken
    · exact taken.trans ((leads_executed w p t).trans (ih q hq))

/-- Turns of a tick add to the level of a batch as often as they try it. -/
theorem Tried.served {ps : List (Office × Task)} (serves : Ticking.Serves o ps o')
    (tried : ({ w with office := o } : World).Tried g n k)
    (owned : ({ w with office := o } : World).custody.Owned)
    (patient : ({ w with office := o } : World).custody.Patient g) :
    ({ w with office := o' } : World).Tried g n (k + Ticking.tries n ps) := by
  induction serves generalizing k with
  | done o => exact tried
  | @drop o p o'' bulk m excluded t r ps next invalid rest ih =>
    have leads : Leads (Task.SentBySession g.recipients) ({ w with office := o } : World).custody
        ({ w with office := p.fail t r.cause } : World).custody := leads_turn (.drop next invalid)
    have frame : (p.fail t r.cause).frame = o.frame := (frame_fail t r.cause).trans (frame_nextTask? next)
    refine ih ?_ (owned.leads leads) (patient.leads leads owned)
    refine tried.carried leads owned (fun a ha => ?_) (congrArg (·.settlements) frame)
    exact (congrArg (·.attempts) frame).symm ▸ ha
  | @execute o p o'' bulk m excluded t ps next valid rest ih =>
    -- first the task comes into the hands, then it is executed
    have taken : Leads (Task.SentBySession g.recipients) ({ w with office := o } : World).custody
        (w.holding p t).custody := leads_nextTask? next
    have executed := leads_executed (R := Task.SentBySession g.recipients) w p t
    have frame : p.frame = o.frame := frame_nextTask? next
    have ownedTaken := owned.leads taken
    have patientTaken := patient.leads taken owned
    have triedTaken : (w.holding p t).Tried g n k := by
      refine tried.carried taken owned (fun a ha => ?_) (congrArg (·.settlements) frame)
      exact (congrArg (·.attempts) frame).symm ▸ ha
    have within : t.retries ≤ g.retry.maxRetries :=
      patientTaken.within _ (mem_live.2 (mem_holding w p t))
    rw [Ticking.tries_cons, ← Nat.add_assoc]
    exact ih (triedTaken.executed ownedTaken within) (ownedTaken.leads executed)
      (patientTaken.leads executed ownedTaken)

end Executing

/-! ### Happenings and histories -/

/-- What a happening adds to the tries of a batch. -/
theorem Tried.after (tried : w.Tried g n k) (regular : w.custody.Regular) (owned : w.custody.Owned)
    (patient : w.custody.Patient g) (h : Happening) : (w.after h).Tried g n (k + w.triesOf h n) := by
  have kept : (w.after h).Tried g n k :=
    tried.kept (leads_after (R := fun _ _ => True) regular (fits_true w h)) owned
      fun x hx y hy same => level_le_after regular owned hx hy same
  cases h with
  | tick =>
    let o : Office := { w.office with hold := w.office.bulkBudget.2 }
    have begun : ({ w with office := o } : World).Tried g n k := ⟨tried.level, tried.within, tried.known⟩
    exact begun.served (Ticking.serves w.office.bulkBudget.1 w.office.lanes.total { office := o }) owned patient
  | turns bulk m report bulkStarted excluded =>
    exact tried.served (Ticking.serves bulk m
      { office := w.office, report := report, bulkStarted := bulkStarted, excluded := excluded }) owned patient
  | _ => exact kept

/-- Whatever a happening executes comes into hands by a chain of changes. -/
theorem leads_of_executed {R : Task → Outcome → Prop} {p : Office × Task} (hp : p ∈ w.executed h) :
    Leads R w.custody (w.holding p.1 p.2).custody := by
  obtain ⟨_, serves⟩ := serves_of_executed hp
  exact leads_of_serves serves p hp

theorem Tried.run {hs : List Happening} (tried : w.Tried g n k) (regular : w.custody.Regular)
    (owned : w.custody.Owned) (patient : w.custody.Patient g)
    (fits : Along (Fits (Task.SentBySession g.recipients)) w hs) :
    (w.run hs).Tried g n (k + w.triesAlong hs n) := by
  induction hs generalizing w k with
  | nil => exact tried
  | cons h hs ih =>
    have leads := leads_after regular fits.1
    rw [triesAlong, ← Nat.add_assoc]
    exact ih (tried.after regular owned patient h) (regular.leads leads) (owned.leads leads)
      (patient.leads leads owned) fits.2

theorem tried_opening (config : Config) (workers : Nat) (wall : Calendar.Moment) :
    (opening config workers wall).Tried config n 0 :=
  ⟨fun _ _ _ => Nat.zero_le _, Nat.zero_le _, fun some => absurd rfl some⟩

end World

end Postroom
