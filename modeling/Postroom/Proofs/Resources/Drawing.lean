import Postroom.Office.Submission
import Postroom.Proofs.Frame
import Postroom.Proofs.Numbered
import Postroom.Proofs.Resources.Usage
import Postroom.Proofs.Ticks

/-!
# What the office does with resources

Each operation of an office as a chain of steps of its resources. Most leave them alone; attempts take them
when they start and give them back when their reports are taken.

- `Office.usage`: the counters of an office with its attempts. The tasks of attempts whose report is being
  worked on at the moment are added by hand.
- `usage_of_frame`: an operation that leaves the frame alone leaves the resources alone.
- `draws_execute` and the like: the steps of an operation that does not.
-/

namespace Postroom

/-- The task of an attempt that goes on while its results are recorded; none for other results. -/
def Purpose.underWay (p : Purpose) (t : Task) : List Task :=
  match p with
  | .attempt _ => [t]
  | .expiry | .unroutable => []

namespace Office

open Usage

/-- The tasks of the attempts whose results are being recorded. -/
def settling (o : Office) : List Task := o.settlements.flatMap fun s => s.purpose.underWay s.task

/-- The counters of an office and what they count, where `S` are the tasks of attempts in the hands. -/
def usage (o : Office) (S : Multiset Task) : Usage where
  addresses := o.pool.config
  limit := o.slots.limit
  size := o.workers.size
  inFlight := o.inFlight.get
  leases := o.pool.leasesAt
  total := o.pool.totalAt
  slots := o.slots.inUse
  running := o.registry.runningAttempts
  sending := ↑o.workers.running
  attempts := ↑o.attempts
  settling := S + ↑o.settling

variable {o o' : Office} {S : Multiset Task}

/-! ### Operations that leave the resources alone -/

/-- The resources are part of the frame. -/
theorem usage_of_frame (h : o'.frame = o.frame) : o'.usage S = o.usage S := by
  have part : ∀ o : Office, o.usage S = o.frame.usage S := fun _ => rfl
  rw [part, h, ← part]

/-- Records of ended runs are no resources. -/
theorem usage_of_noteEnd {e : Option (Runner × Fault)}
    (h : o'.frame = frame { o with registry := o.registry.noteEnd e }) : o'.usage S = o.usage S := by
  have running : (o.registry.noteEnd e).runningAttempts = o.registry.runningAttempts := by
    funext id
    rw [Registry.runningAttempts, Registry.running_noteEnd]
    rfl
  refine (usage_of_frame h).trans ?_
  simp only [usage, running]
  rfl

/-! ### The start of an attempt -/

/-- All that taking the resources of a task does. -/
structure Granted (o : Office) (t : Task) (p : Permit) (o' : Office) : Prop where
  slot : p.slot = t.slotNeeded o.slots.limit
  room : ∀ k bound, p.slot = some k → o.slots.limit k = some bound → o.slots.inUse k < bound
  lease : o.pool.Acquired t.domain p.lease o'.pool
  rest : o' = { o with slots := o'.slots, pool := o'.pool, waits := o'.waits }
  usage : ∀ S, o'.usage S = { o.usage S with
    leases := fun i d => o.pool.leasesAt i d +
      if p.lease.index = i ∧ p.lease.domain = d then 1 else 0
    total := fun i => o.pool.totalAt i + if p.lease.index = i then 1 else 0
    slots := fun k => o.slots.inUse k + if p.slot = some k then 1 else 0 }

/-- What taking a slot does. -/
theorem acquireSlot?_spec {t : Task} {slot : Option TrafficClass} {slots : SlotGroups}
    (h : o.acquireSlot? t = some (slot, slots)) :
    slot = t.slotNeeded o.slots.limit ∧ slots.limit = o.slots.limit ∧
      (∀ k bound, slot = some k → o.slots.limit k = some bound → o.slots.inUse k < bound) ∧
      ∀ k, slots.inUse k = o.slots.inUse k + if slot = some k then 1 else 0 := by
  unfold acquireSlot? at h
  split at h
  · next needed =>
    obtain ⟨g, hg, he⟩ := Option.map_eq_some_iff.1 h
    cases he
    have limited := (Bool.and_eq_true _ _ ▸ needed).2
    refine ⟨(if_pos needed).symm, ?_, ?_, ?_⟩
    · funext k
      exact SlotGroups.limit_of_acquire? hg k
    · intro k bound hk hb
      cases hk
      exact SlotGroups.lt_of_acquire? hg hb
    · intro k
      rw [SlotGroups.inUse_of_acquire? hg]
      simp [limited]
  · next unneeded =>
    cases h
    refine ⟨(if_neg unneeded).symm, rfl, ?_, ?_⟩
    · intro k bound hk
      cases hk
    · intro k
      rw [if_neg nofun, Nat.add_zero]

theorem granted_of_acquire? {t : Task} {p : Permit} (h : o.acquire? t = some (p, o')) :
    Granted o t p o' := by
  obtain ⟨⟨slot, slots⟩, hs, h⟩ := Option.bind_eq_some_iff.1 h
  obtain ⟨⟨lease, pool⟩, hl, h⟩ := Option.bind_eq_some_iff.1 h
  cases h
  obtain ⟨needed, limit, room, inUse⟩ := acquireSlot?_spec hs
  have acquired := AddressPool.acquired_of_acquire? _ hl
  refine ⟨needed, room, acquired, rfl, fun S => ?_⟩
  have leases : pool.leasesAt = fun i d => o.pool.leasesAt i d +
      if lease.index = i ∧ lease.domain = d then 1 else 0 := by
    funext i d
    rw [acquired.leasesAt, acquired.domain]
  simp only [usage, leases, limit, acquired.config, funext acquired.totalAt, funext inUse]
  rfl

/-! ### Giving back -/

theorem usage_countEnd (l : Lane) : (o.countEnd l).usage S = (o.usage S).land l := by
  have less : (fun l' => o.inFlight.get l' - if l = l' then 1 else 0) =
      (o.inFlight.modify l (· - 1)).get := by
    funext l'
    rw [PerLane.get_modify]
    split <;> rfl
  unfold countEnd
  split
  · next none =>
    -- nothing is in flight there: to take one from zero changes nothing
    have same : (fun l' => o.inFlight.get l' - if l = l' then 1 else 0) = o.inFlight.get := by
      funext l'
      split
      · next h => rw [← h, none]
      · rfl
    rw [land]
    simp only [usage, same]
  · rw [land]
    simp only [usage, less]
    rfl

/-- The slots after a permit was given back. -/
theorem slots_releasePermit (p : Permit) : (o.releasePermit p).slots.limit = o.slots.limit ∧
    (o.releasePermit p).slots.inUse = fun k =>
      o.slots.inUse k - if p.slot = some k ∧ (o.slots.limit k).isSome then 1 else 0 := by
  obtain ⟨lease, slot⟩ := p
  cases slot with
  | none => exact ⟨rfl, funext fun k => by simp [releasePermit]⟩
  | some t =>
    refine ⟨funext (o.slots.limit_release t), funext fun k => ?_⟩
    refine (o.slots.inUse_release t k).trans ?_
    by_cases h : t = k
    · subst h
      simp [SlotGroups.isLimited]
    · simp [h]

theorem usage_releasePermit (p : Permit) :
    (o.releasePermit p).usage S = (o.usage S).release p := by
  have leases : (o.releasePermit p).pool.leasesAt = fun i d => o.pool.leasesAt i d -
      if p.lease.index = i ∧ p.lease.domain = d then 1 else 0 := by
    funext i d
    exact o.pool.leasesAt_release p.lease i d
  have total : (o.releasePermit p).pool.totalAt = fun i => o.pool.totalAt i -
      if p.lease.index = i then 1 else 0 := funext (o.pool.totalAt_release p.lease)
  obtain ⟨limit, inUse⟩ := o.slots_releasePermit p
  simp only [usage, leases, total, limit, inUse]
  rfl

theorem usage_attemptFinished (t : Task) : (o.attemptFinished t).usage S = (o.usage S).finish t := by
  unfold attemptFinished
  split
  · next id hid =>
    have running : (o.registry.attemptFinished id).runningAttempts = fun id' =>
        o.registry.runningAttempts id' - if t.runnerId = some id' then 1 else 0 := by
      funext id'
      simp [Registry.runningAttempts_attemptFinished, hid]
    simp only [usage, Usage.finish, running]
    rfl
  · next none =>
    simp only [usage, Usage.finish, none]
    rfl

theorem usage_attemptStarted (t : Task) : (o.attemptStarted t).usage S = { o.usage S with
    running := fun id => o.registry.runningAttempts id + if t.runnerId = some id then 1 else 0 } := by
  unfold attemptStarted
  split
  · next id hid =>
    have running : (o.registry.attemptStarted id).runningAttempts = fun id' =>
        o.registry.runningAttempts id' + if t.runnerId = some id' then 1 else 0 := by
      funext id'
      simp [Registry.runningAttempts_attemptStarted, hid]
    simp only [usage, running]
    rfl
  · next none =>
    simp only [usage, none]
    rfl

/-! ### Attempts -/

/-- What one attempt more in flight in a lane does. -/
theorem get_countStart (l : Lane) : (o.countStart l).inFlight.get = fun l' =>
    o.inFlight.get l' + if l = l' then 1 else 0 := by
  funext l'
  rw [countStart, PerLane.get_modify]
  split <;> rfl

/-- Where no worker takes a task, all that was taken for it goes back. -/
theorem usage_refused {t : Task} {p : Permit} (granted : Granted o t p o') :
    (((o'.countStart t.lane).countEnd t.lane).releasePermit p).usage S = o.usage S := by
  have started : (o'.countStart t.lane).usage S = { o'.usage S with
      inFlight := fun l => o'.inFlight.get l + if t.lane = l then 1 else 0 } := by
    simp only [usage, get_countStart]
    rfl
  -- a slot is only taken where its class is limited, so it goes back
  have limited : ∀ k, (p.slot = some k ∧ (o.slots.limit k).isSome) ↔ p.slot = some k := fun k =>
    and_iff_left_of_imp fun hk => Task.isSome_of_slotNeeded (granted.slot ▸ hk)
  have inFlight : o'.inFlight = o.inFlight := by rw [granted.rest]
  rw [usage_releasePermit, usage_countEnd, started, granted.usage, inFlight]
  simp only [land, Usage.release, Nat.add_sub_cancel, usage, limited]

theorem start_eq_ok {w w' : Workers} {n : Nat} (h : w.start n = .ok w') :
    w.busy < w.size ∧ w' = { w with running := w.running ++ [n], sends := w.sends.filter w.isSending ++ [n] } := by
  unfold Workers.start at h
  split at h
  · cases h
  · split at h
    · cases h
    · next free =>
      cases h
      exact ⟨Nat.lt_of_not_le free, rfl⟩

/-- Where a worker takes a task, an attempt at it starts. -/
theorem draws_started {t : Task} {p : Permit} {workers : Workers} {n : Nat} (granted : Granted o t p o')
    (worker : (o'.countStart t.lane).workers.start n = .ok workers) (goesOn : Nat → Bool) (n' : Nat) :
    Draws (o.usage S) ((attemptStarted { o'.countStart t.lane with
      workers := workers.await goesOn n
      attempts := o'.attempts ++ [{ number := n, task := t, permit := p }]
      nextNumber := n' } t).usage S) := by
  obtain ⟨free, rfl⟩ := start_eq_ok worker
  -- taking the permit changed slots, pool and waits alone
  obtain ⟨slots, pool, waits, rest⟩ :
      ∃ slots pool waits, o' = { o with slots := slots, pool := pool, waits := waits } :=
    ⟨_, _, _, granted.rest⟩
  subst rest
  have taken := granted.usage S
  rw [usage_attemptStarted]
  refine .trans (.one (.start { number := n, task := t, permit := p } rfl granted.lease.domain
    granted.slot granted.lease.free granted.room free)) (.of_eq ?_)
  refine Usage.ext (congrArg Usage.addresses taken).symm (congrArg Usage.limit taken).symm rfl
    (get_countStart (o := o) t.lane).symm (congrArg Usage.leases taken).symm
    (congrArg Usage.total taken).symm (congrArg Usage.slots taken).symm rfl ?_ ?_ rfl
  · exact Multiset.coe_eq_coe.2 (List.perm_append_singleton _ _).symm
  · exact Multiset.coe_eq_coe.2 (List.perm_append_singleton _ _).symm

theorem draws_execute (t : Task) : Draws (o.usage S) ((o.execute t).2.usage S) := by
  rw [execute_eq]
  split
  · have short := usage_of_frame (S := S) (frame_shortage (o := o) t)
    split
    · next h =>
      rw [h] at short
      exact .of_eq short.symm
    · next h =>
      rw [h] at short
      exact .of_eq short.symm
  · next permit o' h =>
    have granted := granted_of_acquire? h
    dsimp only
    split
    · rw [usage_of_frame (frame_fail t _), usage_refused granted]
      exact .refl _
    · next workers worker => exact draws_started granted worker _ _

theorem draws_turn (h : Ticking.Turn o o') : Draws (o.usage S) (o'.usage S) := by
  cases h with
  | drop next _ =>
    refine .of_eq (usage_of_frame ?_).symm
    exact (frame_fail _ _).trans (frame_nextTask? next)
  | execute next _ =>
    exact (Draws.of_eq (usage_of_frame (frame_nextTask? next)).symm).trans (draws_execute _)

theorem draws_serve (bulk : BulkBudget) (n : Nat) (s : Ticking) :
    Draws (s.office.usage S) ((Ticking.serve bulk n s).office.usage S) :=
  Ticking.serve_of_turn (P := fun o o' => Draws (o.usage S) (o'.usage S))
    (fun _ => .refl _) (fun _ _ _ => .trans) (fun _ _ => draws_turn) bulk n s

/-- What of an office its attempts and counters are, when one attempt is seen apart. -/
theorem usage_of_perm {a : Attempt} {as : List Attempt} (perm : o.attempts.Perm (a :: as)) :
    o.usage S = { o.usage S with attempts := a ::ₘ ↑as } := by
  have same : (o.attempts : Multiset Attempt) = a ::ₘ ↑as := Multiset.coe_eq_coe.2 perm
  simp only [usage, same]

theorem draws_sendEnded (n : Nat) (r : Report) (nodup : (o.attempts.map (·.number)).Nodup) :
    Draws (o.usage S) ((o.sendEnded n r).usage S) := by
  by_cases awaited : ∃ b ∈ o.attempts, b.report = none ∧ b.number = n
  · obtain ⟨b, hb, unreported, rfl⟩ := awaited
    have found := Numbered.find?_of_mem nodup hb
    rw [usage_of_perm (Numbered.perm_remove nodup found)]
    have alone : b.number ∉ awaited ↑(o.attempts.filter (·.number ≠ b.number)) := fun listed => by
      obtain ⟨a, ha, same⟩ := Multiset.mem_map.1 listed
      exact of_decide_eq_true (List.mem_filter.1 (Multiset.mem_coe.1 (Multiset.mem_filter.1 ha).1)).2 same
    refine (Draws.one (.report b r unreported alone)).trans (.of_eq ?_)
    have perm := Numbered.perm_replace (fun a => { a with report := some r }) nodup found
    rw [← Numbered.map_eq_of_mem _ (·.report.isNone) nodup hb (Option.isNone_iff_eq_none.2 unreported)] at perm
    exact Usage.ext rfl rfl rfl rfl rfl rfl rfl rfl rfl (Multiset.coe_eq_coe.2 perm).symm rfl
  · have unawaited : ∀ a ∈ o.attempts, a.report = none → a.number ≠ n := fun a ha unreported same =>
      awaited ⟨a, ha, unreported, same⟩
    have same : (o.sendEnded n r).attempts = o.attempts :=
      Numbered.map_eq_self_of_forall _ fun a ha same unreported =>
        unawaited a ha (Option.isNone_iff_eq_none.1 unreported) same
    refine (Draws.one (.stray n unawaited)).trans (.of_eq ?_)
    exact Usage.ext rfl rfl rfl rfl rfl rfl rfl rfl rfl (congrArg Multiset.ofList same.symm) rfl

/-- A report is taken: its attempt is seen no more, and all that it still holds goes back. -/
theorem draws_close {n : Nat} {a : Attempt} (nodup : (o.attempts.map (·.number)).Nodup)
    (found : o.attempt? n = some a) (reported : a.report ≠ none) :
    Draws (o.usage S) (((usage { o with attempts := o.attempts.filter (·.number ≠ n) }
      (a.task ::ₘ S)).land a.task.lane).release a.permit) := by
  rw [usage_of_perm (Numbered.perm_remove nodup found)]
  refine (Draws.one (.close a reported)).trans (.of_eq ?_)
  exact Usage.ext rfl rfl rfl rfl rfl rfl rfl rfl rfl rfl (Multiset.cons_add _ _ _).symm

theorem draws_attemptFinished (t : Task) :
    Draws (o.usage (t ::ₘ S)) ((o.attemptFinished t).usage S) := by
  have apart : o.usage (t ::ₘ S) = { o.usage S with settling := t ::ₘ (o.usage S).settling } :=
    Usage.ext rfl rfl rfl rfl rfl rfl rfl rfl rfl rfl (Multiset.cons_add _ _ _)
  rw [usage_attemptFinished, apart]
  exact .one (.finish t)

/-! ### Settlements -/

theorem draws_finishSettlement (t : Task) (purpose : Purpose) (results : List RecipientResult) :
    Draws (o.usage (↑(purpose.underWay t) + S)) ((o.finishSettlement t purpose results).usage S) := by
  cases purpose with
  | attempt kept =>
    -- what follows the results leaves the resources alone; then the attempt is over
    have alone := usage_of_frame (S := t ::ₘ S)
      (frame_conclusionOfAttempt (o := o.settle t results) t kept)
    exact (Draws.of_eq alone.symm).trans (draws_attemptFinished t)
  | expiry =>
    unfold finishSettlement
    rw [usage_of_frame (frame_complete t)]
    exact .of_eq (congrArg o.usage (zero_add S))
  | unroutable =>
    unfold finishSettlement
    rw [usage_of_frame (frame_complete t)]
    exact .of_eq (congrArg o.usage (zero_add S))

/-- The attempt of one settlement, seen apart. -/
theorem usage_of_settlement {s : Settlement} {ss ss' : List Settlement} (perm : ss'.Perm (s :: ss)) :
    usage { o with settlements := ss' } S =
      usage { o with settlements := ss } (↑(s.purpose.underWay s.task) + S) := by
  have flat := perm.flatMap_right fun s => s.purpose.underWay s.task
  rw [List.flatMap_cons] at flat
  have same : (↑(settling { o with settlements := ss' }) : Multiset Task) =
      ↑(s.purpose.underWay s.task) + ↑(settling { o with settlements := ss }) := by
    rw [Multiset.coe_add]
    exact Multiset.coe_eq_coe.2 flat
  refine Usage.ext rfl rfl rfl rfl rfl rfl rfl rfl rfl rfl ?_
  show S + (↑(settling { o with settlements := ss' }) : Multiset Task) = _
  rw [same, add_left_comm, ← add_assoc]
  rfl

theorem draws_beginSettlement (n : Nat) (t : Task) (purpose : Purpose)
    (results : List RecipientResult) :
    Draws (o.usage (↑(purpose.underWay t) + S)) ((o.beginSettlement n t purpose results).usage S) := by
  unfold beginSettlement
  split
  · exact draws_finishSettlement t purpose results
  · have apart := usage_of_settlement (o := o) (S := S)
      (List.perm_append_singleton ⟨n, t, purpose, [], results⟩ o.settlements)
    exact .of_eq apart.symm

/-- What is recorded next does not matter to the resources. -/
theorem usage_record {n : Nat} {s : Settlement} (f : Settlement → Settlement)
    (nodup : (o.settlements.map (·.number)).Nodup) (found : o.settlement? n = some s)
    (same : (f s).purpose.underWay (f s).task = s.purpose.underWay s.task) :
    usage { o with settlements := o.settlements.map fun s => if s.number = n then f s else s } S =
      o.usage S := by
  rw [usage_of_settlement (Numbered.perm_replace f nodup found), same]
  exact (usage_of_settlement (o := o) (Numbered.perm_remove nodup found)).symm

theorem draws_recordAccepted (n : Nat) (nodup : (o.settlements.map (·.number)).Nodup) :
    Draws (o.usage S) ((o.recordAccepted n).usage S) := by
  unfold recordAccepted
  split
  · exact .refl _
  · next s found =>
    split
    · exact .refl _
    · have apart := usage_of_settlement (o := o) (S := S) (Numbered.perm_remove nodup found)
      exact (Draws.of_eq apart).trans (draws_finishSettlement (o := o.removeSettlement n) _ _ _)
    · next r left _ _ =>
      exact .of_eq (usage_record
        (fun s => { s with written := s.written ++ [r], left := left }) nodup found rfl).symm

theorem draws_recordRefused (n : Nat) (message : String)
    (nodup : (o.settlements.map (·.number)).Nodup) :
    Draws (o.usage S) ((o.recordRefused n message).usage S) := by
  unfold recordRefused
  split
  · exact .refl _
  · next s found =>
    have apart := usage_of_settlement (o := o) (S := S) (Numbered.perm_remove nodup found)
    refine (Draws.of_eq apart).trans ?_
    dsimp only
    have ended := fun S => usage_of_noteEnd (S := S)
      (frame_abortAndFail (o := o.removeSettlement n) s.task (.persistence message))
    split
    · next kept hp =>
      rw [hp]
      exact (Draws.of_eq (ended (s.task ::ₘ S)).symm).trans (draws_attemptFinished s.task)
    · next other =>
      have none : s.purpose.underWay s.task = [] := by
        cases hp : s.purpose with
        | attempt kept => exact absurd hp (other kept)
        | _ => rfl
      rw [none, ended, Multiset.coe_nil, zero_add]
      exact .refl _

/-! ### The end of an attempt -/

theorem usage_recordAnswer (l : Lease) (code : Option Nat) (anySuccess : Bool) :
    usage { o with pool := (o.pool.record o.now l code anySuccess).2 } S = o.usage S := by
  have leases : (o.pool.record o.now l code anySuccess).2.leasesAt = o.pool.leasesAt := by
    funext i d
    exact o.pool.leasesAt_record o.now l code anySuccess i d
  have total := funext (o.pool.totalAt_record o.now l code anySuccess)
  simp only [usage, leases, total, AddressPool.config_record]
  rfl

theorem draws_settleOutcome (a : Attempt) (outcome : Outcome)
    (representable : (o.pool.record o.now a.permit.lease outcome.statusCode outcome.anySuccess).1 ≠
      .unrepresentable) :
    Draws ((o.usage (a.task ::ₘ S)).release a.permit) ((o.settleOutcome a outcome).usage S) := by
  have answered := usage_recordAnswer (o := o) (S := a.task ::ₘ S) a.permit.lease outcome.statusCode
    outcome.anySuccess
  unfold settleOutcome
  rcases hr : o.pool.record o.now a.permit.lease outcome.statusCode outcome.anySuccess with
    ⟨cooldown, pool⟩
  rw [hr] at representable answered
  have settled : Draws ((o.usage (a.task ::ₘ S)).release a.permit)
      (((({ o with pool := pool } : Office).releasePermit a.permit).countOutcome a.task
        outcome).beginSettlement a.number a.task
          (.attempt (outcome.kept (o.config.retry.hasBudget a.task.retries)))
          (outcome.terminal (o.config.retry.hasBudget a.task.retries)) |>.usage S) := by
    rw [← answered, ← usage_releasePermit]
    exact draws_beginSettlement (S := S)
      (o := (({ o with pool := pool } : Office).releasePermit a.permit).countOutcome a.task outcome)
      a.number a.task (.attempt (outcome.kept (o.config.retry.hasBudget a.task.retries))) _
  cases cooldown with
  | unrepresentable => exact absurd rfl representable
  | none => exact settled
  | started => exact settled

theorem draws_collect (n : Nat) (nodup : (o.attempts.map (·.number)).Nodup)
    (representable : ∀ a outcome, o.attempt? n = some a → a.report = some (.ok outcome) →
      (o.pool.record o.now a.permit.lease outcome.statusCode outcome.anySuccess).1 ≠ .unrepresentable) :
    Draws (o.usage S) ((o.collect n).usage S) := by
  unfold collect
  split
  · exact .refl _
  · next a found =>
    split
    · exact .refl _
    · next report reported =>
      -- first the attempt is closed, its task in the hands
      have close := draws_close (S := S) nodup found (by rw [reported]; exact nofun)
      rw [← usage_countEnd] at close
      dsimp only
      split
      · next cause =>
        refine (close.trans (.of_eq ?_)).trans (draws_attemptFinished a.task)
        rw [usage_of_noteEnd (frame_failAttempt a.task cause), usage_releasePermit]
      · next outcome =>
        refine close.trans (draws_settleOutcome a outcome ?_)
        have kept := representable a outcome found reported
        unfold countEnd
        split <;> exact kept

/-! ### Other settlements -/

theorem draws_beginExpiry (n : Nat) : Draws (o.usage S) ((o.beginExpiry n).usage S) := by
  unfold beginExpiry
  split
  · exact .refl _
  · next e _ =>
    have begun := draws_beginSettlement (o := { o with expiries := o.expiries.filter (·.number ≠ n) })
      (S := S) n e.task .expiry (expiryResults o.config.wait e.task)
    rw [Purpose.underWay, Multiset.coe_nil, zero_add] at begun
    exact begun

theorem draws_rejectUnroutable (t : Task) : Draws (o.usage S) ((o.rejectUnroutable t).usage S) := by
  have begun := draws_beginSettlement (o := { o with nextNumber := o.nextNumber + 1 }) (S := S)
    o.nextNumber t .unroutable (unroutableResults o.config.recipients t)
  rw [Purpose.underWay, Multiset.coe_nil, zero_add] at begun
  exact begun

theorem draws_submit (s : Submission) : Draws (o.usage S) ((o.submit s).2.usage S) := by
  unfold submit
  split
  · exact .refl _
  · split
    · exact .refl _
    · split
      · exact .refl _
      · dsimp only
        split
        · exact draws_rejectUnroutable (o := (o.enter s).2) (o.enter s).1
        · exact .refl _

end Office

end Postroom
