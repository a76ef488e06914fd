import Postroom.Proofs.Waits.Expiry
import Postroom.Proofs.Waits.Shortages

/-!
# Clocks

A task that was short and still waits has its wait on record since the first of its shortages. What has left the bench
does not come back to it but for a further retry, which is another task: so the record of a wait is lost only when the
wait is over, and a task has none on record that was never short.

- `World.away_after`: what has left the bench does not come back to it but for a further retry.
- `World.shortages`, `World.shortagesAlong`: which tasks are short, and in which office.
- `World.Tracked`: what is on record at all. `World.Clocked`: the wait of a task goes on since the first of its
  shortages. `World.clocked_opening`: it does along a history, unless its job ends.
- `World.waited_of_first`: how long a task that is short has waited.
-/

namespace Postroom

namespace Office

/-- When the results of a settlement are final from which no attempt is under way, its batch has ended. -/
theorem ended_of_idle {o : Office} {s : Settlement} (idle : (Holding.settlement s).isRunning = false)
    (unended : o.ledger.isOpen s.task.ticket) (results : List RecipientResult) :
    ∃ v, (o.finishSettlement s.task s.purpose results).ledger.verdict? s.task.ticket = some v := by
  refine ⟨_, (ended_finishSettlement s.purpose (fun kept running => ?_) unended results).2⟩
  obtain ⟨n, t, purpose, written, left⟩ := s
  cases running
  cases idle

/-- A settlement goes on to be recorded, or its batch has ended, unless an attempt is under way with it. -/
theorem recordAccepted_of_idle {o : Office} {s : Settlement} (idle : (Holding.settlement s).isRunning = false)
    (found : o.settlement? s.number = some s) (unended : o.ledger.isOpen s.task.ticket) :
    (∃ z ∈ (o.recordAccepted s.number).settlements, z.task = s.task) ∨
      ∃ v, (o.recordAccepted s.number).ledger.verdict? s.task.ticket = some v := by
  have recorded := o.records s.number
  have listed := List.mem_of_find?_eq_some found
  generalize o.recordAccepted s.number = p at recorded ⊢
  cases recorded with
  | idle => exact .inl ⟨s, listed, rfl⟩
  | more s' r r' left found' next =>
    obtain rfl : s = s' := Option.some.inj (found.symm.trans found')
    refine .inl ⟨{ s with written := s.written ++ [r], left := r' :: left }, ?_, rfl⟩
    show _ ∈ o.advanced s.number
    rw [advanced, found, Option.map_some, next]
    exact List.mem_map.2 ⟨s, listed, if_pos rfl⟩
  | last s' r found' next =>
    obtain rfl : s = s' := Option.some.inj (found.symm.trans found')
    exact .inr (ended_of_idle (o := o.removeSettlement s.number) idle unended _)

end Office

namespace World

open Bench Office Custody

variable {w : World} {h : Happening} {n k : Nat} {x y : Holding} {short : List Sleeper} {ps : List (Office × Task)}

/-! ### What has left the bench -/

/-- What was given up is recorded by its sink, or its batch ends. -/
theorem expiry_after {e : Expiry} (regular : w.custody.Regular) (owned : w.custody.Owned)
    (he : e ∈ w.office.expiries) :
    (∃ z ∈ (w.after h).holdings, z.onBench = false ∧ z.task.ticket = e.task.ticket) ∨
      ∃ v, (w.after h).office.ledger.verdict? e.task.ticket = some v := by
  have unended : w.office.ledger.isOpen e.task.ticket := isOpen_of_live owned (mem_holdings_expiry.2 he)
  by_cases taken : h = .beginExpiry e.number
  · subst taken
    cases givenUp_beginExpiry regular owned he rfl with
    | records _ _ listed _ => exact .inl ⟨_, mem_holdings_settlement.2 listed, rfl, rfl⟩
    | final _ _ ended => exact .inr ⟨_, ended⟩
  · cases abandoned : h.abandons e.number with
    | true =>
      obtain ⟨numbers, rfl, listed⟩ := Happening.abandons_iff.1 abandoned
      refine .inr ⟨_, verdict?_abandon (t := e.task) ?_ unended⟩
      have given : e ∈ w.office.expiries.filter (·.number ∈ numbers) := List.mem_filter.2 ⟨he, decide_eq_true listed⟩
      exact List.mem_append_left _ (List.mem_append_right _ (List.mem_map_of_mem given))
    | false => exact .inl ⟨.expiry e, mem_holdings_expiry.2 (expiry_kept he taken abandoned), rfl, rfl⟩

/-- A settlement remains, or its batch ends, unless an attempt is under way with it. -/
theorem idle_after {s : Settlement} (regular : w.custody.Regular) (owned : w.custody.Owned)
    (hs : s ∈ w.office.settlements) (idle : (Holding.settlement s).isRunning = false) :
    (∃ z ∈ (w.after h).holdings, z.onBench = false ∧ z.task.ticket = s.task.ticket) ∨
      ∃ v, (w.after h).office.ledger.verdict? s.task.ticket = some v := by
  have unended : w.office.ledger.isOpen s.task.ticket := isOpen_of_live owned (mem_holdings_settlement.2 hs)
  have found : w.office.settlement? s.number = some s := Numbered.find?_of_mem (nodup_settlements regular) hs
  have stays : ∀ z ∈ (w.after h).office.settlements, z.task = s.task →
      ∃ z ∈ (w.after h).holdings, z.onBench = false ∧ z.task.ticket = s.task.ticket :=
    fun z hz same => ⟨.settlement z, mem_holdings_settlement.2 hz, rfl, congrArg Task.ticket same⟩
  by_cases accepted : h = .recordAccepted s.number
  · subst accepted
    exact (recordAccepted_of_idle idle found unended).imp_left fun ⟨z, hz, same⟩ => stays z hz same
  · by_cases refused : ∃ message, h = .recordRefused s.number message
    · obtain ⟨message, rfl⟩ := refused
      exact .inr ⟨_, verdict?_recordRefused message found unended⟩
    · cases abandoned : h.abandons s.number with
      | true =>
        obtain ⟨numbers, rfl, listed⟩ := Happening.abandons_iff.1 abandoned
        by_cases background : isBackground s
        · refine .inr ⟨_, verdict?_abandon (t := s.task) ?_ unended⟩
          have given : s ∈ w.office.settlements.filter fun s => s.number ∈ numbers && isBackground s :=
            List.mem_filter.2 ⟨hs, Bool.and_eq_true_iff.2 ⟨decide_eq_true listed, background⟩⟩
          exact List.mem_append_right _ (List.mem_map_of_mem given)
        · refine .inl (stays s ?_ rfl)
          rw [settlements_after]
          refine List.mem_append_left _ (List.mem_filter.2 ⟨hs, ?_⟩)
          rw [Bool.not_eq_true] at background
          rw [background, Bool.and_false]
          rfl
      | false => exact .inl (stays s (settlement_kept hs accepted (not_exists.1 refused) abandoned) rfl)

/-- What has left the bench does not come back to it but for a further retry. -/
theorem away_after (regular : w.custody.Regular) (owned : w.custody.Owned) (hx : x ∈ w.holdings)
    (away : x.onBench = false) (hy : y ∈ (w.after h).holdings) (ticket : y.task.ticket = x.task.ticket)
    (retries : y.task.retries = x.task.retries) : y.onBench = false := by
  have owned' := owned_after regular owned h
  have left : (∃ z ∈ (w.after h).holdings, z.onBench = false ∧ z.task.ticket = x.task.ticket) ∨
      (∃ v, (w.after h).office.ledger.verdict? x.task.ticket = some v) → y.onBench = false := by
    rintro (⟨z, hz, away, same⟩ | ⟨v, ended⟩)
    · rwa [eq_of_ticket owned' hy hz (ticket.trans same.symm)]
    · have unended := (Ledger.isOpen_iff.1 (isOpen_of_live owned' hy)).2
      rw [ticket, ended] at unended
      cases unended
  by_cases running : x.isRunning
  · -- an attempt remains under way, or a retry comes after it
    have risen := level_le_after regular owned hx hy ticket
    rw [Holding.level, Holding.level, if_pos running, retries] at risen
    have still : y.isRunning := by
      by_contra idle
      rw [if_neg idle] at risen
      omega
    cases y with
    | attempt | settlement => rfl
    | _ => cases still
  · rw [Bool.not_eq_true] at running
    cases x with
    | queued | asleep | outside => cases away
    | attempt => cases running
    | expiry e => exact left (expiry_after regular owned (mem_holdings_expiry.1 hx))
    | settlement s => exact left (idle_after regular owned (mem_holdings_settlement.1 hx) running)

/-- What keeps a place on the bench, with no retry more, is not relieved. -/
theorem not_relieves_of_onBench {t : Task} (regular : w.custody.Regular) (owned : w.custody.Owned)
    (hy : y ∈ (w.after h).holdings) (bench : y.onBench) (ticket : y.task.ticket = t.ticket)
    (retries : y.task.retries = t.retries) : ¬ w.Relieves h t := by
  intro relieves
  cases relieves with
  | supplied executed acquired =>
    rw [(lasts_of_onBench regular owned executed hy bench ticket retries).1] at acquired
    cases acquired
  | escalated executed none spent =>
    have lasts := (lasts_of_onBench regular owned executed hy bench ticket retries).2.1
    exact absurd (congrArg Prod.fst (shortage_of_lasts lasts)) (spent _)
  | resolved ended =>
    have unended := (Ledger.isOpen_iff.1 (isOpen_of_live (owned_after regular owned h) hy)).2
    rw [ticket, ended] at unended
    cases unended

/-! ### Shortages along a history -/

/-- The tasks that are executed and find no resources, each with the office in which that happens. -/
def shortages (w : World) (h : Happening) : List (Office × Task) :=
  (w.executed h).filter fun p => (p.1.acquire? p.2).isNone

def shortagesAlong : World → List Happening → List (Office × Task)
  | _, [] => []
  | w, h :: hs => w.shortages h ++ shortagesAlong (w.after h) hs

theorem shortagesAlong_append (w : World) (hs ks : List Happening) :
    w.shortagesAlong (hs ++ ks) = w.shortagesAlong hs ++ (w.run hs).shortagesAlong ks := by
  induction hs generalizing w with
  | nil => rfl
  | cons h hs ih => rw [List.cons_append, shortagesAlong, ih, shortagesAlong, List.append_assoc, run_cons]

theorem mem_shortages {o : Office} {t : Task} :
    (o, t) ∈ w.shortages h ↔ (o, t) ∈ w.executed h ∧ o.acquire? t = none := by
  rw [shortages, List.mem_filter, Option.isNone_iff_eq_none]

/-- Among the shortages is one of the task, with the same retries. -/
def Marked (ps : List (Office × Task)) (t : Task) : Prop :=
  ∃ p ∈ ps, p.2.ticket = t.ticket ∧ p.2.retries = t.retries

/-- The record after some shortages: only tasks have waits that had one of these, and no batch has fewer retries than
it had in any of these. -/
structure Tracked (w : World) (short : List Sleeper) (ps : List (Office × Task)) : Prop where
  attended : w.bench.AttendedBy (Marked ps) (· ∈ short)
  known : ∀ p ∈ ps, p.2.ticket < w.office.ledger.accounts.length
  risen : ∀ p ∈ ps, ∀ x ∈ w.holdings, x.task.ticket = p.2.ticket → p.2.retries ≤ x.task.retries

theorem tracked_after (regular : w.custody.Regular) (owned : w.custody.Owned) (holds : HoldsOn w h)
    (shelved : ∀ s ∈ w.shelved h, s ∈ short) (tracked : w.Tracked short ps) :
    (w.after h).Tracked short (ps ++ w.shortages h) := by
  have leads : Leads (fun _ _ => True) w.custody (w.after h).custody := leads_after regular (fits_true w h)
  refine ⟨?_, ?_, ?_⟩
  · have marks : w.bench.AttendedBy (Marked (ps ++ w.shortages h)) (· ∈ short) :=
      tracked.attended.mono fun t ⟨p, hp, same⟩ => ⟨p, List.mem_append_left _ hp, same⟩
    refine attendedBy_after regular owned holds shelved (fun o t executed none => ?_) (fun t now mark => mark) marks
    exact ⟨(o, t), List.mem_append_right _ (mem_shortages.2 ⟨executed, none⟩), rfl, rfl⟩
  · intro p hp
    refine Nat.lt_of_lt_of_le ?_ leads.length_le
    rcases List.mem_append.1 hp with hp | hp
    · exact tracked.known p hp
    · obtain ⟨l, hl⟩ := live_of_executed (mem_shortages.1 hp).1
      exact inside_of_live owned hl
  · intro p hp y hy same
    rcases List.mem_append.1 hp with hp | hp
    · obtain ⟨x, hx, ticket⟩ := live_of_leads leads owned hy (same ▸ tracked.known p hp)
      exact (tracked.risen p hp x hx (ticket.trans same)).trans
        (leads.retries_le owned (mem_live.2 hx) (mem_live.2 hy) ticket.symm)
    · obtain ⟨l, hl⟩ := live_of_executed (mem_shortages.1 hp).1
      exact leads.retries_le owned (mem_live.2 hl) (mem_live.2 hy) same

theorem tracked_run {hs : List Happening} (regular : w.custody.Regular) (owned : w.custody.Owned)
    (holds : Along HoldsOn w hs) (shelved : ∀ s ∈ w.shelvedAlong hs, s ∈ short) (tracked : w.Tracked short ps) :
    (w.run hs).Tracked short (ps ++ w.shortagesAlong hs) := by
  induction hs generalizing w ps with
  | nil => exact (List.append_nil ps).symm ▸ tracked
  | cons h hs ih =>
    rw [shortagesAlong, ← List.append_assoc]
    refine ih (regular_after regular h) (owned_after regular owned h) holds.2
      (fun s hs => shelved s (List.mem_append_right _ hs)) ?_
    exact tracked_after regular owned holds.1 (fun s hs => shelved s (List.mem_append_left _ hs)) tracked

/-- A task that had no shortage yet has no wait on record. -/
theorem start?_of_unmarked (tracked : w.Tracked short ps) (distinct : w.Distinct) (hx : x ∈ w.holdings)
    (unmarked : ¬ Marked ps x.task) : w.office.waits.start? x.task.id = none := by
  refine Option.map_eq_none_iff.2 (Option.eq_none_iff_forall_ne_some.2 fun wait found => unmarked ?_)
  obtain ⟨t, id, -, mark, seats⟩ := tracked.attended _ (WaitTable.mem_of_wait? found)
  obtain ⟨z, hz, rfl, -⟩ := exists_awaiting seats
  obtain rfl := eq_of_id distinct hz hx id
  exact mark

end World

/-- The task is the `k`th retry of the batch `n`. -/
def Task.isRetry (n k : Nat) (t : Task) : Bool := t.ticket = n && t.retries = k

namespace World

open Bench Office Custody

variable {w : World} {h : Happening} {n k : Nat} {x y : Holding} {short : List Sleeper} {ps : List (Office × Task)}
  {first : Office × Task}

theorem isRetry_iff {t : Task} : t.isRetry n k ↔ t.ticket = n ∧ t.retries = k := by
  rw [Task.isRetry, Bool.and_eq_true, decide_eq_true_iff, decide_eq_true_iff]

/-- The first of some shortages of the `k`th retry of the batch `n`. -/
def firstOf (n k : Nat) (ps : List (Office × Task)) : Option (Office × Task) := ps.find? fun p => p.2.isRetry n k

theorem firstOf_append (n k : Nat) (ps qs : List (Office × Task)) :
    firstOf n k (ps ++ qs) = (firstOf n k ps).or (firstOf n k qs) := List.find?_append ..

theorem of_firstOf (found : firstOf n k ps = some first) : first ∈ ps ∧ first.2.isRetry n k :=
  ⟨List.mem_of_find?_eq_some found, List.find?_some (p := fun p : Office × Task => p.2.isRetry n k) found⟩

theorem exists_firstOf {p : Office × Task} (listed : p ∈ ps) (is : p.2.isRetry n k) :
    ∃ first, firstOf n k ps = some first :=
  Option.isSome_iff_exists.1 (List.find?_isSome.2 ⟨p, listed, is⟩)

/-- Before the first of its shortages a task has no wait on record. -/
theorem start?_of_fresh (tracked : w.Tracked short ps) (distinct : w.Distinct) (fresh : firstOf n k ps = none)
    (hx : x ∈ w.holdings) (is : x.task.isRetry n k) : w.office.waits.start? x.task.id = none := by
  obtain ⟨ticket, retries⟩ := isRetry_iff.1 is
  refine start?_of_unmarked tracked distinct hx ?_
  rintro ⟨p, hp, sameTicket, sameRetries⟩
  refine absurd (List.find?_eq_none.1 fresh p hp) (not_not.2 ?_)
  exact isRetry_iff.2 ⟨sameTicket.trans ticket, sameRetries.trans retries⟩

/-- The happening neither ends a run of the batch's job nor unregisters the job. -/
def LeavesJob (n : Nat) (w : World) (h : Happening) : Prop :=
  ∀ x ∈ w.holdings, x.task.ticket = n → ∀ id, x.task.runnerId = some id →
    h ≠ .unregister id ∧ ∀ u c, w.aborts? h = some (u, c) → u.id ≠ id

/-- While the `k`th retry of the batch `n` waits, its wait is on record since the first of its shortages. -/
def Clocked (w : World) (n k : Nat) (ps : List (Office × Task)) : Prop :=
  ∀ first, firstOf n k ps = some first → ∀ x ∈ w.holdings, x.onBench → x.task.isRetry n k →
    w.office.waits.start? x.task.id = some first.1.now

/-- The start of a wait in the office in which its task is executed, and after the tick. -/
theorem start?_executed {o : Office} {t : Task} (owned : w.custody.Owned) (apart : w.Apart h)
    (executed : (o, t) ∈ w.executed h) : o.waits.start? t.id = w.office.waits.start? t.id ∧
      (w.after h).office.waits.start? t.id = (o.execute t).2.waits.start? t.id := by
  obtain ⟨before, later, hold, mid, turned⟩ := exists_turned executed
  exact ⟨congrArg (Option.map Wait.start) (turned.wait?_before owned apart),
    congrArg (Option.map Wait.start) (turned.wait?_later owned apart)⟩

/-- A wait that has begun with a shortage goes on as long as its task is to have resources. -/
theorem clocked_old (regular : w.custody.Regular) (owned : w.custody.Owned) (tracked : w.Tracked short ps)
    (apart : w.Apart h) (leaves : LeavesJob n w h) (clocked : w.Clocked n k ps)
    (old : firstOf n k ps = some first) (hy : y ∈ (w.after h).holdings) (bench : y.onBench)
    (is : y.task.isRetry n k) : (w.after h).office.waits.start? y.task.id = some first.1.now := by
  obtain ⟨ticket, retries⟩ := isRetry_iff.1 is
  have leads : Leads (fun _ _ => True) w.custody (w.after h).custody := leads_after regular (fits_true w h)
  obtain ⟨listed, ofTask⟩ := of_firstOf old
  obtain ⟨ticket', retries'⟩ := isRetry_iff.1 ofTask
  -- the task has been on the bench with the same name
  obtain ⟨x, hx, same⟩ := live_of_leads leads owned hy (by rw [ticket, ← ticket']; exact tracked.known first listed)
  have least := tracked.risen first listed x hx (same.trans (ticket.trans ticket'.symm))
  have most := leads.retries_le owned (mem_live.2 hx) (mem_live.2 hy) same.symm
  have equal : y.task.retries = x.task.retries := by omega
  have name := leads.id_eq owned (mem_live.2 hx) (mem_live.2 hy) same.symm equal
  have before : x.onBench := by
    by_contra away
    rw [away_after regular owned hx (Bool.not_eq_true _ ▸ away) hy same.symm equal] at bench
    cases bench
  have began := clocked first old x hx before (isRetry_iff.2 ⟨same.trans ticket, equal.symm.trans retries⟩)
  rw [name]
  rcases (clocksKept_after regular owned tracked.attended.attended apart).kept x hx _ began with still | ends
  · exact still
  cases ends with
  | relieved relieves => exact absurd relieves (not_relieves_of_onBench regular owned hy bench same.symm equal)
  | unregistered job unregisters => exact absurd unregisters (leaves x hx (same.trans ticket) _ job).1
  | aborted aborts own =>
    exact absurd rfl ((leaves x hx (same.trans ticket) _ (of_decide_eq_true own)).2 _ _ aborts)

/-- A wait begins with the first shortage. -/
theorem clocked_new {o : Office} {t : Task} (regular : w.custody.Regular) (owned : w.custody.Owned)
    (tracked : w.Tracked short ps) (apart : w.Apart h) (fresh : firstOf n k ps = none)
    (executed : (o, t) ∈ w.executed h) (unavailable : o.acquire? t = none) (first : t.isRetry n k)
    (hy : y ∈ (w.after h).holdings) (bench : y.onBench)
    (is : y.task.isRetry n k) : (w.after h).office.waits.start? y.task.id = some o.now := by
  obtain ⟨ticket, retries⟩ := isRetry_iff.1 is
  obtain ⟨ticket', retries'⟩ := isRetry_iff.1 first
  have leads : Leads (fun _ _ => True) w.custody (w.after h).custody := leads_after regular (fits_true w h)
  obtain ⟨l, hl⟩ := live_of_executed executed
  have same : y.task.ticket = t.ticket := ticket.trans ticket'.symm
  have equal : y.task.retries = t.retries := retries.trans retries'.symm
  have name : y.task.id = t.id := leads.id_eq owned (mem_live.2 hl) (mem_live.2 hy) same equal
  obtain ⟨-, lasts, running⟩ := lasts_of_onBench regular owned executed hy bench same equal
  obtain ⟨found, after⟩ := start?_executed owned apart executed
  have absent : w.office.waits.start? t.id = none :=
    start?_of_fresh (x := .queued l t) tracked apart.distinct fresh hl first
  rw [name, after, start?_of_lasts unavailable lasts running, found, absent]
  rfl

theorem clocked_after (regular : w.custody.Regular) (owned : w.custody.Owned) (tracked : w.Tracked short ps)
    (apart : w.Apart h) (leaves : LeavesJob n w h) (clocked : w.Clocked n k ps) :
    (w.after h).Clocked n k (ps ++ w.shortages h) := by
  intro first found y hy bench is
  cases old : firstOf n k ps with
  | some p =>
    rw [firstOf_append, old] at found
    cases found
    exact clocked_old regular owned tracked apart leaves clocked old hy bench is
  | none =>
    rw [firstOf_append, old, Option.none_or] at found
    obtain ⟨listed, ofTask⟩ := of_firstOf found
    obtain ⟨executed, unavailable⟩ := mem_shortages.1 listed
    exact clocked_new regular owned tracked apart old executed unavailable ofTask hy bench is

/-- How long a task that is short has waited, counted from the first of its shortages. -/
theorem waited_of_first {o : Office} {t : Task} (owned : w.custody.Owned) (tracked : w.Tracked short ps)
    (apart : w.Apart h) (clocked : w.Clocked n k ps) (listed : (o, t) ∈ w.shortages h) (is : t.isRetry n k)
    (found : firstOf n k (ps ++ w.shortages h) = some first) : o.waited t = o.now - first.1.now := by
  obtain ⟨executed, -⟩ := mem_shortages.1 listed
  obtain ⟨l, hl⟩ := live_of_executed executed
  obtain ⟨ticket, -⟩ := isRetry_iff.1 is
  have same := (start?_executed owned apart executed).1
  rw [waited, same]
  cases old : firstOf n k ps with
  | some p =>
    rw [firstOf_append, old] at found
    cases found
    have began : w.office.waits.start? t.id = some first.1.now := clocked first old (.queued l t) hl rfl is
    rw [began]
    rfl
  | none =>
    rw [firstOf_append, old, Option.none_or] at found
    obtain ⟨listed', ofTask⟩ := of_firstOf found
    obtain ⟨ticket', -⟩ := isRetry_iff.1 ofTask
    obtain ⟨executed', -⟩ := mem_shortages.1 listed'
    obtain ⟨m, hm⟩ := live_of_executed executed'
    obtain ⟨o', t'⟩ := first
    obtain rfl : t' = t :=
      congrArg (·.task) (eq_of_ticket (x := .queued m t') (y := .queued l t) owned hm hl (ticket'.trans ticket.symm))
    have absent : w.office.waits.start? t'.id = none :=
      start?_of_fresh (x := .queued l t') tracked apart.distinct old hl is
    rw [absent, eq_of_executed owned apart executed executed']
    rfl

/-! ### Histories -/

/-- Whoever took a task out ends it or keeps it, and no two live tasks have one name. -/
structure Careful (w : World) (h : Happening) : Prop where
  holds : HoldsOn w h
  apart : w.Apart h

theorem clocked_run {hs : List Happening} (regular : w.custody.Regular) (owned : w.custody.Owned)
    (careful : Along Careful w hs) (leaves : Along (LeavesJob n) w hs) (shelved : ∀ s ∈ w.shelvedAlong hs, s ∈ short)
    (tracked : w.Tracked short ps) (clocked : w.Clocked n k ps) :
    (w.run hs).Tracked short (ps ++ w.shortagesAlong hs) ∧ (w.run hs).Clocked n k (ps ++ w.shortagesAlong hs) := by
  induction hs generalizing w ps with
  | nil =>
    rw [shortagesAlong, List.append_nil]
    exact ⟨tracked, clocked⟩
  | cons h hs ih =>
    rw [shortagesAlong, ← List.append_assoc]
    refine ih (regular_after regular h) (owned_after regular owned h) careful.2 leaves.2
      (fun s hs => shelved s (List.mem_append_right _ hs)) ?_ ?_
    · exact tracked_after regular owned careful.1.holds (fun s hs => shelved s (List.mem_append_left _ hs)) tracked
    · exact clocked_after regular owned tracked careful.1.apart leaves.1 clocked

theorem tracked_opening (config : Config) (workers : Nat) (wall : Calendar.Moment) (short : List Sleeper) :
    (opening config workers wall).Tracked short [] where
  attended _ he := nomatch he
  known _ hp := nomatch hp
  risen _ hp := nomatch hp

/-- Of a new office, the record after a history in which nothing ends the wait of the `k`th retry of the batch `n` once
it was short. -/
theorem clocked_opening {config : Config} {workers : Nat} {wall : Calendar.Moment} {before later : List Happening}
    (careful : Along Careful (opening config workers wall) (before ++ later))
    (fresh : firstOf n k ((opening config workers wall).shortagesAlong before) = none)
    (leaves : Along (LeavesJob n) ((opening config workers wall).run before) later) :
    ∃ short, ((opening config workers wall).run (before ++ later)).Tracked short
        ((opening config workers wall).shortagesAlong (before ++ later)) ∧
      ((opening config workers wall).run (before ++ later)).Clocked n k
        ((opening config workers wall).shortagesAlong (before ++ later)) := by
  have regular := regular_opening config workers wall
  have owned := owned_opening config workers wall
  have new := tracked_opening config workers wall ((opening config workers wall).shelvedAlong (before ++ later))
  generalize opening config workers wall = w at careful fresh leaves regular owned new ⊢
  obtain ⟨careful, careful'⟩ := along_append.1 careful
  rw [shelvedAlong_append] at new
  have tracked := tracked_run regular owned (careful.mono fun _ _ careful => careful.holds)
    (fun s hs => List.mem_append_left _ hs) new
  have clocked : (w.run before).Clocked n k (w.shortagesAlong before) := by
    intro first found
    rw [fresh] at found
    cases found
  rw [run_append, shortagesAlong_append]
  exact ⟨_, clocked_run (regular_run regular before) (owned_run regular owned before) careful' leaves
    (fun s hs => List.mem_append_right _ hs) tracked clocked⟩

end World

end Postroom
