import Postroom.Proofs.Custody.Ownership
import Postroom.Proofs.Session.EachOnce

/-!
# No recipient is lost

The recipients of a batch that has not ended are those with settled results and those of its one live task,
each as often as it was submitted. When the batch ends well nothing is left to do, so its result lists every
recipient. All this for sends that answer for each recipient once, as sessions do.

- `Task.AnsweredBy`: the reports of such sends.
- `Holding.due`: the recipients that a live task still answers for.
- `Custody.Conserved`: the invariant, kept by every change of an owned custody.
- `World.RecipientsKept`, `World.recipientsKept_run`: what this means for the handles, after every history.
-/

namespace Postroom

/-- The recipients of a task, by address. -/
def Task.addresses (t : Task) : List String := t.recipients.map (·.address)

/-- The recipients of results, by address. -/
def addressesOf (rs : List RecipientResult) : List String := rs.map (·.address)

/-- The outcome says of each recipient of the task once what became of it. -/
def Task.AnsweredBy (t : Task) (outcome : Outcome) : Prop :=
  (outcome.recipients.map (·.recipient.address)).Perm t.addresses

/-- The outcomes of sessions are such. -/
theorem answeredBy_session {σ : Type} (peer : Peer σ) (policy : RecipientPolicy) (p : σ) (a : Attempt) :
    a.task.AnsweredBy (Session.run peer policy (Office.requestOf a) p).outcome := by
  have once := (Session.perm_run peer policy (Office.requestOf a) p).map (·.address)
  rw [List.map_map] at once
  exact once

/-- The results and the recipients kept for a retry, where the results of a task are recorded. -/
def Settlement.due (s : Settlement) : List String :=
  addressesOf s.results ++ s.purpose.kept.map (·.address)

/-- The recipients that a live task still answers for. Where its results are being recorded, these and the
recipients kept for a retry stand for it. -/
def Holding.due : Holding → List String
  | .settlement s => s.due
  | x => x.task.addresses

/-- The report of an attempt, and the results being recorded, fit the task. -/
def Holding.Faithful : Holding → Prop
  | .attempt a => ∀ outcome, a.report = some (.ok outcome) → a.task.AnsweredBy outcome
  | .settlement s => s.due.Perm s.task.addresses
  | _ => True

theorem Holding.Faithful.due {x : Holding} (h : x.Faithful) : x.due.Perm x.task.addresses := by
  cases x with
  | settlement s => exact h
  | _ => exact List.Perm.refl _

theorem RecipientOutcome.address_result (r : RecipientOutcome) : r.result.address = r.recipient.address := by
  unfold result
  split <;> rfl

/-- An outcome falls into final results and recipients for a retry. -/
theorem Outcome.perm_terminal_kept (outcome : Outcome) (b : Bool) :
    (addressesOf (outcome.terminal b) ++ (outcome.kept b).map (·.address)).Perm
      (outcome.recipients.map (·.recipient.address)) := by
  have terminal : addressesOf (outcome.terminal b) =
      (outcome.recipients.filter fun r => !isKept b r).map (·.recipient.address) := by
    simp [addressesOf, Outcome.terminal, RecipientOutcome.address_result]
  have kept : (outcome.kept b).map (·.address) =
      (outcome.recipients.filter (isKept b)).map (·.recipient.address) := by
    simp [Outcome.kept]
  rw [terminal, kept, ← List.map_append]
  refine List.Perm.map _ (List.perm_append_comm.trans ?_)
  exact List.filter_append_perm (isKept b) outcome.recipients

theorem addressesOf_failed (rs : List Recipient) (code : Nat) (message : String) :
    addressesOf (rs.map (.failed · code message)) = rs.map (·.address) := by
  simp [addressesOf, RecipientResult.failed]

section Moves

variable {g : Config} {n n' : Nat} {x y : Holding}

/-- A move changes no recipients. -/
theorem Move.addresses (m : Move Task.AnsweredBy g n x y n') :
    y.task.addresses = x.task.addresses := by
  cases m with
  | retry t budget => simp [Holding.task, Task.next, Task.retry, Task.addresses]
  | _ => rfl

theorem Move.faithful (m : Move Task.AnsweredBy g n x y n') (hx : x.Faithful) : y.Faithful := by
  cases m with
  | take | queue | sleep | defer | retry => trivial
  | start t p => exact nofun
  | reject t unknown code message =>
    show (addressesOf (t.recipients.map (.failed · code message)) ++ []).Perm _
    rw [List.append_nil, addressesOf_failed]
    exact List.Perm.refl _
  | giveUp e code message =>
    show (addressesOf (e.task.recipients.map (.failed · code message)) ++ []).Perm _
    rw [List.append_nil, addressesOf_failed]
    exact List.Perm.refl _
  | report a r fit =>
    intro outcome h
    exact fit outcome (Option.some.inj h)
  | answer a outcome h => exact (outcome.perm_terminal_kept _).trans (hx outcome h)
  | record s r left h =>
    have same : s.written ++ [r] ++ left = s.results := by
      rw [Settlement.results, h, List.append_assoc, List.singleton_append]
    show (addressesOf (s.written ++ [r] ++ left) ++ _).Perm _
    rw [same]
    exact hx

end Moves

namespace Custody

/-- The recipients of every open batch are settled or live, and those of a batch that ended well are in its
result. -/
structure Conserved (c : Custody) : Prop where
  faithful : ∀ x ∈ c.live, x.Faithful
  live : ∀ x ∈ c.live, ∀ s, c.entered[x.task.ticket]? = some s →
    (addressesOf (c.ledger.settledOf x.task.ticket) ++ x.task.addresses).Perm s.recipients
  ended : ∀ n r s, c.ledger.verdict? n = some (.ok r) → c.entered[n]? = some s →
    (addressesOf r.recipients).Perm s.recipients

namespace Conserved

variable {c d : Custody}

theorem change (hc : Conserved c) (h : Change Task.AnsweredBy c d) (owned : Owned c) : Conserved d := by
  cases h with
  | @move g e l n n' x y L m =>
    have hx : x ∈ x ::ₘ L := Multiset.mem_cons_self x L
    refine ⟨?_, ?_, hc.ended⟩
    · intro z hz
      rcases Multiset.mem_cons.1 hz with rfl | hz
      · exact m.faithful (hc.faithful x hx)
      · exact hc.faithful z (Multiset.mem_cons_of_mem hz)
    · intro z hz s hs
      rcases Multiset.mem_cons.1 hz with rfl | hz
      · rw [m.ticket] at hs ⊢
        rw [m.addresses]
        exact hc.live x hx s hs
      · exact hc.live z (Multiset.mem_cons_of_mem hz) s hs
  | @enter g e l n L s nonempty =>
    have length : e.length = l.accounts.length := owned.entered
    have old : ∀ k u, k < e.length → (e ++ [s])[k]? = some u → e[k]? = some u := by
      intro k u hk hu
      rwa [List.getElem?_append_left hk] at hu
    refine ⟨?_, ?_, ?_⟩
    · intro z hz
      rcases Multiset.mem_cons.1 hz with rfl | hz
      · trivial
      · exact hc.faithful z hz
    · intro z hz u hu
      rcases Multiset.mem_cons.1 hz with rfl | hz
      -- the first task: nothing is settled, and all recipients are live
      · have next : (e ++ [s])[l.accounts.length]? = some u := hu
        rw [← length, List.getElem?_concat_length] at next
        cases next
        have none : l.settledOf l.accounts.length = [] := by
          simp [Ledger.settledOf, Ledger.account?]
        have all : (s.task l.accounts.length).addresses = s.recipients := by
          simp [Task.addresses, Submission.task, Task.first, Function.comp_def]
        show (addressesOf ((l.enter s.batch).2.settledOf l.accounts.length) ++
          (s.task l.accounts.length).addresses).Perm s.recipients
        rw [Ledger.settledOf_enter, none, all]
        exact List.Perm.refl _
      · obtain ⟨b, hb, -⟩ := owned.batch z hz
        rw [Ledger.settledOf_enter]
        exact hc.live z hz u (old _ u (List.getElem?_eq_some_iff.1 hb).1 hu)
    · intro k r u hr hu
      rw [Ledger.verdict?_enter] at hr
      exact hc.ended k r u hr (old k u (length ▸ Ledger.lt_of_verdict? hr) hu)
  | @settle g e l n L s =>
    have live := owned.of_live
    have inside : s.task.ticket < l.accounts.length := Ledger.lt_of_isOpen live.1
    -- other live tasks are of other batches, whose results stay the same
    have alone : ∀ z ∈ L, s.task.ticket ≠ z.task.ticket := fun z hz => (live.2 z hz).symm
    have hs : Holding.settlement s ∈ Holding.settlement s ::ₘ L := Multiset.mem_cons_self _ L
    refine ⟨?_, ?_, ?_⟩
    · intro z hz
      rcases Multiset.mem_cons.1 hz with rfl | hz
      · trivial
      · exact hc.faithful z (Multiset.mem_cons_of_mem hz)
    · intro z hz u hu
      rcases Multiset.mem_cons.1 hz with rfl | hz
      · -- What was live is now settled, up to what is kept for a retry.
        have before := hc.live _ hs u hu
        have due : (s.due).Perm s.task.addresses := hc.faithful _ hs
        show (addressesOf ((l.settle s.task.ticket s.results).settledOf s.task.ticket) ++
          s.purpose.kept.map (·.address)).Perm u.recipients
        rw [Ledger.settledOf_settle _ _ _ inside, addressesOf, List.map_append,
          List.append_assoc]
        exact (due.append_left _).trans before
      · rw [Ledger.settledOf_settle_of_ne _ _ (alone z hz)]
        exact hc.live z (Multiset.mem_cons_of_mem hz) u hu
    · intro k r u hr hu
      rw [Ledger.verdict?_settle] at hr
      exact hc.ended k r u hr hu
  | @complete g e l n L t done =>
    have ht : Holding.outside t ∈ Holding.outside t ::ₘ L := Multiset.mem_cons_self _ L
    refine ⟨fun z hz => hc.faithful z (Multiset.mem_cons_of_mem hz), ?_, ?_⟩
    · intro z hz u hu
      rw [Ledger.complete, Ledger.settledOf_resolve]
      exact hc.live z (Multiset.mem_cons_of_mem hz) u hu
    · intro k r u hr hu
      rw [Ledger.complete, Ledger.verdict?_resolve] at hr
      split at hr
      · next same =>
        cases hr
        -- nothing is left of the task, so all recipients are settled
        obtain ⟨rfl, -⟩ := same
        have all := hc.live _ ht u hu
        rwa [Holding.task, Task.addresses, done, List.map_nil, List.append_nil] at all
      · exact hc.ended k r u hr hu
  | @fail g e l n L t cause =>
    refine ⟨fun z hz => hc.faithful z (Multiset.mem_cons_of_mem hz), ?_, ?_⟩
    · intro z hz u hu
      rw [Ledger.settledOf_resolve]
      exact hc.live z (Multiset.mem_cons_of_mem hz) u hu
    · intro k r u hr hu
      rw [Ledger.verdict?_resolve] at hr
      split at hr
      · cases hr
      · exact hc.ended k r u hr hu

theorem leads (h : Leads Task.AnsweredBy c d) (owned : Owned c) (hc : Conserved c) : Conserved d :=
  owned.keeps (fun _ _ step owned hc => hc.change step owned) h hc

end Conserved

end Custody

namespace World

open Custody

variable {w : World}

theorem conserved_opening (config : Config) (workers : Nat) (wall : Calendar.Moment) :
    (opening config workers wall).custody.Conserved := by
  have none := not_mem_live_opening config workers wall
  exact ⟨fun x hx => absurd hx (none x), fun x hx => absurd hx (none x), fun n r s hr => nomatch hr⟩

/-- A submission that was over at once had no recipients, and its result has none. -/
theorem ready_of_admitted {hs : List Happening} {s : Submission} {v : Verdict}
    (h : (s, Handle.ready v) ∈ w.admitted hs) :
    s.recipients = [] ∧ v = .ok ⟨s.batchId, s.domain, []⟩ := by
  induction hs generalizing w with
  | nil => cases h
  | cons k hs ih =>
    rcases List.mem_append.1 h with h | h
    · cases k with
      | submit u =>
        rcases Office.submit_cases w.office u with ⟨answer, hu, trace⟩ | ⟨nonempty, a, handle, hu⟩
        · simp only [admits, hu] at h
          cases answer with
          | error f => cases h
          | ok a =>
            obtain ⟨empty, ended⟩ := trace a rfl
            have same := List.mem_singleton.1 h
            rw [ended] at same
            cases same
            exact ⟨empty, rfl⟩
        · simp only [admits, hu] at h
          have same := List.mem_singleton.1 h
          rw [handle] at same
          cases same
      | _ => cases h
    · exact ih h

/-- The recipients of the batches admitted so far. -/
structure RecipientsKept (w : World) (admitted : List (Submission × Handle)) : Prop where
  /-- Until a batch ends, its recipients are those settled and those of its one live task. -/
  unresolved : ∀ s n, (s, .ticket n) ∈ admitted → w.office.verdict? (.ticket n) = none →
    ∃ x, w.heldOf n = [x] ∧ (addressesOf (w.office.ledger.settledOf n) ++ x.due).Perm s.recipients
  /-- A batch that ends well has a result for each of its recipients. -/
  resolved : ∀ s handle r, (s, handle) ∈ admitted → w.office.verdict? handle = some (.ok r) →
    (addressesOf r.recipients).Perm s.recipients ∧ r.delivered + r.failed = s.recipients.length

theorem recipientsKept_of_conserved {admitted : List (Submission × Handle)} (owned : w.custody.Owned)
    (conserved : w.custody.Conserved) (entered : admitted.filterMap ticketed = w.entered.zipIdx)
    (ready : ∀ s v, (s, Handle.ready v) ∈ admitted →
      s.recipients = [] ∧ v = .ok ⟨s.batchId, s.domain, []⟩) : RecipientsKept w admitted := by
  have single := singleOwner_of_owned owned entered
  have known := mem_entered entered
  constructor
  · intro s n hs unended
    obtain ⟨m, x, he, hx, -⟩ := single.unresolved s _ hs unended
    cases he
    obtain ⟨live, ticket⟩ := mem_heldOf.1 (hx ▸ List.mem_singleton_self x)
    have live : x ∈ w.custody.live := by rwa [custody_live, Multiset.mem_coe]
    -- settled results and the live task, in terms of what it still answers for
    have all := conserved.live x live s (ticket ▸ (known s n).1 hs)
    rw [ticket] at all
    exact ⟨x, hx, ((conserved.faithful x live).due.append_left _).trans all⟩
  · intro s handle r hs ended
    have all : (addressesOf r.recipients).Perm s.recipients := by
      cases handle with
      | ready v =>
        obtain ⟨empty, rfl⟩ := ready s v hs
        cases ended
        rw [empty]
        exact List.Perm.refl _
      | ticket n => exact conserved.ended n r s ended ((known s n).1 hs)
    refine ⟨all, ?_⟩
    rw [BatchResult.delivered_add_failed, ← all.length_eq, addressesOf, List.length_map]

/-- The report of the session of an attempt fits. -/
theorem fits_session (regular : w.custody.Regular) {a : Attempt} (ha : a ∈ w.office.attempts)
    {σ : Type} (peer : Peer σ) (policy : RecipientPolicy) (p : σ) :
    Fits Task.AnsweredBy w
      (.sendEnded a.number (.ok (Session.run peer policy (Office.requestOf a) p).outcome)) := by
  intro b hb same outcome h
  have alone := List.inj_on_of_nodup_map (nodup_attempts regular) hb ha same
  cases h
  rw [alone]
  exact answeredBy_session peer policy p a

/-- Where sends answer for each recipient once, the recipients of all batches are kept along every history
of a new office. The sessions of its attempts are such sends. -/
theorem recipientsKept_run (config : Config) (workers : Nat) (wall : Calendar.Moment) (hs : List Happening)
    (answered : Along (Fits Task.AnsweredBy) (opening config workers wall) hs) :
    RecipientsKept ((opening config workers wall).run hs)
        ((opening config workers wall).admitted hs) ∧
      ∀ a ∈ ((opening config workers wall).run hs).office.attempts,
        ∀ (σ : Type) (peer : Peer σ) (policy : RecipientPolicy) (p : σ),
          Fits Task.AnsweredBy ((opening config workers wall).run hs)
            (.sendEnded a.number (.ok (Session.run peer policy (Office.requestOf a) p).outcome)) := by
  have regular := regular_opening config workers wall
  have start := owned_opening config workers wall
  have conserved := (conserved_opening config workers wall).leads (leads_run regular answered) start
  refine ⟨?_, fun a ha σ peer policy p => fits_session (regular_run regular hs) ha peer policy p⟩
  exact recipientsKept_of_conserved (owned_run regular start hs) conserved
    (entered_run regular start hs).symm fun s v h => ready_of_admitted h

/-- A submission for two recipients. -/
def letter : Submission where
  id := "b1"
  domain := ⟨"example.org"⟩
  recipients := ["a@example.org", "b@example.org"]
  traffic := .realtime
  message := ⟨"s@example.org", 5, false⟩

/-- One of the recipients is delivered and the other may be retried. -/
def halfDelivered : Outcome where
  recipients := [⟨{ address := "b@example.org" }, 450, "later", .retryable⟩,
    ⟨{ address := "a@example.org" }, 250, "OK", .delivered⟩]

/-- A history with a retry for one of two recipients. -/
theorem recipientsKept_letter :
    Along (Fits Task.AnsweredBy) (opening {} 4 0)
        [.submit letter, .tick, .sendEnded 0 (.ok halfDelivered), .collect 0] ∧
      RecipientsKept
        ((opening {} 4 0).run [.submit letter, .tick, .sendEnded 0 (.ok halfDelivered), .collect 0])
        [(letter, .ticket 0)] := by
  have sent : ((opening {} 4 0).run [.submit letter, .tick]).office.attempts.map (·.task.addresses) =
      [["a@example.org", "b@example.org"]] := by decide
  have answered : Along (Fits Task.AnsweredBy) (opening {} 4 0)
      [.submit letter, .tick, .sendEnded 0 (.ok halfDelivered), .collect 0] := by
    refine ⟨trivial, trivial, fun a ha _ outcome h => ?_, trivial, trivial⟩
    cases h
    have listed : a.task.addresses ∈
        ((opening {} 4 0).run [.submit letter, .tick]).office.attempts.map (·.task.addresses) :=
      List.mem_map_of_mem ha
    rw [sent, List.mem_singleton] at listed
    rw [Task.AnsweredBy, listed]
    exact List.Perm.swap ..
  exact ⟨answered, (recipientsKept_run {} 4 0 _ answered).1⟩

end World

end Postroom
