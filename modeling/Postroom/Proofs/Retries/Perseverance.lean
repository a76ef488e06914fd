import Mathlib.Data.List.Induction
import Postroom.Proofs.Retries.Tries
import Postroom.Proofs.Settlements.Sinks

/-!
# No recipient is given up early

Where sends are sessions, a batch that ends well has failures of three kinds only: the domain is not known, the
code is excluded from retries, or every retry is spent. Nothing is retried more often than the settings allow, so
no count of retries grows beyond what they allow either.

- `World.Retries`: the retries that a happening schedules.
- `World.exists_settles_of_settledOf`: every final result became so with a settlement.
- `World.Perseveres`, `World.perseveres_run`: what this means for the handles, and for what is live.
-/

namespace Postroom

namespace World

open Custody Office

variable {w : World} {g : Config} {h : Happening} {n : Nat}

/-- When `h` happens, a retry of a task for recipients that are kept may be scheduled. -/
inductive Retries (w : World) : Happening → Task → List Recipient → Prop
  /-- Its wait for resources has run out. -/
  | waited {h : Happening} {o : Office} {t : Task} (executed : (o, t) ∈ w.executed h)
      (escalates : o.escalates t) : Retries w h t t.recipients
  /-- Results of it have become final, but not all. -/
  | settled {h : Happening} {z : Settlement} (settles : w.settles? h = some z) (kept : z.purpose.kept ≠ []) :
      Retries w h z.task z.purpose.kept
  /-- Its send has failed as a whole. -/
  | failed {k : Nat} {a : Attempt} {cause : Fault} (found : w.office.attempt? k = some a)
      (reported : a.report = some (.error cause)) (retryable : cause.isRetryable)
      (budget : w.office.config.retry.hasBudget a.task.retries) : Retries w (.collect k) a.task a.task.recipients

/-! ### What becomes final -/

/-- A settlement that becomes final comes to its results by a move of a task that fits. -/
theorem move_of_settles? {R : Task → Outcome → Prop} (regular : w.custody.Regular) (patient : w.custody.Patient g)
    {z : Settlement} (settles : w.settles? h = some z) :
    ∃ x k k', Move R g k x (.settlement z) k' ∧ x.task.Proper ∧ x.task.retries ≤ g.retry.maxRetries ∧
      x.Patient g ∧ ∀ u, x = .settlement u → u.Affordable g := by
  have config : w.office.config = g := patient.config
  have live : ∀ x ∈ w.holdings, x.task.Proper ∧ x.task.retries ≤ g.retry.maxRetries ∧ x.Patient g ∧
      ∀ u, x = .settlement u → u.Affordable g := by
    intro x hx
    refine ⟨patient.proper x (mem_live.2 hx), patient.within x (mem_live.2 hx), patient.patient x (mem_live.2 hx),
      ?_⟩
    rintro u rfl
    exact config ▸ affordable_settlements regular u (mem_holdings_settlement.1 hx)
  cases h with
  | recordAccepted k =>
    obtain ⟨s, found, last⟩ := Option.bind_eq_some_iff.1 settles
    have hs := mem_holdings_settlement.2 (List.mem_of_find?_eq_some found)
    split at last
    · next r left =>
      cases last
      exact ⟨_, 0, 0, .record s r [] left, live _ hs⟩
    · cases last
  | collect k =>
    obtain ⟨a, found, answered⟩ := Option.bind_eq_some_iff.1 (Option.filter_eq_some_iff.1 settles).1
    have ha := mem_holdings_attempt.2 (List.mem_of_find?_eq_some found)
    split at answered
    · next outcome reported =>
      split at answered
      · cases answered
      · cases answered
        rw [settlementOf, config]
        exact ⟨_, 0, 0, .answer a outcome reported, live _ ha⟩
    · cases answered
  | beginExpiry k =>
    obtain ⟨e, found, rfl⟩ := Option.map_eq_some_iff.1 (Option.filter_eq_some_iff.1 settles).1
    have he := mem_holdings_expiry.2 (List.mem_of_find?_eq_some found)
    obtain rfl : e.number = k := Numbered.number_of_found found
    exact ⟨_, 0, 0, .giveUp e _ _, live _ he⟩
  | submit s =>
    have away : w.office.turnedAway? s = some z := (Option.filter_eq_some_iff.1 settles).1
    unfold turnedAway? at away
    split at away
    · split at away
      · next unknown =>
        cases away
        have proper : (w.office.enter s).1.Proper := .first ..
        have reject := Move.reject (R := R) (g := g) (n := w.office.nextNumber) (w.office.enter s).1 unknown
          w.office.config.recipients.invalidDomainCode "Invalid recipient domain"
        refine ⟨_, _, _, reject, proper, Nat.zero_le _, trivial, fun u same => ?_⟩
        cases same
      · cases away
    · cases away
  | _ => cases settles

/-- The results that become final fit their task, and what is kept for a retry may be retried. -/
theorem patient_settles? (regular : w.custody.Regular) (patient : w.custody.Patient g) {z : Settlement}
    (settles : w.settles? h = some z) : (Holding.settlement z).Patient g ∧ z.Affordable g := by
  obtain ⟨x, k, k', move, proper, within, patient, affordable⟩ :=
    move_of_settles? (R := Task.SentBySession g.recipients) regular patient settles
  exact ⟨move.patient proper within patient, move.affordable affordable⟩

/-- Every final result became so with a settlement. -/
theorem exists_settles_of_settledOf {start : World} (regular : start.custody.Regular)
    (owned : start.custody.Owned) (none : start.office.ledger.settledOf n = []) (hs : List Happening) :
    ∀ x ∈ (start.run hs).office.ledger.settledOf n, ∃ ks h js z, hs = ks ++ h :: js ∧
      (start.run ks).settles? h = some z ∧ z.task.ticket = n ∧ x ∈ z.results := by
  induction hs using List.reverseRecOn with
  | nil =>
    intro x hx
    rw [run_nil, none] at hx
    cases hx
  | append_singleton hs h ih =>
    intro x hx
    rw [run_append, run_cons, run_nil, settledOf_after (owned_run regular owned hs)] at hx
    rcases List.mem_append.1 hx with old | new
    · obtain ⟨ks, k, js, z, rfl, settles, ticket, listed⟩ := ih x old
      refine ⟨ks, k, js ++ [h], z, ?_, settles, ticket, listed⟩
      rw [List.append_assoc]
      rfl
    · cases settles : (start.run hs).settles? h with
      | none =>
        rw [settles] at new
        cases new
      | some z =>
        rw [settles, finalFor] at new
        split at new
        · next ticket => exact ⟨hs, h, [], z, rfl, settles, ticket, new⟩
        · cases new

/-! ### What is retried -/

/-- Whatever is retried has a retry left, and so has each recipient. -/
theorem lt_maxRetries_of_retries (regular : w.custody.Regular) (owned : w.custody.Owned)
    (patient : w.custody.Patient g) {t : Task} {kept : List Recipient} (retries : w.Retries h t kept) :
    t.retries < g.retry.maxRetries ∧ ∀ r ∈ kept, r.retries = t.retries := by
  have config : w.office.config = g := patient.config
  cases retries with
  | @waited _ o t executed escalates =>
    have taken := patient.leads (leads_of_executed executed) owned
    have config : o.config = g := taken.config
    refine ⟨config ▸ lt_maxRetries_of_escalates escalates, ?_⟩
    exact (taken.proper _ (mem_live.2 (mem_holding w o t))).counted
  | settled settles kept =>
    obtain ⟨fits, affordable⟩ := patient_settles? regular patient settles
    exact ⟨of_decide_eq_true (affordable kept), fits.2⟩
  | failed found reported retryable budget =>
    have live := mem_live.2 (mem_holdings_attempt.2 (List.mem_of_find?_eq_some found))
    rw [config] at budget
    exact ⟨of_decide_eq_true budget, (patient.proper _ live).counted⟩

/-! ### What it means for the handles -/

/-- With settings `g`, no recipient of the batches admitted along a history is given up early. -/
structure Perseveres (g : Config) (start : World) (hs : List Happening) : Prop where
  /-- In the result of a batch that ended well, every failure is of a domain that is not known, has a code that is
  excluded from retries, or comes after as many retries as are allowed. -/
  failed : ∀ s handle r, (s, handle) ∈ start.admitted hs →
    (start.run hs).office.verdict? handle = some (.ok r) → ∀ x ∈ r.recipients, x.status = .failed →
      s.domain.isUnroutable ∨ x.code ∈ g.recipients.excludedCodes ∨ x.retries = g.retry.maxRetries
  /-- Each result there counts at most as many retries as are allowed, and as many as the task with which it
  became final. -/
  counted : ∀ s handle r, (s, handle) ∈ start.admitted hs →
    (start.run hs).office.verdict? handle = some (.ok r) → ∀ x ∈ r.recipients,
      x.retries ≤ g.retry.maxRetries ∧ ∃ ks h js z, hs = ks ++ h :: js ∧
        (start.run ks).settles? h = some z ∧ handle = .ticket z.task.ticket ∧ x ∈ z.results ∧
        x.retries = z.task.retries
  /-- The attempts at a batch that start, and the waits that cost it a retry, are at most one more than the retries
  that are allowed. -/
  tried : ∀ n, start.triesAlong hs n ≤ g.retry.maxRetries + 1
  /-- A live task belongs to a batch that was admitted. Its name, its lane and its recipients go with the number of
  its retries, which are at most as many as are allowed. -/
  live : ∀ x ∈ (start.run hs).holdings, x.task.Proper ∧ x.task.retries ≤ g.retry.maxRetries ∧
    ∃ s, (s, .ticket x.task.ticket) ∈ start.admitted hs ∧ x.task.batch = s.batch
  /-- Whatever was retried had a retry left. Where the number of retries that are allowed is one of 32 bits, so is
  every count that was raised. -/
  retried : ∀ ks h js t kept, hs = ks ++ h :: js → (start.run ks).Retries h t kept →
    t.retries < g.retry.maxRetries ∧ (∀ r ∈ kept, r.retries = t.retries) ∧
      (g.retry.maxRetries < twoTo 32 → t.retries + 1 < twoTo 32)

theorem patient_opening (config : Config) (workers : Nat) (wall : Calendar.Moment) :
    (opening config workers wall).custody.Patient config := by
  have none := not_mem_live_opening config workers wall
  exact ⟨rfl, fun x hx => absurd hx (none x), fun x hx => absurd hx (none x), fun x hx => absurd hx (none x),
    fun _ _ _ _ hr => nomatch hr⟩

section Opening

variable {config : Config} {workers : Nat} {wall : Calendar.Moment} {hs : List Happening}

theorem patient_run (sent : Along (Fits (Task.SentBySession config.recipients)) (opening config workers wall) hs) :
    ((opening config workers wall).run hs).custody.Patient config :=
  (patient_opening config workers wall).leads (leads_run (regular_opening config workers wall) sent)
    (owned_opening config workers wall)

/-- The results of a batch that ended well are its final results. -/
theorem settled_of_admitted {s : Submission} {handle : Handle} {r : BatchResult}
    (admitted : (s, handle) ∈ (opening config workers wall).admitted hs)
    (ended : ((opening config workers wall).run hs).office.verdict? handle = some (.ok r)) :
    ∀ x ∈ r.recipients, ∃ n, handle = .ticket n ∧
      ((opening config workers wall).run hs).entered[n]? = some s ∧
      x ∈ ((opening config workers wall).run hs).office.ledger.settledOf n := by
  intro x hx
  cases handle with
  | ready v =>
    obtain ⟨-, rfl⟩ := ready_of_admitted admitted
    cases ended
    cases hx
  | ticket n =>
    have entered := entered_run (regular_opening config workers wall) (owned_opening config workers wall) hs
    have listed : r.recipients = ((opening config workers wall).run hs).office.ledger.settledOf n :=
      summed_run config workers wall hs n r ended
    exact ⟨n, rfl, (mem_entered entered.symm s n).1 admitted, listed ▸ hx⟩

end Opening

/-- Where the reports of sends are those of sessions, no recipient is given up early along any history of a new
office. -/
theorem perseveres_run (config : Config) (workers : Nat) (wall : Calendar.Moment) (hs : List Happening)
    (sent : Along (Fits (Task.SentBySession config.recipients)) (opening config workers wall) hs) :
    Perseveres config (opening config workers wall) hs := by
  have regular₀ := regular_opening config workers wall
  have owned₀ := owned_opening config workers wall
  have patient := patient_run sent
  refine ⟨?_, ?_, ?_, ?_, ?_⟩
  · intro s handle r admitted ended x hx
    obtain ⟨n, -, inside, settled⟩ := settled_of_admitted admitted ended x hx
    exact (patient.settled n s inside x settled).2
  · intro s handle r admitted ended x hx
    obtain ⟨n, rfl, inside, settled⟩ := settled_of_admitted admitted ended x hx
    refine ⟨(patient.settled n s inside x settled).1, ?_⟩
    obtain ⟨ks, h, js, z, rfl, settles, ticket, listed⟩ :=
      exists_settles_of_settledOf regular₀ owned₀ rfl hs x settled
    have fits := (patient_settles? (regular_run regular₀ ks) (patient_run (along_append.1 sent).1) settles).1
    exact ⟨ks, h, js, z, rfl, settles, congrArg Handle.ticket ticket.symm, listed, (fits.1 x listed).retries⟩
  · intro n
    have tried := (tried_opening (n := n) config workers wall).run regular₀ owned₀
      (patient_opening config workers wall) sent
    have within := tried.within
    omega
  · intro x hx
    have single := singleOwner_of_owned (owned_run regular₀ owned₀ hs) (entered_run regular₀ owned₀ hs).symm
    exact ⟨patient.proper x (mem_live.2 hx), patient.within x (mem_live.2 hx), (single.live x hx).2⟩
  · rintro ks h js t kept rfl retries
    obtain ⟨left, counted⟩ := lt_maxRetries_of_retries (regular_run regular₀ ks) (owned_run regular₀ owned₀ ks)
      (patient_run (along_append.1 sent).1) retries
    refine ⟨left, counted, fun small => ?_⟩
    omega

/-- A peer that puts off one recipient. -/
def busyFor (address : String) : Peer Unit where
  openSession _ _ p := (.ok (), p)
  isValid _ := true
  mailFrom _ p := (.ok ⟨250, "OK"⟩, p)
  rcptTo a p := (.ok (if a = address then ⟨450, "later"⟩ else ⟨250, "OK"⟩), p)
  payload _ p := (.ok ⟨250, "OK"⟩, p)
  reset p := p
  close p := p

/-- The session for some recipients of the letter. -/
def letterSession (rs : List Recipient) : Outcome :=
  (Session.run (busyFor "b@example.org") {} ⟨letter.domain, .v4 [], rs, letter.message⟩ ()).outcome

/-- Settings that allow one retry. -/
def oneRetry : Config := { retry := { maxRetries := 1 } }

/-- The letter is tried twice. -/
def letterTwice : List Happening :=
  [.submit letter, .tick,
    .sendEnded 0 (.ok (letterSession [{ address := "a@example.org" }, { address := "b@example.org" }])),
    .collect 0, .pass 1000, .wake 1, .tick,
    .sendEnded 2 (.ok (letterSession [{ address := "b@example.org", retries := 1 }])), .collect 2]

theorem fits_letterSession {k : Nat} {rs : List Recipient}
    (running : w.office.attempts.map (fun a => (a.task.domain, a.task.recipients, a.task.batch.message)) =
      [(letter.domain, rs, letter.message)]) :
    Fits (Task.SentBySession {}) w (.sendEnded k (.ok (letterSession rs))) := by
  intro a ha _ outcome same
  cases same
  have listed := List.mem_map_of_mem (f := fun a : Attempt =>
    (a.task.domain, a.task.recipients, a.task.batch.message)) ha
  rw [running, List.mem_singleton] at listed
  obtain ⟨domain, rest⟩ := Prod.mk.inj listed
  obtain ⟨recipients, message⟩ := Prod.mk.inj rest
  refine ⟨Unit, busyFor "b@example.org", .v4 [], (), ?_⟩
  rw [domain, recipients, message]
  rfl

/-- With one retry allowed, a recipient that is put off each time is tried twice. -/
theorem perseveres_letterTwice :
    Along (Fits (Task.SentBySession {})) (opening oneRetry 4 0) letterTwice ∧
      Perseveres oneRetry (opening oneRetry 4 0) letterTwice ∧
      (opening oneRetry 4 0).triesAlong letterTwice 0 = 2 := by
  have sent : Along (Fits (Task.SentBySession {})) (opening oneRetry 4 0) letterTwice := by
    refine ⟨trivial, trivial, fits_letterSession ?_, trivial, trivial, trivial, trivial, fits_letterSession ?_,
      trivial, trivial⟩
    · decide
    · decide
  exact ⟨sent, perseveres_run oneRetry 4 0 letterTwice sent, by decide⟩

/-- Then it fails, with as many retries as are allowed. -/
example : (((opening oneRetry 4 0).run letterTwice).office.verdict? (.ticket 0)).map
    (·.toOption.map (·.recipients)) = some (some [⟨"a@example.org", .delivered, 250, "OK", 0⟩,
      ⟨"b@example.org", .failed, 450, "later", 1⟩]) := by decide

end World

end Postroom
