import Postroom.Session.Conversation

/-!
# A session classifies by code

Whoever a session does not deliver to is worth another attempt exactly where the code of the refusal is not
excluded from retries. This holds with any peer and wherever the session breaks.

- `RecipientOutcome.Classified`: the outcome for one recipient is of this kind.
- `Session.classified_run`: all outcomes of a session are.
-/

namespace Postroom

/-- A recipient is delivered, or classified by the code of the refusal. -/
def RecipientOutcome.Classified (policy : RecipientPolicy) (r : RecipientOutcome) : Prop :=
  r.disposition = .delivered ∨
    r.disposition = if policy.isRetryable r.code then .retryable else .permanent

namespace Session

variable {σ : Type} (peer : Peer σ) (policy : RecipientPolicy) (q : Request)

namespace State

/-- All decisions so far are classified. -/
def AllClassified (s : State σ) : Prop := ∀ r ∈ s.decided, r.Classified policy

variable {policy} {s : State σ}

theorem AllClassified.refuseAll (all : s.AllClassified policy) (r : Response) (rs : List Recipient) :
    (s.refuseAll policy r rs).AllClassified policy := by
  intro o ho
  rcases List.mem_append.1 ho with old | new
  · exact all o old
  · obtain ⟨recipient, -, rfl⟩ := List.mem_map.1 new
    exact .inr rfl

theorem AllClassified.afterRefusal (all : s.AllClassified policy) (r : Response) :
    (s.afterRefusal peer policy r).AllClassified policy := by
  unfold State.afterRefusal
  split <;> exact all

end State

variable {policy} {s : State σ}

theorem classified_offer (all : s.AllClassified policy) (r : Recipient) :
    (offer peer policy s r).AllClassified policy := by
  unfold offer
  split
  · exact all.refuseAll _ _
  · split
    · exact State.AllClassified.refuseAll (s := s.breakFor policy _) all _ _
    · rcases peer.rcptTo r.address s.peer with ⟨reply, p⟩
      -- the session after the question, in which nothing more is decided
      let t : State σ := { s.act (.rcptTo r.address) with peer := p }
      have still : t.AllClassified policy := all
      cases reply with
      | error f => exact State.AllClassified.refuseAll (s := t.breakFor policy _) still _ _
      | ok response =>
        dsimp only
        split
        · exact all
        · split
          · exact still.refuseAll response [r]
          · exact still.refuseAll response [r]

theorem classified_foldl_offer (all : s.AllClassified policy) (rs : List Recipient) :
    (rs.foldl (offer peer policy) s).AllClassified policy := by
  induction rs generalizing s with
  | nil => exact all
  | cons r rs ih => exact ih (classified_offer peer all r)

theorem classified_deliver (all : s.AllClassified policy) :
    (deliver peer policy q s).AllClassified policy := by
  unfold deliver
  rcases peer.payload q.message s.peer with ⟨reply, p⟩
  let t : State σ := { s.act (.payload q.message.size) with peer := p }
  have still : t.AllClassified policy := all
  cases reply with
  | error f => exact State.AllClassified.refuseAll (s := t.fail policy.sessionFailureCode) still _ _
  | ok response =>
    dsimp only
    split
    · intro o ho
      rcases List.mem_append.1 ho with old | new
      · exact all o old
      · obtain ⟨recipient, -, rfl⟩ := List.mem_map.1 new
        exact .inl rfl
    · exact (still.afterRefusal peer response).refuseAll _ _

theorem classified_offerAll (all : s.AllClassified policy) :
    (offerAll peer policy q s).AllClassified policy := by
  have named := classified_foldl_offer peer all q.recipients
  unfold offerAll
  dsimp only
  -- t is the session once all were named
  generalize q.recipients.foldl (offer peer policy) s = t at *
  split
  · exact named.refuseAll _ _
  · split
    · exact named
    · exact classified_deliver peer q named

theorem classified_converse (all : s.AllClassified policy) :
    (converse peer policy q s).AllClassified policy := by
  unfold converse
  rcases peer.mailFrom q.message.sender s.peer with ⟨reply, p⟩
  let t : State σ := { s.act (.mailFrom q.message.sender) with peer := p }
  have still : t.AllClassified policy := all
  cases reply with
  | error f => exact State.AllClassified.refuseAll (s := t.fail policy.sessionFailureCode) still _ _
  | ok response =>
    dsimp only
    split
    · exact classified_offerAll peer q still
    · exact (still.afterRefusal peer response).refuseAll _ _

/-- All outcomes of a session are classified. -/
theorem classified_run (policy : RecipientPolicy) (p : σ) :
    ∀ r ∈ (run peer policy q p).outcome.recipients, r.Classified policy := by
  unfold run
  rcases peer.openSession q.domain q.source p with ⟨opening, p'⟩
  -- nothing is decided when the session opens
  let s : State σ := { peer := p', acts := [.opened q.domain q.source] }
  have none : s.AllClassified policy := fun _ ho => nomatch ho
  cases opening with
  | error e =>
    exact State.AllClassified.refuseAll (s := s.fail (e.code.getD policy.sessionFailureCode)) none _ _
  | ok _ => exact classified_converse peer q none

end Session

end Postroom
