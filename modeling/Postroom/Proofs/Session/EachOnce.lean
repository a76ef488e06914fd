import Mathlib.Data.List.Basic
import Postroom.Session.Conversation

/-!
# A session answers for each recipient once

With any peer, and wherever the session breaks, the outcome has each recipient of the request exactly once.
During the conversation a recipient that was named is either decided or accepted.

- `Session.State.known`: the recipients decided or accepted so far. `Session.known_offer`: naming one adds it.
- `Session.perm_run`: the outcome of a whole session.
-/

namespace Postroom.Session

variable {σ : Type} (peer : Peer σ) (policy : RecipientPolicy) (q : Request)

namespace State

/-- The recipients decided so far. -/
def settled (s : State σ) : List Recipient := s.decided.map (·.recipient)

/-- The recipients of whom something is known: decided, or accepted and to be decided. -/
def known (s : State σ) : List Recipient := s.settled ++ s.accepted

theorem settled_refuseAll (s : State σ) (r : Response) (rs : List Recipient) :
    (s.refuseAll policy r rs).settled = s.settled ++ rs := by
  simp [settled, refuseAll, refuse, Function.comp_def]

theorem settled_afterRefusal (s : State σ) (r : Response) :
    (s.afterRefusal peer policy r).settled = s.settled := by
  unfold afterRefusal
  split <;> rfl

/-- A recipient that fails is known from then on. -/
theorem known_refuseOne (s : State σ) (r : Response) (recipient : Recipient) :
    (s.refuseAll policy r [recipient]).known.Perm (s.known ++ [recipient]) := by
  have accepted : (s.refuseAll policy r [recipient]).accepted = s.accepted := rfl
  rw [known, settled_refuseAll, accepted, known, List.append_assoc, List.append_assoc]
  exact List.Perm.append_left _ List.perm_append_comm

end State

/-- Naming a recipient decides or accepts it. -/
theorem known_offer (s : State σ) (r : Recipient) :
    (offer peer policy s r).known.Perm (s.known ++ [r]) := by
  unfold offer
  split
  · exact s.known_refuseOne policy _ r
  · split
    · exact (s.breakFor policy _).known_refuseOne policy _ r
    · rcases peer.rcptTo r.address s.peer with ⟨reply, p⟩
      -- the session after the question; what is decided next depends on the answer
      let t : State σ := { s.act (.rcptTo r.address) with peer := p }
      cases reply with
      | error f => exact (t.breakFor policy _).known_refuseOne policy _ r
      | ok response =>
        dsimp only
        split
        · rw [State.known, ← List.append_assoc]
          exact List.Perm.refl _
        · split
          · exact t.known_refuseOne policy _ r
          · exact t.known_refuseOne policy _ r

theorem known_foldl_offer (rs : List Recipient) (s : State σ) :
    (rs.foldl (offer peer policy) s).known.Perm (s.known ++ rs) := by
  induction rs generalizing s with
  | nil => rw [List.append_nil]; exact List.Perm.refl _
  | cons r rs ih =>
    have first := (known_offer peer policy s r).append_right rs
    rw [List.append_assoc, List.singleton_append] at first
    exact (ih _).trans first

/-- The message decides whoever was accepted. -/
theorem settled_deliver (s : State σ) : (deliver peer policy q s).settled = s.known := by
  unfold deliver
  rcases peer.payload q.message s.peer with ⟨reply, p⟩
  cases reply with
  | error f => exact State.settled_refuseAll policy _ _ _
  | ok response =>
    dsimp only
    split
    · simp [State.settled, State.known, State.act, Function.comp_def]
    · rw [State.settled_refuseAll, State.settled_afterRefusal]
      rfl

theorem settled_offerAll (s : State σ) :
    (offerAll peer policy q s).settled.Perm (s.known ++ q.recipients) := by
  have named := known_foldl_offer peer policy q.recipients s
  unfold offerAll
  dsimp only
  -- t is the session once all were named
  generalize q.recipients.foldl (offer peer policy) s = t at *
  split
  · rw [State.settled_refuseAll]
    exact named
  · split
    · next empty =>
      have all : (t.reset peer).settled = t.known := by
        rw [State.known, List.isEmpty_iff.1 empty, List.append_nil]
        rfl
      rw [all]
      exact named
    · rw [settled_deliver]
      exact named

theorem settled_converse (s : State σ) (fresh : s.known = []) :
    (converse peer policy q s).settled.Perm q.recipients := by
  -- nothing is decided before the first answer, so a refusal decides all
  have none : s.settled = [] := (List.append_eq_nil_iff.1 fresh).1
  unfold converse
  rcases peer.mailFrom q.message.sender s.peer with ⟨reply, p⟩
  let t : State σ := { s.act (.mailFrom q.message.sender) with peer := p }
  cases reply with
  | error f =>
    dsimp only
    rw [State.settled_refuseAll, show (t.fail policy.sessionFailureCode).settled = [] from none]
    exact List.Perm.refl _
  | ok response =>
    dsimp only
    split
    · have all := settled_offerAll peer policy q t
      rwa [show t.known = [] from fresh, List.nil_append] at all
    · rw [State.settled_refuseAll, State.settled_afterRefusal, show t.settled = [] from none]
      exact List.Perm.refl _

/-- The outcome of a session has each recipient of the request once. -/
theorem perm_run (p : σ) :
    ((run peer policy q p).outcome.recipients.map (·.recipient)).Perm q.recipients := by
  unfold run
  rcases peer.openSession q.domain q.source p with ⟨opening, p'⟩
  let s : State σ := { peer := p', acts := [.opened q.domain q.source] }
  cases opening with
  | error e =>
    have refused := State.settled_refuseAll policy (s.fail (e.code.getD policy.sessionFailureCode))
      ⟨e.code.getD policy.sessionFailureCode, e.message⟩ q.recipients
    exact List.Perm.of_eq refused
  | ok _ => exact settled_converse peer policy q s rfl

end Postroom.Session
