import Postroom.Proofs.Session.Course

/-!
# A peer that shows another one

A peer may carry more than the answers need, such as notes of its own. If it answers as another peer does, a
session with it takes the same steps and comes to the same.

- `Peer.Shows`: a peer answers as another one does.
- `Session.through_run`: a session with the one is a session with the other.
-/

namespace Postroom

variable {σ τ : Type}

/-- A peer shows another one if it answers as the other does in the state that `f` gives. -/
structure Peer.Shows (shown : Peer τ) (peer : Peer σ) (f : τ → σ) : Prop where
  openSession d a s : peer.openSession d a (f s) = ((shown.openSession d a s).1, f (shown.openSession d a s).2)
  isValid s : peer.isValid (f s) = shown.isValid s
  mailFrom m s : peer.mailFrom m (f s) = ((shown.mailFrom m s).1, f (shown.mailFrom m s).2)
  rcptTo a s : peer.rcptTo a (f s) = ((shown.rcptTo a s).1, f (shown.rcptTo a s).2)
  payload m s : peer.payload m (f s) = ((shown.payload m s).1, f (shown.payload m s).2)
  reset s : peer.reset (f s) = f (shown.reset s)
  close s : peer.close (f s) = f (shown.close s)

namespace Session

/-! ### A peer that shows another one -/

/-- A session as it is with the peer that is shown. -/
def State.through (f : τ → σ) (s : State τ) : State σ :=
  ⟨f s.peer, s.acts, s.decided, s.accepted, s.failure, s.broken⟩

section Shows

variable {shown : Peer τ} {peer : Peer σ} {f : τ → σ} (same : shown.Shows peer f)
  (policy : RecipientPolicy) (q : Request)

include same

theorem through_afterRefusal (s : State τ) (a : Response) :
    (s.afterRefusal shown policy a).through f = (s.through f).afterRefusal peer policy a := by
  unfold State.afterRefusal
  split
  · rfl
  · rw [State.reset, State.reset]
    show _ = State.mk (peer.reset (f s.peer)) _ _ _ _ _
    rw [same.reset]
    rfl

theorem through_named (s : State τ) (r : Recipient) :
    (s.named shown r).through f = (s.through f).named peer r := by
  show _ = State.mk (peer.rcptTo r.address (f s.peer)).2 _ _ _ _ _
  rw [same.rcptTo]
  rfl

theorem meets_through (s : State τ) (r : Recipient) : (s.through f).meets peer r = s.meets shown r := by
  show Naming.mk r (peer.isValid (f s.peer)) (peer.rcptTo r.address (f s.peer)).1 = _
  rw [same.isValid, same.rcptTo]
  rfl

theorem through_offer (s : State τ) (r : Recipient) :
    (offer shown policy s r).through f = offer peer policy (s.through f) r := by
  cases broken : s.broken with
  | some b =>
    have also : (s.through f).broken = some b := broken
    rw [offer, offer, broken, also]
    rfl
  | none =>
    have also : (s.through f).broken = none := broken
    cases breaks : (s.meets shown r).break? policy with
    | some b =>
      have alike := breaks
      rw [← meets_through same] at alike
      rw [offer_of_break broken breaks, offer_of_break also alike, meets_through same, ← through_named same]
      split
      · rfl
      · rfl
    | none =>
      have alike := breaks
      obtain ⟨-, a, reply, -⟩ := Naming.break?_eq_none breaks
      have answer := reply
      rw [← meets_through same] at alike answer
      rw [offer_of_answer broken breaks reply, offer_of_answer also alike answer, ← through_named same]
      split
      · rfl
      · rfl

theorem through_foldl_offer (s : State τ) (rs : List Recipient) :
    (rs.foldl (offer shown policy) s).through f = rs.foldl (offer peer policy) (s.through f) := by
  induction rs generalizing s with
  | nil => rfl
  | cons r rs ih =>
    rw [List.foldl_cons, List.foldl_cons, ih, through_offer same]

theorem through_deliver (s : State τ) :
    (deliver shown policy q s).through f = deliver peer policy q (s.through f) := by
  have handed : (s.handed shown q).through f = (s.through f).handed peer q := by
    show _ = State.mk (peer.payload q.message (f s.peer)).2 _ _ _ _ _
    rw [same.payload]
    rfl
  have reply : (peer.payload q.message (s.through f).peer).1 = (shown.payload q.message s.peer).1 := by
    show (peer.payload q.message (f s.peer)).1 = _
    rw [same.payload]
  rw [deliver_eq, deliver_eq, reply, ← handed]
  split
  · rfl
  · next a _ =>
    split
    · rfl
    · exact congrArg (State.refuseAll policy · a s.accepted) (through_afterRefusal same policy (s.handed shown q) a)

theorem through_offerAll (s : State τ) :
    (offerAll shown policy q s).through f = offerAll peer policy q (s.through f) := by
  unfold offerAll
  dsimp only
  rw [← through_foldl_offer same]
  generalize q.recipients.foldl (offer shown policy) s = t
  have alike : (t.through f).broken = t.broken := rfl
  have accepted : (t.through f).accepted = t.accepted := rfl
  rw [alike, accepted]
  cases t.broken with
  | some b => rfl
  | none =>
    dsimp only
    split
    · show _ = State.mk (peer.reset (f t.peer)) _ _ _ _ _
      rw [same.reset]
      rfl
    · exact through_deliver same policy q t

theorem through_converse (s : State τ) :
    (converse shown policy q s).through f = converse peer policy q (s.through f) := by
  have begun : (s.begun shown q).through f = (s.through f).begun peer q := by
    show _ = State.mk (peer.mailFrom q.message.sender (f s.peer)).2 _ _ _ _ _
    rw [same.mailFrom]
    rfl
  have reply : (peer.mailFrom q.message.sender (s.through f).peer).1 =
      (shown.mailFrom q.message.sender s.peer).1 := by
    show (peer.mailFrom q.message.sender (f s.peer)).1 = _
    rw [same.mailFrom]
  rw [converse_eq, converse_eq, reply, ← begun]
  split
  · rfl
  · next a _ =>
    split
    · exact through_offerAll same policy q (s.begun shown q)
    · exact congrArg (State.refuseAll policy · a q.recipients) (through_afterRefusal same policy (s.begun shown q) a)

theorem through_closed (s : State τ) :
    State.through f { s.act .close with peer := shown.close s.peer } =
      { (s.through f).act .close with peer := peer.close (s.through f).peer } := by
  show _ = State.mk (peer.close (f s.peer)) _ _ _ _ _
  rw [same.close]
  rfl

/-- With a peer that answers as another one does, a session takes the same steps and comes to the same. -/
theorem through_run (p : τ) : (run shown policy q p).through f = run peer policy q (f p) := by
  unfold run
  rw [same.openSession]
  rcases shown.openSession q.domain q.source p with ⟨opening, p'⟩
  cases opening with
  | error e => rfl
  | ok u =>
    dsimp only
    rw [through_closed same, through_converse same]
    rfl

end Shows

end Session

end Postroom
