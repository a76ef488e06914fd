import Postroom.Session.Outcome
import Postroom.Session.Peer

/-!
# Conversation

One attempt at a batch is one session: open it, name the sender, name each recipient, hand over the
message to those accepted, close. This module runs the conversation with any peer and classifies
every recipient.

* `Request`: what is to be sent. `Act`: a step taken, in the order of happening.
* `Session.converse`: the conversation on an open session. `Session.run`: the whole session.
* A session breaks on a transport fault, on the reply that closes it, or when it is found invalid
  before a recipient; whoever was not refused until then fails with the reason of the break.
-/

namespace Postroom

/-- One attempt to be made. -/
structure Request where
  domain : Domain
  source : IpAddress
  recipients : List Recipient
  message : Message

/-- A step of a session, or the note that it failed. -/
inductive Act where
  | opened (domain : Domain) (source : IpAddress)
  | mailFrom (sender : String)
  | rcptTo (address : String)
  | payload (size : Nat)
  | reset
  | close
  /-- The session failed with a code. -/
  | failed (code : Nat)
  deriving DecidableEq

namespace Session

/-- The state of a session: its peer, the steps taken, and what is known of the recipients. -/
structure State (σ : Type) where
  peer : σ
  /-- The steps taken, in order. -/
  acts : List Act := []
  /-- The recipients that are decided, in the order of the decisions. -/
  decided : List RecipientOutcome := []
  /-- The recipients accepted so far. -/
  accepted : List Recipient := []
  /-- The code of the break, once the session has failed. -/
  failure : Option Nat := none
  /-- The reason given to the recipients after a break. -/
  broken : Option Response := none

variable {σ : Type} (peer : Peer σ) (policy : RecipientPolicy) (q : Request)

/-- A recipient that failed with `r`. -/
def refuse (r : Response) (recipient : Recipient) : RecipientOutcome :=
  ⟨recipient, r.code, r.message, if policy.isRetryable r.code then .retryable else .permanent⟩

namespace State

/-- Note a step. -/
def act (s : State σ) (a : Act) : State σ := { s with acts := s.acts ++ [a] }

/-- Recipients fail with `r`. -/
def refuseAll (s : State σ) (r : Response) (recipients : List Recipient) : State σ :=
  { s with decided := s.decided ++ recipients.map (refuse policy r) }

/-- The session fails with `code`. -/
def fail (s : State σ) (code : Nat) : State σ := { s.act (.failed code) with failure := some code }

/-- The session breaks for the reason `r`, which counts as the session failure code. -/
def breakFor (s : State σ) (r : Response) : State σ :=
  { s.fail policy.sessionFailureCode with broken := some r }

/-- Ask the peer to forget the message. -/
def reset (s : State σ) : State σ := { s.act .reset with peer := peer.reset s.peer }

/-- After a refusal of the whole message: the reply that closes the session breaks it, any other
leaves it open for a reset. -/
def afterRefusal (s : State σ) (r : Response) : State σ :=
  if r.code = policy.sessionFailureCode then s.fail policy.sessionFailureCode else s.reset peer

end State

/-- The reason for a break by a transport fault. -/
def faultReason (f : TransportFault) : Response := ⟨policy.sessionFailureCode, f.message⟩

/-- The reason for a break by a session found invalid. -/
def invalidReason : Response := ⟨policy.sessionFailureCode, "Session no longer valid"⟩

/-- Name one recipient, unless the session is broken or found invalid. -/
def offer (s : State σ) (r : Recipient) : State σ :=
  match s.broken with
  | some reason => s.refuseAll policy reason [r]
  | none =>
    if !peer.isValid s.peer then
      (s.breakFor policy (invalidReason policy)).refuseAll policy (invalidReason policy) [r]
    else
      let (reply, p) := peer.rcptTo r.address s.peer
      let s := { s.act (.rcptTo r.address) with peer := p }
      match reply with
      | .error f => (s.breakFor policy (faultReason policy f)).refuseAll policy (faultReason policy f) [r]
      | .ok response =>
        if response.isPositive then { s with accepted := s.accepted ++ [r] }
        else
          let s := s.refuseAll policy response [r]
          if response.code = policy.sessionFailureCode then s.breakFor policy response else s

/-- Hand over the message to the accepted recipients. -/
def deliver (s : State σ) : State σ :=
  let (reply, p) := peer.payload q.message s.peer
  let s := { s.act (.payload q.message.size) with peer := p }
  match reply with
  | .error f =>
    (s.fail policy.sessionFailureCode).refuseAll policy (faultReason policy f) s.accepted
  | .ok response =>
    if response.isPositive then
      { s with decided := s.decided ++ s.accepted.map fun r =>
          ⟨r, response.code, response.message, .delivered⟩ }
    else (s.afterRefusal peer policy response).refuseAll policy response s.accepted

/-- Name every recipient, then hand over the message if anyone was accepted and nothing broke. -/
def offerAll (s : State σ) : State σ :=
  let s := q.recipients.foldl (offer peer policy) s
  match s.broken with
  | some reason => s.refuseAll policy reason s.accepted
  | none => if s.accepted.isEmpty then s.reset peer else deliver peer policy q s

/-- The conversation on an open session. -/
def converse (s : State σ) : State σ :=
  let (reply, p) := peer.mailFrom q.message.sender s.peer
  let s := { s.act (.mailFrom q.message.sender) with peer := p }
  match reply with
  | .error f =>
    (s.fail policy.sessionFailureCode).refuseAll policy (faultReason policy f) q.recipients
  | .ok response =>
    if response.isPositive then offerAll peer policy q s
    else (s.afterRefusal peer policy response).refuseAll policy response q.recipients

/-- A whole session with a peer in state `p`. -/
def run (p : σ) : State σ :=
  let (opening, p') := peer.openSession q.domain q.source p
  let s : State σ := { peer := p', acts := [.opened q.domain q.source] }
  match opening with
  | .error e =>
    let code := e.code.getD policy.sessionFailureCode
    (s.fail code).refuseAll policy ⟨code, e.message⟩ q.recipients
  | .ok () =>
    let s := converse peer policy q s
    { s.act .close with peer := peer.close s.peer }

/-- What the session did to its recipients. -/
def State.outcome (s : State σ) : Outcome := ⟨s.decided, s.failure⟩

end Session

end Postroom
