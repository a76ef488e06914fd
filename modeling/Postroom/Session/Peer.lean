import Postroom.Fault
import Postroom.IpAddress

/-!
# The other side of a session

A session talks to a peer: anything that answers the steps of a mail conversation and says whether
the session still holds. Every answer may depend on all that was said before, so a peer is a state
with a function for each step.

* `Response`: a code and a text. `Response.isPositive`: codes from 200 to 399.
* `Peer`: the steps.
-/

namespace Postroom

/-- An answer to a step. -/
structure Response where
  code : Nat
  message : String
  deriving DecidableEq

/-- Whether the step was accepted. -/
def Response.isPositive (r : Response) : Bool := 200 ≤ r.code && r.code < 400

/-- What a step comes to. -/
abbrev Reply := Except TransportFault Response

/-- Something that answers the steps of a mail session, with states in `σ`. -/
structure Peer (σ : Type) where
  openSession : Domain → IpAddress → σ → Except OpenFailure Unit × σ
  /-- Whether the session still holds. -/
  isValid : σ → Bool
  mailFrom : String → σ → Reply × σ
  rcptTo : String → σ → Reply × σ
  payload : Message → σ → Reply × σ
  reset : σ → σ
  close : σ → σ

end Postroom
