import Postroom.Batch

/-!
# Outcome of an attempt

What one attempt at a batch did to each of its recipients.

* `RecipientPolicy`: which codes are worth another try, and the codes chosen here.
* `Outcome`: the recipients with their dispositions, and whether the session failed.
* `Outcome.terminal`, `Outcome.kept`: the final results, and the recipients for another attempt.
-/

namespace Postroom

/-- How codes are understood. -/
structure RecipientPolicy where
  /-- Codes that are never worth a retry. -/
  excludedCodes : List Nat := [550, 551, 552, 553, 554]
  /-- The code of a session that broke without a usable reply, and the reply that closes one. -/
  sessionFailureCode : Nat := 421
  /-- The code for recipients whose domain is not known. -/
  invalidDomainCode : Nat := 550

def RecipientPolicy.isRetryable (p : RecipientPolicy) (code : Nat) : Bool :=
  !p.excludedCodes.contains code

/-- What becomes of a recipient after an attempt. -/
inductive Disposition where
  | delivered
  /-- Failed, but another attempt may succeed. -/
  | retryable
  /-- Failed for good. -/
  | permanent
  deriving DecidableEq

def Disposition.label : Disposition → String
  | delivered => "delivered"
  | retryable => "retryable"
  | permanent => "permanent"

/-- One recipient after an attempt. -/
structure RecipientOutcome where
  recipient : Recipient
  code : Nat
  message : String
  disposition : Disposition
  deriving DecidableEq

namespace RecipientOutcome

def isDelivered (r : RecipientOutcome) : Bool := r.disposition = .delivered

/-- The result, if this attempt was the last. -/
def result (r : RecipientOutcome) : RecipientResult :=
  if r.isDelivered then .delivered r.recipient r.code r.message
  else .failed r.recipient r.code r.message

end RecipientOutcome

/-- All recipients of an attempt. -/
structure Outcome where
  recipients : List RecipientOutcome := []
  /-- The code with which the session failed to open or broke. -/
  sessionFailure : Option Nat := none
  deriving DecidableEq

namespace Outcome

def anySuccess (o : Outcome) : Bool := o.recipients.any (·.isDelivered)

/-- The code that says best how the attempt went: of the session, or of the first recipient that was
not delivered. -/
def statusCode (o : Outcome) : Option Nat :=
  o.sessionFailure <|> (o.recipients.find? (!·.isDelivered)).map (·.code)

/-- The number of recipients delivered. -/
def delivered (o : Outcome) : Nat := o.recipients.countP (·.isDelivered)

/-- Whether a recipient goes into another attempt. -/
def isKept (canRetry : Bool) (r : RecipientOutcome) : Bool :=
  canRetry && r.disposition = .retryable

/-- The results that are final. -/
def terminal (o : Outcome) (canRetry : Bool) : List RecipientResult :=
  (o.recipients.filter fun r => !isKept canRetry r).map (·.result)

/-- The recipients for another attempt. -/
def kept (o : Outcome) (canRetry : Bool) : List Recipient :=
  (o.recipients.filter (isKept canRetry)).map (·.recipient)

end Outcome

end Postroom
