import Postroom.Domain
import Postroom.Traffic

/-!
# Batches

A batch is one message for recipients at one destination domain. This module holds what a submitter
hands over and what it gets back.

* `BatchId`, `RunnerId`, `Runner`: names of batches and of the job runs that own them.
* `Recipient`, `RecipientResult`: a recipient before and after its last attempt.
* `Batch`: what all attempts at a batch share. `BatchResult`: how it ended.
-/

namespace Postroom

/-- The name of a batch, or of one of its retries. -/
structure BatchId where
  text : String
  deriving DecidableEq, Inhabited

/-- The name of the `n`th retry of the batch `id`. -/
def BatchId.retry (id : BatchId) (n : Nat) : BatchId :=
  ⟨id.text ++ "-retry" ++ toString n⟩

/-- The name of a job that owns batches. -/
structure RunnerId where
  text : String
  deriving DecidableEq, Inhabited

/-- One run of a job: each registration of the same name brings a token of its own. -/
structure Runner where
  id : RunnerId
  token : Nat
  deriving DecidableEq

/-- A recipient and how often delivery to it was retried. -/
structure Recipient where
  address : String
  retries : Nat := 0
  deriving DecidableEq

/-- How a recipient ended. -/
inductive Status where
  | delivered
  | failed
  deriving DecidableEq

/-- The last word on one recipient. -/
structure RecipientResult where
  address : String
  status : Status
  /-- The code answered by the other side, or chosen here. -/
  code : Nat
  message : String
  /-- The retries spent on this recipient. -/
  retries : Nat
  deriving DecidableEq

namespace RecipientResult

/-- `r` was delivered. -/
def delivered (r : Recipient) (code : Nat) (message : String) : RecipientResult :=
  ⟨r.address, .delivered, code, message, r.retries⟩

/-- `r` failed. -/
def failed (r : Recipient) (code : Nat) (message : String) : RecipientResult :=
  ⟨r.address, .failed, code, message, r.retries⟩

def isDelivered (r : RecipientResult) : Bool := r.status = .delivered

end RecipientResult

/-- The message of a batch. Of its body only the size matters here. -/
structure Message where
  /-- The envelope sender. -/
  sender : String
  /-- The length of the body in bytes. -/
  size : Nat
  hasAttachment : Bool
  deriving DecidableEq

/-- What all attempts at one batch have in common. -/
structure Batch where
  /-- The name under which it was submitted. -/
  root : BatchId
  domain : Domain
  traffic : TrafficClass
  message : Message
  /-- The run that owns the batch, if one does. -/
  runner : Option Runner
  /-- The name of the sink that records its results, if it has one. -/
  sink : Option String
  deriving DecidableEq

/-- How a batch ended, over all its attempts. -/
structure BatchResult where
  batch : BatchId
  domain : Domain
  recipients : List RecipientResult
  deriving DecidableEq

namespace BatchResult

/-- The number of recipients delivered. -/
def delivered (r : BatchResult) : Nat := r.recipients.countP (·.isDelivered)

/-- The number of recipients failed. -/
def failed (r : BatchResult) : Nat := r.recipients.length - r.delivered

/-- The first result for an address. -/
def find? (r : BatchResult) (address : String) : Option RecipientResult :=
  r.recipients.find? (·.address = address)

theorem delivered_add_failed (r : BatchResult) :
    r.delivered + r.failed = r.recipients.length := by
  have : r.delivered ≤ r.recipients.length := List.countP_le_length
  simp only [failed]
  omega

end BatchResult

end Postroom
