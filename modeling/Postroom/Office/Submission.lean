import Postroom.Office.Attempting
import Postroom.Text.Blank

/-!
# Submission

How work enters the office. A submission that is malformed, or comes when no more work is taken, is
turned away and leaves no trace; one without recipients ends at once; one for a domain that is not
known fails for every recipient; every other is queued in the fresh lane of its class.

* `Submission`: what is handed over. `Handle`: how its end is learnt.
* `Office.submit`: hand it over.
-/

namespace Postroom

/-- What a submitter hands over. -/
structure Submission where
  id : String
  domain : Domain
  /-- The addresses of the recipients. -/
  recipients : List String
  traffic : TrafficClass
  message : Message
  runner : Option Runner := none
  sink : Option String := none

/-- How the submitter learns the end of its batch. -/
inductive Handle where
  /-- It has ended already. -/
  | ready (v : Verdict)
  /-- It is in the ledger. -/
  | ticket (n : Nat)

/-- A submission that was taken. -/
structure Admission where
  id : BatchId
  handle : Handle
  /-- The settlement that records its failed recipients, where the domain is not known and a sink has
  to be asked. -/
  settlement : Option Nat := none

namespace Submission

/-- The name of the batch. -/
def batchId (s : Submission) : BatchId := ⟨Text.trim s.id⟩

/-- Why the submission is malformed, if it is. -/
def defect? (s : Submission) : Option Refusal :=
  if Text.isAllBlank s.id then some .emptyBatchId
  else if s.domain.name.isEmpty then some .emptyDomain
  else (s.recipients.find? Text.isAllBlank).map .invalidRecipient

/-- The batch handed over. -/
def batch (s : Submission) : Batch :=
  ⟨s.batchId, s.domain, s.traffic, s.message, s.runner, s.sink⟩

end Submission

namespace Office

variable (o : Office)

/-- Enter a batch into the ledger, with its first task. -/
def enter (s : Submission) : Task × Office :=
  let (ticket, ledger) := o.ledger.enter s.batch
  (.first ticket s.batch s.recipients, { o with ledger := ledger })

/-- Every recipient of a task whose domain is not known. -/
def unroutableResults (p : RecipientPolicy) (t : Task) : List RecipientResult :=
  t.recipients.map fun r => .failed r p.invalidDomainCode "Invalid recipient domain"

/-- Fail every recipient of a task whose domain is not known. -/
def rejectUnroutable (t : Task) : Office :=
  beginSettlement { o with nextNumber := o.nextNumber + 1 } o.nextNumber t .unroutable
    (unroutableResults o.config.recipients t)

/-- Hand over a submission. -/
def submit (s : Submission) : Except Fault Admission × Office :=
  if !o.accepting then (.error (.admission .notAccepting), o)
  else match s.defect? with
    | some refusal => (.error (.admission refusal), o)
    | none =>
      if s.recipients.isEmpty then
        (.ok { id := s.batchId, handle := .ready (.ok ⟨s.batchId, s.domain, []⟩) }, o)
      else
        let (t, o) := o.enter s
        if s.domain.isUnroutable then
          (.ok { id := s.batchId, handle := .ticket t.ticket, settlement := some o.nextNumber },
            o.rejectUnroutable t)
        else (.ok { id := s.batchId, handle := .ticket t.ticket }, o.offer t)

/-- How the batch of a handle ended, if it has. -/
def verdict? : Handle → Option Verdict
  | .ready v => some v
  | .ticket n => o.ledger.verdict? n

end Office

end Postroom
