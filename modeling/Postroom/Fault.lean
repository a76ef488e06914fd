import Postroom.Batch
import Postroom.Text.Quoted

/-!
# Faults

Why a batch as a whole could not be dispatched. A recipient that is refused is no fault; it is a
result.

* `Fault`: the causes. `Fault.message`: the text of each.
* `Fault.abortedBy`: a cause seen through the run that it ended, which never nests.
* `Fault.isPersistence`, `Fault.isRetryable`, `Fault.isRunnerInvalid`: what follows from a cause.
-/

namespace Postroom

/-- Why a submission is turned away. -/
inductive Refusal where
  | emptyBatchId
  | emptyDomain
  | invalidRecipient (address : String)
  /-- The office takes no more work. -/
  | notAccepting
  deriving DecidableEq

/-- Why a session could not be opened. -/
structure OpenFailure where
  /-- The code answered by the other side, if it answered. -/
  code : Option Nat
  message : String
  deriving DecidableEq

/-- What can go wrong with a session. -/
inductive TransportFault where
  | sessionOpen (failure : OpenFailure)
  /-- The connection broke in the middle of the conversation. -/
  | connectionLost (message : String)
  /-- The other side answered what cannot be understood. -/
  | protocol (message : String)
  deriving DecidableEq

/-- Why a batch failed as a whole. -/
inductive Fault where
  | admission (refusal : Refusal)
  | resourceExhausted (message : String)
  | transport (fault : TransportFault)
  /-- The run that owns the batch is not the registered one. -/
  | runnerInvalid (message : String)
  /-- A result could not be recorded. -/
  | persistence (message : String)
  /-- The run that owns the batch was ended by `cause`. -/
  | aborted (runner : RunnerId) (cause : Fault)
  /-- The batch was let go of before it ended. -/
  | cancelled
  | shutdown
  | system (message : String)
  deriving DecidableEq

def Refusal.message : Refusal → String
  | emptyBatchId => "batch id must not be empty"
  | emptyDomain => "destination domain must not be empty"
  | invalidRecipient address => "recipient " ++ Text.quote address ++ " is not a valid address"
  | notAccepting => "engine is not accepting submissions"

def TransportFault.message : TransportFault → String
  | sessionOpen failure => "Session open failed: " ++ failure.message
  | connectionLost text => "Connection lost: " ++ text
  | protocol text => "Protocol violation: " ++ text

namespace Fault

/-- The text shown to people. -/
def message : Fault → String
  | admission refusal => "Admission rejected: " ++ refusal.message
  | resourceExhausted text => "Resource exhausted: " ++ text
  | transport fault => "Transport failure: " ++ fault.message
  | runnerInvalid text => "Runner invalid: " ++ text
  | persistence text => "Persistence failure: " ++ text
  | aborted runner cause => "Runner " ++ runner.text ++ " aborted: " ++ cause.message
  | cancelled => "Batch cancelled before completion"
  | shutdown => "Dispatch engine is shutting down"
  | system text => "System error: " ++ text

/-- The fault of batches whose run `runner` was ended by `cause`. A cause that is itself the end of
a run stands as it is. -/
def abortedBy (runner : RunnerId) : Fault → Fault
  | aborted inner cause => aborted inner cause
  | cause => aborted runner cause

/-- The run that the batch belongs to was replaced. -/
def superseded (runner : RunnerId) : Fault :=
  runnerInvalid ("runner " ++ runner.text ++ " was superseded by a newer run")

/-- No run is registered under the name that the batch carries. -/
def unregistered (runner : RunnerId) : Fault :=
  runnerInvalid ("runner " ++ runner.text ++ " is not registered")

/-- Every worker has something to do. -/
def workersBusy : Fault := resourceExhausted "all workers are busy"

/-- A worker ended without an answer. -/
def workerLost : Fault := system "worker exited without reporting a result"

/-- Whether a failure to record a result is at the bottom of it. -/
def isPersistence : Fault → Bool
  | persistence _ => true
  | aborted _ cause => cause.isPersistence
  | _ => false

/-- Whether a later attempt could succeed. -/
def isRetryable : Fault → Bool
  | resourceExhausted _ | transport _ => true
  | _ => false

/-- Whether the batch is let go of because of its run. -/
def isRunnerInvalid : Fault → Bool
  | runnerInvalid _ | aborted _ _ => true
  | _ => false

@[simp] theorem isPersistence_abortedBy (r : RunnerId) (f : Fault) :
    (abortedBy r f).isPersistence = f.isPersistence := by
  cases f <;> rfl

end Fault

/-- Why a batch is kept from running. -/
inductive RejectReason where
  /-- No run is registered under its runner's name. -/
  | unregistered
  /-- Another run is registered under its runner's name. -/
  | stale
  /-- Its run was ended. -/
  | aborted
  deriving DecidableEq

end Postroom
