/-!
# Traffic classes and lanes

Work is either latency-sensitive or throughput traffic, and either fresh or a retry. The four
combinations are the lanes, served in a fixed order.

* `TrafficClass`, `Lane`: the classes and the lanes.
* `Lane.serviceOrder`: the order in which lanes are served.
* `PerLane`: one value for each lane.
-/

namespace Postroom

/-- What a batch asks of the dispatcher. -/
inductive TrafficClass where
  /-- Latency-sensitive work, which goes before bulk work. -/
  | realtime
  /-- Throughput work, which yields to realtime work. -/
  | bulk
  deriving DecidableEq, Inhabited

/-- One of the four queues in which a batch can wait. -/
inductive Lane where
  | realtimeFresh
  | realtimeRetry
  | bulkFresh
  | bulkRetry
  deriving DecidableEq, Inhabited

namespace TrafficClass

def label : TrafficClass → String
  | realtime => "realtime"
  | bulk => "bulk"

/-- The class with which this one shares the workers. -/
def other : TrafficClass → TrafficClass
  | realtime => bulk
  | bulk => realtime

/-- The lane of batches of this class that were never retried. -/
def freshLane : TrafficClass → Lane
  | realtime => .realtimeFresh
  | bulk => .bulkFresh

/-- The lane of retries of this class. -/
def retryLane : TrafficClass → Lane
  | realtime => .realtimeRetry
  | bulk => .bulkRetry

end TrafficClass

namespace Lane

/-- The lanes in the order in which they are served. -/
def serviceOrder : List Lane := [realtimeFresh, realtimeRetry, bulkFresh, bulkRetry]

/-- The lane of a batch of class `c` that has been retried `retries` times. -/
def of (c : TrafficClass) (retries : Nat) : Lane :=
  if retries = 0 then c.freshLane else c.retryLane

/-- The place in the service order. -/
def index : Lane → Nat
  | realtimeFresh => 0
  | realtimeRetry => 1
  | bulkFresh => 2
  | bulkRetry => 3

/-- The class whose work waits in this lane. -/
def traffic : Lane → TrafficClass
  | realtimeFresh | realtimeRetry => .realtime
  | bulkFresh | bulkRetry => .bulk

def isRetry : Lane → Bool
  | realtimeRetry | bulkRetry => true
  | realtimeFresh | bulkFresh => false

def label : Lane → String
  | realtimeFresh => "realtime_fresh"
  | realtimeRetry => "realtime_retry"
  | bulkFresh => "bulk_fresh"
  | bulkRetry => "bulk_retry"

theorem mem_serviceOrder (l : Lane) : l ∈ serviceOrder := by cases l <;> decide

@[simp] theorem traffic_freshLane (c : TrafficClass) : c.freshLane.traffic = c := by cases c <;> rfl

@[simp] theorem traffic_retryLane (c : TrafficClass) : c.retryLane.traffic = c := by cases c <;> rfl

@[simp] theorem isRetry_freshLane (c : TrafficClass) : c.freshLane.isRetry = false := by
  cases c <;> rfl

@[simp] theorem isRetry_retryLane (c : TrafficClass) : c.retryLane.isRetry = true := by
  cases c <;> rfl

end Lane

/-- One value for each lane. -/
structure PerLane (α : Type) where
  realtimeFresh : α
  realtimeRetry : α
  bulkFresh : α
  bulkRetry : α
  deriving DecidableEq

namespace PerLane

variable {α : Type}

/-- The same value for each lane. -/
def const (a : α) : PerLane α := ⟨a, a, a, a⟩

def get (p : PerLane α) : Lane → α
  | .realtimeFresh => p.realtimeFresh
  | .realtimeRetry => p.realtimeRetry
  | .bulkFresh => p.bulkFresh
  | .bulkRetry => p.bulkRetry

def set (p : PerLane α) (l : Lane) (a : α) : PerLane α :=
  match l with
  | .realtimeFresh => { p with realtimeFresh := a }
  | .realtimeRetry => { p with realtimeRetry := a }
  | .bulkFresh => { p with bulkFresh := a }
  | .bulkRetry => { p with bulkRetry := a }

/-- Change the value of one lane. -/
def modify (p : PerLane α) (l : Lane) (f : α → α) : PerLane α :=
  p.set l (f (p.get l))

/-- The values in service order. -/
def toList (p : PerLane α) : List α :=
  Lane.serviceOrder.map p.get

theorem get_set (p : PerLane α) (l l' : Lane) (a : α) :
    (p.set l a).get l' = if l = l' then a else p.get l' := by
  cases l <;> cases l' <;> rfl

@[simp] theorem get_set_self (p : PerLane α) (l : Lane) (a : α) : (p.set l a).get l = a := by
  simp [get_set]

theorem get_modify (p : PerLane α) (l l' : Lane) (f : α → α) :
    (p.modify l f).get l' = if l = l' then f (p.get l') else p.get l' := by
  cases l <;> cases l' <;> rfl

@[simp] theorem get_const (a : α) (l : Lane) : (const a).get l = a := by cases l <;> rfl

@[ext] theorem ext_get {p q : PerLane α} (h : ∀ l, p.get l = q.get l) : p = q := by
  obtain ⟨a, b, c, d⟩ := p
  obtain ⟨a', b', c', d'⟩ := q
  have h1 : a = a' := h .realtimeFresh
  have h2 : b = b' := h .realtimeRetry
  have h3 : c = c' := h .bulkFresh
  have h4 : d = d' := h .bulkRetry
  subst h1 h2 h3 h4
  rfl

end PerLane

end Postroom
