import Postroom.Calendar
import Postroom.Count
import Postroom.Domain
import Postroom.IpAddress
import Postroom.Table

/-!
# Source addresses

Every attempt leases a source address for its session. An address has a bounded number of leases for
each destination domain, and the one with the fewest is taken. An address that collects enough
failures with certain codes in a row cools down: it is passed over for a while.

* `AddressPool.acquire?`, `AddressPool.release`: take and give back a lease.
* `AddressPool.record`: what an attempt's answer means for the address.
* `Cooldown`: no cooldown, a cooldown, or an end of it that the calendar cannot hold.
-/

namespace Postroom

/-- The pool's settings. -/
structure AddressConfig where
  sources : List IpAddress := [.v4 [0, 0, 0, 0]]
  /-- The leases of one address for one domain. -/
  sessionsPerAddress : Nat := 2
  /-- That number for particular domains, by name. -/
  domainSessions : Table String Nat := .empty
  /-- How long a cooled address is passed over, in seconds. -/
  cooldownSeconds : Nat := 60
  /-- The codes that count against an address, with the number of failures that cools it. -/
  triggers : Table Nat Nat := ⟨[(421, 1), (450, 2), (451, 2)]⟩

namespace AddressConfig

/-- The leases that one address may have for `d`. -/
def capacity (c : AddressConfig) (d : Domain) : Nat :=
  (c.domainSessions.find? d.name).getD c.sessionsPerAddress

/-- The longest time span in seconds that the calendar can add. -/
def longestSpan : Nat := (twoTo 63 - 1) / 1000

/-- The end of a cooldown that starts at `now`, where the calendar can hold it. -/
def cooldownEnd? (c : AddressConfig) (now : Int) : Option Int :=
  let seconds := min c.cooldownSeconds (twoTo 63 - 1)
  if longestSpan < seconds then none
  else
    let finish := now + seconds * 1000
    if Calendar.lastInstant < finish then none else some finish

end AddressConfig

/-- The state of one entry of the pool. -/
structure SourceState where
  address : IpAddress
  /-- The leases out for each domain; a domain without leases has no entry. -/
  leases : Table Domain Nat := .empty
  total : Nat := 0
  /-- Counted failures since the last success or cooldown. -/
  streak : Nat := 0
  cooledUntil : Option Int := none

namespace SourceState

def isCooling (s : SourceState) (now : Int) : Bool :=
  match s.cooledUntil with
  | some finish => now < finish
  | none => false

/-- The leases out for `d`. -/
def leasesFor (s : SourceState) (d : Domain) : Nat := (s.leases.find? d).getD 0

/-- One lease more; a cooldown that is over is forgotten. -/
def lease (s : SourceState) (now : Int) (d : Domain) : SourceState :=
  { s with
    cooledUntil := if s.isCooling now then s.cooledUntil else none
    leases := s.leases.insert d (s.leasesFor d + 1)
    total := s.total + 1 }

/-- One lease less. -/
def giveBack (s : SourceState) (d : Domain) : SourceState :=
  { s with
    leases := if s.leasesFor d ≤ 1 then s.leases.erase d else s.leases.insert d (s.leasesFor d - 1)
    total := s.total - 1 }

end SourceState

/-- A source address held by one attempt. -/
structure Lease where
  /-- The entry of the pool. -/
  index : Nat
  address : IpAddress
  domain : Domain
  deriving DecidableEq

/-- What an entry shows. -/
structure SourceStats where
  address : IpAddress
  leases : Nat
  streak : Nat
  cooledUntil : Option Int
  deriving DecidableEq

/-- What a recorded answer does to an address. -/
inductive Cooldown where
  /-- The address stays in use. -/
  | none
  | started
  /-- The cooldown would end after the last time that the calendar can hold. -/
  | unrepresentable
  deriving DecidableEq

/-- The pool of source addresses. -/
structure AddressPool where
  config : AddressConfig
  sources : List SourceState

namespace AddressPool

/-- A pool with no lease out. -/
def ofConfig (c : AddressConfig) : AddressPool :=
  ⟨c, c.sources.map fun a => { address := a }⟩

/-- Whether an entry can take another lease for `d`. -/
def isUsable (p : AddressPool) (now : Int) (d : Domain) (s : SourceState) : Bool :=
  !s.isCooling now && s.leasesFor d < p.config.capacity d

/-- The index of the first entry with the fewest leases for `d` among those that satisfy `ok`. -/
def leastLoaded? (ok : SourceState → Bool) (d : Domain) : List SourceState → Option Nat
  | [] => none
  | s :: rest =>
    match leastLoaded? ok d rest with
    | none => if ok s then some 0 else none
    | some i =>
      let best := (rest[i]?.map (·.leasesFor d)).getD 0
      if ok s && s.leasesFor d ≤ best then some 0 else some (i + 1)

/-- Lease the least loaded usable address for `d`. -/
def acquire? (p : AddressPool) (now : Int) (d : Domain) : Option (Lease × AddressPool) := do
  let i ← leastLoaded? (p.isUsable now d) d p.sources
  let s ← p.sources[i]?
  some (⟨i, s.address, d⟩, { p with sources := p.sources.set i (s.lease now d) })

/-- Give a lease back. -/
def release (p : AddressPool) (l : Lease) : AddressPool :=
  { p with sources := p.sources.modify l.index (·.giveBack l.domain) }

/-- What an attempt's answer does to an entry. A success ends the streak; a failure with a counted
code lengthens it, and cools the address once it is long enough for that code. -/
def judge (c : AddressConfig) (now : Int) (code : Option Nat) (anySuccess : Bool) (s : SourceState) :
    Cooldown × SourceState :=
  if anySuccess then (.none, { s with streak := 0 })
  else match code.bind c.triggers.find? with
    | none => (.none, s)
    | some threshold =>
      let s := { s with streak := s.streak + 1 }
      if s.streak < threshold then (.none, s)
      else match c.cooldownEnd? now with
        | none => (.unrepresentable, s)
        | some finish => (.started, { s with cooledUntil := some finish, streak := 0 })

/-- Record how an attempt with lease `l` was answered. -/
def record (p : AddressPool) (now : Int) (l : Lease) (code : Option Nat) (anySuccess : Bool) :
    Cooldown × AddressPool :=
  match p.sources[l.index]? with
  | none => (.none, p)
  | some s =>
    let (outcome, s) := judge p.config now code anySuccess s
    (outcome, { p with sources := p.sources.set l.index s })

/-- The leases out. -/
def activeLeases (p : AddressPool) : Nat := sumOf (p.sources.map (·.total))

/-- The leases out for `d`. -/
def activeLeasesFor (p : AddressPool) (d : Domain) : Nat := sumOf (p.sources.map (·.leasesFor d))

/-- Whether an entry for this address is cooling down. -/
def isCooling (p : AddressPool) (now : Int) (a : IpAddress) : Bool :=
  p.sources.any fun s => s.address = a && s.isCooling now

/-- What the entries show; a cooldown that is over is not shown. -/
def stats (p : AddressPool) (now : Int) : List SourceStats :=
  p.sources.map fun s =>
    ⟨s.address, s.total, s.streak, if s.isCooling now then s.cooledUntil else none⟩

end AddressPool

end Postroom
