import Postroom.Calendar
import Postroom.Count
import Postroom.Domain
import Postroom.Table

/-!
# Attempts by domain

A sample of every attempt of the recent past, by domain, and what they add up to over a window.
Samples older than the horizon are dropped now and then, always from the oldest end.

* `DomainWindow.record`: add a sample. `DomainWindow.prune`: drop old samples, forget empty domains.
* `DomainWindow.record?`: the same for a horizon of any length, which may reach back further than the calendar does.
* `DomainWindow.snapshot`: one row for each domain, the busiest first.
-/

namespace Postroom

/-- One attempt. -/
structure Sample where
  time : Int
  delivered : Nat
  failed : Nat
  /-- How long it took, in milliseconds. -/
  latency : Nat

/-- What the attempts of one domain add up to. -/
structure DomainActivity where
  domain : Domain
  attempts : Nat
  delivered : Nat
  failed : Nat
  meanLatency : Nat
  deriving DecidableEq

/-- The samples of each domain, oldest first. -/
structure DomainWindow where
  /-- How long a sample is kept, in milliseconds. -/
  horizon : Int
  samples : Table Domain (List Sample) := .empty

namespace DomainWindow

/-- The samples from the first one that is not older than `cutoff`. -/
def recent (cutoff : Int) (samples : List Sample) : List Sample :=
  samples.dropWhile (·.time < cutoff)

/-- Drop old samples everywhere and forget the domains left without any. -/
def prune (w : DomainWindow) (cutoff : Int) : DomainWindow :=
  { w with samples :=
      ⟨(w.samples.entries.map fun e => (e.1, recent cutoff e.2)).filter fun e => !e.2.isEmpty⟩ }

/-- Add an attempt at `d`. A domain that is new here makes all old samples go. -/
def record (w : DomainWindow) (d : Domain) (s : Sample) : DomainWindow :=
  let cutoff := s.time - w.horizon
  let w := if w.samples.contains d then w else w.prune cutoff
  { w with samples := w.samples.modify d [] fun samples => recent cutoff (samples ++ [s]) }

/-- Add an attempt at `d`, where the calendar can hold the time before which samples are old. -/
def record? (w : DomainWindow) (d : Domain) (s : Sample) : Option DomainWindow :=
  if Calendar.Holds (s.time - w.horizon) then some (w.record d s) else none

/-- On the clock of an office the calendar can hold it, where samples are kept for up to six days. -/
theorem record?_of_moment {w : DomainWindow} {s : Sample} (m : Calendar.Moment) (present : s.time = m.time)
    (back : 0 ≤ w.horizon) (within : w.horizon ≤ 6 * Calendar.msPerDay) (d : Domain) :
    w.record? d s = some (w.record d s) :=
  if_pos (present ▸ m.holds_before back within)

/-- The number of domains that have samples. -/
def trackedDomains (w : DomainWindow) : Nat := w.samples.size

/-- What samples of `d` add up to; the sum of latencies is taken in 64 bits. -/
def activity (d : Domain) (samples : List Sample) : DomainActivity where
  domain := d
  attempts := samples.length
  delivered := sumOf (samples.map (·.delivered))
  failed := sumOf (samples.map (·.failed))
  meanLatency := sumOf (samples.map (·.latency)) % twoTo 64 / samples.length

/-- More attempts first, then by name. -/
def busier (a b : DomainActivity) : Bool :=
  b.attempts < a.attempts || (a.attempts = b.attempts && a.domain.le b.domain)

/-- The rows of all domains with samples in the window that ends at `now`. -/
def rows (w : DomainWindow) (now window : Int) : List DomainActivity :=
  let cutoff := now - min window w.horizon
  let active := w.samples.entries.filterMap fun e =>
    let inside := e.2.filter (cutoff ≤ ·.time)
    if inside.isEmpty then none else some (activity e.1 inside)
  active.mergeSort busier

/-- The rows at `now`, and the window without its old samples. The calendar may not reach back as far as the horizon
does, and then nothing happens, or as the window does, and then the samples go and there are no rows. -/
def snapshot (w : DomainWindow) (now window : Int) : Option (List DomainActivity) × DomainWindow :=
  let pruned := if Calendar.Holds (now - w.horizon) then w.prune (now - w.horizon) else w
  let within := Calendar.Holds (now - w.horizon) ∧ Calendar.Holds (now - min window w.horizon)
  (if within then some (pruned.rows now window) else none, pruned)

end DomainWindow

end Postroom
