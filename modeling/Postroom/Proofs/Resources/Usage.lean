import Mathlib.Algebra.Order.Group.Multiset
import Mathlib.Data.Multiset.AddSub
import Mathlib.Data.Multiset.MapFold
import Mathlib.Logic.Relation
import Postroom.Office.Attempting
import Postroom.Proofs.Resources.Leases

/-!
# Use of resources

The counters of an office and the attempts that they count. An attempt takes all its resources when it
starts, its worker is free when it reports, the rest is given back when the report is taken, and it counts
as running until what follows from it is over. Nothing else changes a counter.

- `Usage`: counters, attempts, and the tasks of attempts whose report was taken.
- `Usage.Step`: the five things that happen to them. `Usage.Draws`: a chain of these.
- `Usage.Accounted`: every counter is the number of attempts that it counts and within its bound; kept by
  every step.
-/

namespace Postroom

/-- The counters of an office, their bounds, and what they count. -/
@[ext] structure Usage where
  addresses : AddressConfig
  /-- The bound of the slots of a class, if it has one. -/
  limit : TrafficClass → Option Nat
  /-- The number of workers. -/
  size : Nat
  inFlight : Lane → Nat
  /-- The leases of an entry for a domain. -/
  leases : Nat → Domain → Nat
  /-- The leases of an entry. -/
  total : Nat → Nat
  slots : TrafficClass → Nat
  running : RunnerId → Nat
  /-- The sends that occupy a worker, by number. -/
  sending : Multiset Nat
  /-- The attempts whose report was not taken. -/
  attempts : Multiset Attempt
  /-- The tasks of attempts whose report was taken, until what follows from it is over. -/
  settling : Multiset Task

/-- The slot that a task needs, if its class is limited. -/
def Task.slotNeeded (t : Task) (limit : TrafficClass → Option Nat) : Option TrafficClass :=
  if t.batch.message.hasAttachment && (limit t.traffic).isSome then some t.traffic else none

theorem Task.isSome_of_slotNeeded {t : Task} {limit : TrafficClass → Option Nat} {k : TrafficClass}
    (h : t.slotNeeded limit = some k) : (limit k).isSome := by
  unfold slotNeeded at h
  split at h
  · next both =>
    cases h
    exact (Bool.and_eq_true _ _ ▸ both).2
  · cases h

namespace Usage

/-- The counters with what the attempt `a` takes, and the attempt. -/
def start (u : Usage) (a : Attempt) : Usage :=
  { u with
    inFlight := fun l => u.inFlight l + if a.task.lane = l then 1 else 0
    leases := fun i d => u.leases i d +
      if a.permit.lease.index = i ∧ a.permit.lease.domain = d then 1 else 0
    total := fun i => u.total i + if a.permit.lease.index = i then 1 else 0
    slots := fun k => u.slots k + if a.permit.slot = some k then 1 else 0
    running := fun id => u.running id + if a.task.runnerId = some id then 1 else 0
    sending := a.number ::ₘ u.sending
    attempts := a ::ₘ u.attempts }

/-- The counters with one attempt less in flight in a lane. -/
def land (u : Usage) (l : Lane) : Usage :=
  { u with inFlight := fun l' => u.inFlight l' - if l = l' then 1 else 0 }

/-- The counters without what a permit gives back. -/
def release (u : Usage) (p : Permit) : Usage :=
  { u with
    leases := fun i d => u.leases i d - if p.lease.index = i ∧ p.lease.domain = d then 1 else 0
    total := fun i => u.total i - if p.lease.index = i then 1 else 0
    slots := fun k => u.slots k - if p.slot = some k ∧ (u.limit k).isSome then 1 else 0 }

/-- The counters without the running attempt of `t`. -/
def finish (u : Usage) (t : Task) : Usage :=
  { u with running := fun id => u.running id - if t.runnerId = some id then 1 else 0 }

/-- The numbers of the attempts without a report. -/
def awaited (A : Multiset Attempt) : Multiset Nat := (A.filter (·.report = none)).map (·.number)

theorem awaited_cons_of_none {a : Attempt} {A : Multiset Attempt} (unreported : a.report = none) :
    awaited (a ::ₘ A) = a.number ::ₘ awaited A := by
  rw [awaited, Multiset.filter_cons_of_pos (p := fun a : Attempt => a.report = none) A unreported, Multiset.map_cons]
  rfl

theorem awaited_cons_of_some {a : Attempt} {A : Multiset Attempt} (reported : a.report ≠ none) :
    awaited (a ::ₘ A) = awaited A := by
  rw [awaited, Multiset.filter_cons_of_neg (p := fun a : Attempt => a.report = none) A reported]
  rfl

theorem card_awaited (A : Multiset Attempt) : (awaited A).card = A.countP (·.report = none) := by
  rw [awaited, Multiset.card_map, Multiset.countP_eq_card_filter]

/-- What happens to the counters and to what they count. -/
inductive Step : Usage → Usage → Prop
  /-- An attempt starts: there is a worker, a lease and, where one is needed, a slot for it. -/
  | start {u : Usage} (a : Attempt) (unreported : a.report = none)
      (domain : a.permit.lease.domain = a.task.domain)
      (slot : a.permit.slot = a.task.slotNeeded u.limit)
      (capacity : u.leases a.permit.lease.index a.task.domain < u.addresses.capacity a.task.domain)
      (room : ∀ k bound, a.permit.slot = some k → u.limit k = some bound → u.slots k < bound)
      (worker : u.sending.card < u.size) : Step u (u.start a)
  /-- The worker of an attempt reports and is free. -/
  | report {u : Usage} {A : Multiset Attempt} (a : Attempt) (r : Report) (unreported : a.report = none)
      (alone : a.number ∉ awaited A) :
      Step { u with attempts := a ::ₘ A }
        { u with sending := u.sending.filter (· ≠ a.number), attempts := { a with report := some r } ::ₘ A }
  /-- A send ends for which no attempt waits. -/
  | stray {u : Usage} (n : Nat) (unawaited : ∀ a ∈ u.attempts, a.report = none → a.number ≠ n) :
      Step u { u with sending := u.sending.filter (· ≠ n) }
  /-- A report is taken. -/
  | close {u : Usage} {A : Multiset Attempt} {S : Multiset Task} (a : Attempt)
      (reported : a.report ≠ none) :
      Step { u with attempts := a ::ₘ A, settling := S }
        { (u.land a.task.lane).release a.permit with attempts := A, settling := a.task ::ₘ S }
  /-- What followed from a report is over. -/
  | finish {u : Usage} {S : Multiset Task} (t : Task) :
      Step { u with settling := t ::ₘ S } { u.finish t with settling := S }

/-- A chain of steps. -/
def Draws : Usage → Usage → Prop := Relation.ReflTransGen Step

namespace Draws

variable {u v w : Usage}

theorem refl (u : Usage) : Draws u u := Relation.ReflTransGen.refl

theorem of_eq (h : u = v) : Draws u v := h ▸ refl u

theorem trans (h : Draws u v) (k : Draws v w) : Draws u w := Relation.ReflTransGen.trans h k

theorem one (h : Step u v) : Draws u v := Relation.ReflTransGen.single h

/-- What every step keeps, a chain of steps keeps. -/
theorem keeps {I : Usage → Prop} (step : ∀ u v, Step u v → I u → I v) (h : Draws u v) (hu : I u) :
    I v := by
  induction h with
  | refl => exact hu
  | tail _ hstep ih => exact step _ _ hstep ih

end Draws

/-- The tasks of attempts that run. -/
def tasks (u : Usage) : Multiset Task := u.attempts.map (·.task) + u.settling

/-- Every counter is the number of attempts that it counts, and within its bound. -/
structure Accounted (u : Usage) : Prop where
  inFlight : ∀ l, u.inFlight l = u.attempts.countP (·.task.lane = l)
  leases : ∀ i d, u.leases i d =
    u.attempts.countP fun a => a.permit.lease.index = i ∧ a.permit.lease.domain = d
  total : ∀ i, u.total i = u.attempts.countP (·.permit.lease.index = i)
  slots : ∀ k, u.slots k = u.attempts.countP (·.permit.slot = some k)
  running : ∀ id, u.running id = u.tasks.countP (·.runnerId = some id)
  sending : u.sending = awaited u.attempts
  /-- An attempt has a lease for its domain. -/
  domain : ∀ a ∈ u.attempts, a.permit.lease.domain = a.task.domain
  /-- An attempt has the slot that it needs, and no other. -/
  slot : ∀ a ∈ u.attempts, a.permit.slot = a.task.slotNeeded u.limit
  capacity : ∀ i d, u.leases i d ≤ u.addresses.capacity d
  room : ∀ k bound, u.limit k = some bound → u.slots k ≤ bound
  workers : u.sending.card ≤ u.size

namespace Accounted

variable {u v : Usage}

/-- What is taken at the start is counted. -/
theorem start {a : Attempt} (hu : Accounted u) (unreported : a.report = none)
    (domain : a.permit.lease.domain = a.task.domain) (slot : a.permit.slot = a.task.slotNeeded u.limit)
    (capacity : u.leases a.permit.lease.index a.task.domain < u.addresses.capacity a.task.domain)
    (room : ∀ k bound, a.permit.slot = some k → u.limit k = some bound → u.slots k < bound)
    (worker : u.sending.card < u.size) : Accounted (u.start a) where
  inFlight l := by simp only [Usage.start, Multiset.countP_cons, hu.inFlight]
  leases i d := by simp only [Usage.start, Multiset.countP_cons, hu.leases]
  total i := by simp only [Usage.start, Multiset.countP_cons, hu.total]
  slots k := by simp only [Usage.start, Multiset.countP_cons, hu.slots]
  running id := by
    simp only [Usage.start, tasks, Multiset.map_cons, Multiset.cons_add, Multiset.countP_cons, hu.running]
  sending := by
    simp only [Usage.start, awaited_cons_of_none unreported, hu.sending]
  domain b hb := by
    rcases Multiset.mem_cons.1 hb with rfl | hb
    · exact domain
    · exact hu.domain b hb
  slot b hb := by
    rcases Multiset.mem_cons.1 hb with rfl | hb
    · exact slot
    · exact hu.slot b hb
  capacity i d := by
    have before := hu.capacity i d
    simp only [Usage.start]
    split
    · next same =>
      obtain ⟨rfl, rfl⟩ := same
      rw [domain]
      exact capacity
    · exact before
  room k bound hk := by
    have before := hu.room k bound hk
    simp only [Usage.start]
    split
    · next same => exact room k bound same hk
    · exact before
  workers := by
    rw [Usage.start, Multiset.card_cons]
    exact worker

/-- What is given back is counted no more. -/
theorem close {a : Attempt} {A : Multiset Attempt} {S : Multiset Task} (reported : a.report ≠ none)
    (hu : Accounted { u with attempts := a ::ₘ A, settling := S }) :
    Accounted
      { (u.land a.task.lane).release a.permit with attempts := A, settling := a.task ::ₘ S } where
  inFlight l := by
    have before := hu.inFlight l
    rw [Multiset.countP_cons] at before
    exact Nat.sub_eq_of_eq_add before
  leases i d := by
    have before := hu.leases i d
    rw [Multiset.countP_cons] at before
    exact Nat.sub_eq_of_eq_add before
  total i := by
    have before := hu.total i
    rw [Multiset.countP_cons] at before
    exact Nat.sub_eq_of_eq_add before
  slots k := by
    have before := hu.slots k
    -- a slot is given back where the class is limited, which is where it was taken
    have needed : a.permit.slot = some k → (u.limit k).isSome := fun hk =>
      Task.isSome_of_slotNeeded (hu.slot a (Multiset.mem_cons_self a A) ▸ hk)
    rw [Multiset.countP_cons] at before
    refine Nat.sub_eq_of_eq_add (before.trans ?_)
    congr 1
    exact if_congr (iff_self_and.2 needed) rfl rfl
  running id := by
    have before := hu.running id
    simp only [tasks, Multiset.map_cons] at before
    simp only [tasks]
    rw [Multiset.add_cons, ← Multiset.cons_add]
    exact before
  sending := hu.sending.trans (awaited_cons_of_some reported)
  domain b hb := hu.domain b (Multiset.mem_cons_of_mem hb)
  slot b hb := hu.slot b (Multiset.mem_cons_of_mem hb)
  capacity i d := (Nat.sub_le _ _).trans (hu.capacity i d)
  room k bound hk := (Nat.sub_le _ _).trans (hu.room k bound hk)
  workers := hu.workers

theorem step (h : Step u v) (hu : Accounted u) : Accounted v := by
  cases h with
  | start a unreported domain slot capacity room worker =>
    exact hu.start unreported domain slot capacity room worker
  | @report u A a r unreported alone =>
    -- The counters of the attempt look at its task and its permit, not at its report.
    have same : ∀ (p : Attempt → Prop) [DecidablePred p],
        (p { a with report := some r } ↔ p a) →
          ({ a with report := some r } ::ₘ A).countP p = (a ::ₘ A).countP p := by
      intro p _ hp
      rw [Multiset.countP_cons, Multiset.countP_cons, if_congr hp rfl rfl]
    have member : ∀ b ∈ { a with report := some r } ::ₘ A,
        ∃ c ∈ a ::ₘ A, b.task = c.task ∧ b.permit = c.permit := by
      intro b hb
      rcases Multiset.mem_cons.1 hb with rfl | hb
      · exact ⟨a, Multiset.mem_cons_self a A, rfl, rfl⟩
      · exact ⟨b, Multiset.mem_cons_of_mem hb, rfl, rfl⟩
    refine ⟨?_, ?_, ?_, ?_, ?_, ?_, ?_, ?_, hu.capacity, hu.room,
      (Multiset.card_le_card (Multiset.filter_le ..)).trans hu.workers⟩
    · intro l
      exact (hu.inFlight l).trans (same _ Iff.rfl).symm
    · intro i d
      exact (hu.leases i d).trans (same _ Iff.rfl).symm
    · intro i
      exact (hu.total i).trans (same _ Iff.rfl).symm
    · intro k
      exact (hu.slots k).trans (same _ Iff.rfl).symm
    · intro id
      have before := hu.running id
      simp only [tasks, Multiset.map_cons] at before ⊢
      exact before
    · have before : u.sending = a.number ::ₘ awaited A := hu.sending.trans (awaited_cons_of_none unreported)
      rw [awaited_cons_of_some (by simp), before, Multiset.filter_cons_of_neg _ (by simp)]
      exact Multiset.filter_eq_self.2 fun n hn same => alone (same ▸ hn)
    · intro b hb
      obtain ⟨c, hc, task, permit⟩ := member b hb
      rw [task, permit]
      exact hu.domain c hc
    · intro b hb
      obtain ⟨c, hc, task, permit⟩ := member b hb
      rw [task, permit]
      exact hu.slot c hc
  | stray n unawaited =>
    have absent : n ∉ u.sending := by
      rw [hu.sending, awaited, Multiset.mem_map]
      rintro ⟨a, ha, same⟩
      obtain ⟨ha, unreported⟩ := Multiset.mem_filter.1 ha
      exact unawaited a ha unreported same
    have unchanged : u.sending.filter (· ≠ n) = u.sending :=
      Multiset.filter_eq_self.2 fun m hm same => absent (same ▸ hm)
    rw [unchanged]
    exact hu
  | close a reported => exact close reported hu
  | @finish u S t =>
    refine ⟨hu.inFlight, hu.leases, hu.total, hu.slots, fun id => ?_, hu.sending, hu.domain, hu.slot,
      hu.capacity, hu.room, hu.workers⟩
    have before := hu.running id
    simp only [tasks] at before ⊢
    rw [Multiset.add_cons, Multiset.countP_cons] at before
    exact Nat.sub_eq_of_eq_add before

theorem draws (h : Draws u v) (hu : Accounted u) : Accounted v := h.keeps (fun _ _ => step) hu

end Accounted

end Usage

end Postroom
