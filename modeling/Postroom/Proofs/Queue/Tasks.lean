import Mathlib.Data.List.TakeDrop
import Mathlib.Algebra.Order.Group.Multiset
import Mathlib.Data.Multiset.AddSub
import Postroom.Office.Queueing

/-!
# Which tasks are queued

A lane operation is understood by what it does to the queued tasks. As multisets: putting a task in adds
it, taking the next one out removes that one, and a withdrawal splits the tasks in two.

- `Lanes.held`: the queued tasks with the lanes that they are in, as a multiset of any view of both.
- `Lanes.held_offer`, `Lanes.held_poll?`, `Lanes.held_withdraw`: what each operation does to them.
-/

namespace Postroom

namespace Line

/-- Where the first of a domain's tasks goes, the others are left. -/
theorem tasks_leave {ss : List Stand} {d : Domain} {t : Task} {rest : List Task}
    (h : queueOf ss d = t :: rest) :
    (ss.flatMap (·.tasks)).Perm (t :: (leave d rest ss).flatMap (·.tasks)) := by
  induction ss with
  | nil => cases h
  | cons s ss ih =>
    by_cases hd : s.domain = d
    · simp only [queueOf, stand?, List.find?_cons, hd, decide_true, Option.map_some,
        Option.getD_some] at h
      simp only [leave, hd, if_true]
      split
      · next none => simp [h, List.isEmpty_iff.1 none]
      · simp [h]
    · simp only [queueOf, stand?, List.find?_cons, hd, decide_false] at h
      simp only [leave, hd, if_false, List.flatMap_cons]
      exact ((ih h).append_left s.tasks).trans List.perm_middle

/-- Taking the next task removes exactly that task. -/
theorem tasks_pop? {excluded : List Domain} {l l' : Line} {t : Task}
    (h : l.pop? excluded = some (t, l')) : l.tasks.Perm (t :: l'.tasks) := by
  unfold pop? at h
  split at h
  · cases h
  · split at h
    · cases h
    · next served =>
      cases h
      exact tasks_leave served

/-- A withdrawal leaves what it does not take. -/
theorem tasks_withdraw_perm (l : Line) (p : Task → Bool) :
    l.tasks.Perm ((l.withdraw p).1 ++ (l.withdraw p).2.tasks) := by
  rw [tasks_withdraw_fst, tasks_withdraw_snd]
  exact (List.filter_append_perm p l.tasks).symm

end Line

namespace Lanes

variable {α : Type} (f : Lane → Task → α)

/-- The tasks of one lane, each seen with the lane. -/
def heldIn (q : Lanes) (l : Lane) : Multiset α := ↑((q.line l).tasks.map (f l))

/-- The queued tasks, each seen with its lane. -/
def held (q : Lanes) : Multiset α :=
  ↑(Lane.serviceOrder.flatMap fun l => (q.line l).tasks.map (f l))

theorem held_eq (q : Lanes) :
    q.held f = q.heldIn f .realtimeFresh + q.heldIn f .realtimeRetry + q.heldIn f .bulkFresh +
      q.heldIn f .bulkRetry := by
  simp [held, heldIn, Lane.serviceOrder]

/-- What a change of one lane does to its tasks, it does to all tasks. -/
theorem held_set (q : Lanes) (l : Lane) (n : Line) (gone come : Multiset α)
    (h : q.heldIn f l + come = ↑(n.tasks.map (f l)) + gone) :
    q.held f + come = (Lanes.mk (q.lines.set l n)).held f + gone := by
  classical
  rw [held_eq, held_eq]
  refine Multiset.ext.2 fun x => ?_
  -- counted for each element, the other lanes are the same on both sides
  have hx := congrArg (Multiset.count x) h
  cases l <;> simp only [Multiset.count_add, heldIn, line, PerLane.set, PerLane.get] at hx ⊢ <;> omega

theorem held_offer (q : Lanes) (t : Task) : (q.offer t).held f = f t.lane t ::ₘ q.held f := by
  have h := held_set f q t.lane ((q.line t.lane).push t) 0 {f t.lane t} (by
    have hp := (Line.tasks_push_perm (q.line t.lane) t).map (f t.lane)
    rw [add_zero, heldIn, Multiset.coe_eq_coe.2 hp, List.map_append, ← Multiset.coe_add]
    rfl)
  rw [add_zero] at h
  rw [← Multiset.singleton_add, add_comm, h]
  rfl

theorem held_poll? {q q' : Lanes} {l : Lane} {excluded : List Domain} {t : Task}
    (h : q.poll? l excluded = some (t, q')) : q.held f = f l t ::ₘ q'.held f := by
  obtain ⟨⟨u, n⟩, hp, he⟩ := Option.map_eq_some_iff.1 h
  cases he
  have hs := held_set f q l n {f l u} 0 (by
    have hl := (Line.tasks_pop? hp).map (f l)
    rw [add_zero, heldIn, Multiset.coe_eq_coe.2 hl, add_comm]
    rfl)
  rw [add_zero] at hs
  rw [hs, add_comm, Multiset.singleton_add]

/-- The tasks that a withdrawal takes, each seen with the lane that it was in. -/
def taken (q : Lanes) (p : Task → Bool) : Multiset α :=
  ↑(Lane.serviceOrder.flatMap fun l => ((q.line l).withdraw p).1.map (f l))

theorem held_withdraw (q : Lanes) (p : Task → Bool) :
    q.held f = q.taken f p + (q.withdraw p).2.held f := by
  have part : ∀ l, q.heldIn f l =
      ↑(((q.line l).withdraw p).1.map (f l)) + ↑(((q.line l).withdraw p).2.tasks.map (f l)) := by
    intro l
    rw [heldIn, Multiset.coe_add, ← List.map_append]
    exact Multiset.coe_eq_coe.2 ((Line.tasks_withdraw_perm (q.line l) p).map (f l))
  have all : q.taken f p = ↑(((q.line .realtimeFresh).withdraw p).1.map (f .realtimeFresh)) +
      ↑(((q.line .realtimeRetry).withdraw p).1.map (f .realtimeRetry)) +
      ↑(((q.line .bulkFresh).withdraw p).1.map (f .bulkFresh)) +
      ↑(((q.line .bulkRetry).withdraw p).1.map (f .bulkRetry)) := by
    simp [taken, Lane.serviceOrder]
  rw [held_eq, held_eq, part, part, part, part, all]
  simp only [heldIn, line, withdraw, PerLane.get]
  ac_rfl

end Lanes

end Postroom
