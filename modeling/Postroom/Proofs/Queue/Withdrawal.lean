import Postroom.Proofs.Queue.Turnover

/-!
# What a withdrawal leaves

Tasks can be taken out of the lanes by a condition. What is taken and what is left are then the tasks that satisfy the
condition and those that do not; what is left of each domain of each lane stands in the order in which it stood, and
the domains that have something left keep their order in the ring.

- `Lanes.Without`: the lanes without some tasks, with nothing else changed.
- `Lanes.without_withdraw`: what is left by a withdrawal. `Lanes.taken_withdraw`: what is taken.
-/

namespace Postroom

namespace Line

variable {l : Line} {lane : Lane}

/-- Stand by stand, what is left stands in its old order. -/
theorem queueOf_withdraw (sound : l.Sound lane) (p : Task → Bool) (d : Domain) :
    queueOf (l.withdraw p).2.stands d = (queueOf l.stands d).filter fun t => !p t := by
  unfold withdraw
  dsimp only
  split
  · next none =>
    -- nothing satisfies the condition
    refine (List.filter_eq_self.2 fun t ht => ?_).symm
    have queued : t ∈ l.tasks := sound.mem_tasks.2 ((sound.domain_of_queued ht).symm ▸ ht)
    rw [List.isEmpty_iff, List.filter_eq_nil_iff] at none
    rw [Bool.not_eq_true', Bool.eq_false_iff]
    exact none t queued
  · exact queueOf_without sound.stands p d

/-- The domains that stay in the ring are those with something left, in their old order. -/
theorem ring_withdraw (sound : l.Sound lane) (p : Task → Bool) :
    (l.withdraw p).2.ring = l.ring.filter fun d => !(queueOf (l.withdraw p).2.stands d).isEmpty := by
  obtain ⟨stays, ring⟩ : ∃ stays : Domain → Bool, (l.withdraw p).2.ring = l.ring.filter stays := by
    unfold withdraw
    dsimp only
    split
    · exact ⟨fun _ => true, (List.filter_eq_self.2 fun _ _ => rfl).symm⟩
    · exact ⟨_, rfl⟩
  rw [ring]
  refine List.filter_congr fun d hd => ?_
  have queued := (sound.withdraw p).queued d
  rw [ring, List.mem_filter, and_iff_right hd] at queued
  rw [Bool.eq_iff_iff, queued, Bool.not_eq_true', ← Bool.not_eq_true, List.isEmpty_iff]

end Line

namespace Lanes

variable {q : Lanes}

/-- `q'` has the tasks of `q` that do not satisfy `p`, and no others. In each lane, those of one domain stand in their
old order, and so do the domains in the ring. -/
structure Without (q : Lanes) (p : Task → Bool) (q' : Lanes) : Prop where
  tasks : q'.tasks = q.tasks.filter fun t => !p t
  queues : ∀ l d, Line.queueOf (q'.line l).stands d = (Line.queueOf (q.line l).stands d).filter fun t => !p t
  rings : ∀ l, (q'.line l).ring =
    (q.line l).ring.filter fun d => !(Line.queueOf (q'.line l).stands d).isEmpty

theorem taken_withdraw (q : Lanes) (p : Task → Bool) : (q.withdraw p).1 = q.tasks.filter p := by
  rw [tasks, List.filter_flatMap]
  exact congrArg (List.flatMap · Lane.serviceOrder) (funext fun l => Line.tasks_withdraw_fst (q.line l) p)

theorem without_withdraw (sound : q.Sound) (p : Task → Bool) : q.Without p (q.withdraw p).2 := by
  refine ⟨?_, fun l d => ?_, fun l => ?_⟩
  · rw [tasks, tasks, List.filter_flatMap]
    refine congrArg (List.flatMap · Lane.serviceOrder) (funext fun l => ?_)
    rw [line_withdraw]
    exact Line.tasks_withdraw_snd (q.line l) p
  · rw [line_withdraw]
    exact Line.queueOf_withdraw (sound l) p d
  · rw [line_withdraw]
    exact Line.ring_withdraw (sound l) p

end Lanes

end Postroom
