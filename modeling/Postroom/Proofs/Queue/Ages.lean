import Mathlib.Data.Finset.Dedup
import Mathlib.Data.Finset.Order
import Mathlib.Data.List.Induction
import Postroom.Proofs.Queue.Withdrawal

/-!
# The oldest task of a lane

How long a lane has waited is read off the heads of its stands. The oldest task of all is among them where every stand
is in the order of the enqueue times. Tasks are put in at the back and stamped with the time of day, and wherever they
are taken out, those that are left keep their order. So the stands stay in order as long as the clock is not set back:
a task that comes back into its lane is stamped anew, and stands behind the others as one that came just now.

- `Line.earliest?`: the earliest enqueue time of all tasks whose domain is not excluded.
- `Line.Timed`: every stand is in the order of the enqueue times, and none of these lies ahead.
- `Line.Timed.push`, `Line.Timed.of_sublist`: what a task that is put in needs; whatever is taken out does no harm.
- `Line.Timed.oldest?_eq`: then the earliest head is the oldest task.
- `Turnover.timed_run`, `Turnover.oldest?_run`: the lanes after any requests whose offers come in the order of time.
-/

namespace Postroom

/-- The earliest of some times is among any of them that have one at or before each. -/
theorem min?_eq_of_subset {xs ys : List Int} (among : xs ⊆ ys) (before : ∀ y ∈ ys, ∃ x ∈ xs, x ≤ y) :
    xs.min? = ys.min? := by
  cases least : xs.min? with
  | none =>
    have none : ys = [] := by
      refine List.eq_nil_iff_forall_not_mem.2 fun y hy => ?_
      obtain ⟨x, hx, -⟩ := before y hy
      rw [List.min?_eq_none_iff.1 least] at hx
      cases hx
    rw [none, List.min?_nil]
  | some a =>
    obtain ⟨ha, first⟩ := List.min?_eq_some_iff.1 least
    refine (List.min?_eq_some_iff.2 ⟨among ha, fun y hy => ?_⟩).symm
    obtain ⟨x, hx, le⟩ := before y hy
    exact (first x hx).trans le

namespace Line

variable {l l' : Line} {lane : Lane} {t : Task} {now : Int} {excluded : List Domain}

/-- The earliest enqueue time of all queued tasks whose domain is not excluded. -/
def earliest? (l : Line) (excluded : List Domain) : Option Int :=
  ((l.tasks.filter fun t => isEligible excluded t.domain).map (·.enqueuedAt)).min?

/-- The earliest enqueue time is no later than a time where that of some task is not. -/
theorem exists_earliest?_iff {time : Int} : (∃ since ∈ l.earliest? excluded, since ≤ time) ↔
    ∃ t ∈ l.tasks, t.domain ∉ excluded ∧ t.enqueuedAt ≤ time := by
  constructor
  · rintro ⟨since, least, le⟩
    obtain ⟨t, ht, rfl⟩ := List.mem_map.1 (List.min?_eq_some_iff.1 least).1
    obtain ⟨ht, eligible⟩ := List.mem_filter.1 ht
    exact ⟨t, ht, isEligible_iff.1 eligible, le⟩
  · rintro ⟨t, ht, eligible, le⟩
    have among : t.enqueuedAt ∈ (l.tasks.filter fun t => isEligible excluded t.domain).map (·.enqueuedAt) :=
      List.mem_map_of_mem (List.mem_filter.2 ⟨ht, isEligible_iff.2 eligible⟩)
    cases least : l.earliest? excluded with
    | none =>
      rw [List.min?_eq_none_iff.1 least] at among
      cases among
    | some since => exact ⟨since, rfl, ((List.min?_eq_some_iff.1 least).2 _ among).trans le⟩

/-- The tasks of each domain stand in the order of their enqueue times, none of which is after `now`. -/
structure Timed (now : Int) (l : Line) : Prop where
  sorted : ∀ d, (queueOf l.stands d).Pairwise fun a b => a.enqueuedAt ≤ b.enqueuedAt
  past : ∀ d, ∀ t ∈ queueOf l.stands d, t.enqueuedAt ≤ now

theorem timed_empty (now : Int) : empty.Timed now where
  sorted _ := List.Pairwise.nil
  past _ _ ht := by cases ht

namespace Timed

theorem later {now' : Int} (h : l.Timed now) (le : now ≤ now') : l.Timed now' where
  sorted := h.sorted
  past d t ht := (h.past d t ht).trans le

theorem push (h : l.Timed now) (stamped : t.enqueuedAt = now) : (l.push t).Timed now where
  sorted d := by
    rw [Line.push, queueOf_pushInto]
    refine List.pairwise_append.2 ⟨h.sorted d, ?_, fun a ha b hb => ?_⟩
    · split
      · exact List.pairwise_singleton ..
      · exact List.Pairwise.nil
    · obtain rfl : b = t := by
        split at hb
        · exact List.mem_singleton.1 hb
        · cases hb
      exact stamped ▸ h.past d a ha
  past d u hu := by
    rw [Line.push, queueOf_pushInto] at hu
    rcases List.mem_append.1 hu with hu | hu
    · exact h.past d u hu
    · split at hu
      · exact List.mem_singleton.1 hu ▸ stamped.le
      · cases hu

/-- Whatever is taken out, from wherever it stood, the others stay in order. -/
theorem of_sublist (h : l.Timed now) (left : ∀ d, (queueOf l'.stands d).Sublist (queueOf l.stands d)) :
    l'.Timed now where
  sorted d := (h.sorted d).sublist (left d)
  past d t ht := h.past d t ((left d).subset ht)

theorem pop? (h : l.Timed now) (sound : l.Sound lane) (hp : l.pop? excluded = some (t, l')) : l'.Timed now := by
  obtain ⟨rest, -, served, rfl⟩ := sound.pop?_eq hp
  have stand : t.domain ∈ l.stands.map (·.domain) := by
    obtain ⟨s, hs, hd, -⟩ := exists_stand (served ▸ List.cons_ne_nil t rest)
    exact List.mem_map.2 ⟨s, hs, hd⟩
  refine h.of_sublist fun d => ?_
  rw [queueOf_leave sound.stands stand]
  split
  · next same => exact same ▸ served ▸ List.sublist_cons_self t rest
  · exact List.Sublist.refl _

theorem withdraw (h : l.Timed now) (sound : l.Sound lane) (p : Task → Bool) : (l.withdraw p).2.Timed now :=
  h.of_sublist fun d => queueOf_withdraw sound p d ▸ List.filter_sublist

theorem past_of_mem (h : l.Timed now) (sound : l.Sound lane) (ht : t ∈ l.tasks) : t.enqueuedAt ≤ now :=
  h.past t.domain t (sound.mem_tasks.1 ht)

/-- The earliest time at a head is the earliest of all. -/
theorem oldest?_eq (h : l.Timed now) (sound : l.Sound lane) (excluded : List Domain) :
    l.oldest? excluded = l.earliest? excluded := by
  refine min?_eq_of_subset (fun x hx => ?_) fun y hy => ?_
  · obtain ⟨d, hd, head⟩ := List.mem_filterMap.1 hx
    obtain ⟨t, first, rfl⟩ := Option.map_eq_some_iff.1 head
    have queued := List.mem_of_mem_head? first
    obtain rfl := sound.domain_of_queued queued
    exact List.mem_map_of_mem (List.mem_filter.2 ⟨sound.mem_tasks.2 queued, (List.mem_filter.1 hd).2⟩)
  · obtain ⟨t, ht, rfl⟩ := List.mem_map.1 hy
    obtain ⟨ht, eligible⟩ := List.mem_filter.1 ht
    have queued := sound.mem_tasks.1 ht
    obtain ⟨u, rest, stand⟩ := List.exists_cons_of_ne_nil (List.ne_nil_of_mem queued)
    have ring : t.domain ∈ l.ring.filter (isEligible excluded) :=
      List.mem_filter.2 ⟨sound.mem_ring.2 ⟨t, ht, rfl⟩, eligible⟩
    refine ⟨u.enqueuedAt, List.mem_filterMap.2 ⟨t.domain, ring, by rw [stand]; rfl⟩, ?_⟩
    -- the head of the stand of `t` is no later than `t`
    have order := h.sorted t.domain
    rw [stand] at order queued
    rcases List.mem_cons.1 queued with rfl | behind
    · exact le_refl _
    · exact (List.pairwise_cons.1 order).1 t behind

end Timed

end Line

namespace Lanes

variable {q q' : Lanes} {t : Task} {l : Lane} {now : Int} {excluded : List Domain}

/-- Every line is in the order of time. -/
def Timed (now : Int) (q : Lanes) : Prop := ∀ l, (q.line l).Timed now

theorem timed_empty (now : Int) : ({} : Lanes).Timed now := by
  intro l
  cases l <;> exact Line.timed_empty now

namespace Timed

theorem later {now' : Int} (h : q.Timed now) (le : now ≤ now') : q.Timed now' := fun l => (h l).later le

theorem set (h : q.Timed now) {n : Line} (hn : n.Timed now) (l : Lane) : (Lanes.mk (q.lines.set l n)).Timed now := by
  intro l'
  rw [line_set]
  split
  · exact hn
  · exact h l'

theorem offer (h : q.Timed now) (stamped : t.enqueuedAt = now) : (q.offer t).Timed now :=
  h.set ((h t.lane).push stamped) t.lane

theorem poll? (h : q.Timed now) (sound : q.Sound) (hp : q.poll? l excluded = some (t, q')) : q'.Timed now := by
  obtain ⟨⟨u, n⟩, hn, he⟩ := Option.map_eq_some_iff.1 hp
  cases he
  exact h.set ((h l).pop? (sound l) hn) l

theorem withdraw (h : q.Timed now) (sound : q.Sound) (p : Task → Bool) : (q.withdraw p).2.Timed now := by
  intro l
  rw [line_withdraw]
  exact (h l).withdraw (sound l) p

end Timed

/-- The time at which a request puts a task in, if it does. -/
def Request.offeredAt : Request → Option Int
  | .offer _ now => some now
  | _ => none

end Lanes

namespace Turnover

variable {f : Turnover} {now : Int}

/-- A request keeps the lanes in the order of time, if what it puts in comes now. -/
theorem timed_after (sound : f.lanes.Sound) (timed : f.lanes.Timed now) (r : Lanes.Request)
    (stamped : ∀ time ∈ r.offeredAt, time = now) : (f.after r).lanes.Timed now := by
  have taken : ∀ next, (∀ p ∈ next, ∃ l excluded, f.lanes.poll? l excluded = some p) →
      (f.take next).lanes.Timed now := by
    intro next polled
    cases next with
    | none => exact timed
    | some p =>
      obtain ⟨l, excluded, hp⟩ := polled p rfl
      exact timed.poll? sound hp
  cases r with
  | offer t time => exact timed.offer (stamped time rfl)
  | poll l excluded => exact taken _ fun p hp => ⟨l, excluded, hp⟩
  | pollAny excluded =>
    refine taken _ fun p hp => ?_
    obtain ⟨l, hl⟩ := Lanes.pollAny?_eq hp
    exact ⟨l, excluded, hl⟩
  | removeByRunner id token => exact timed.withdraw sound _
  | removeWhere p => exact timed.withdraw sound p
  | drain => exact timed.withdraw sound _

/-- The lanes are in order after requests whose offers come in the order of time, at any time that is not before the
last of them. -/
theorem timed_run (rs : List Lanes.Request) (ordered : (rs.filterMap (·.offeredAt)).Pairwise (· ≤ ·))
    (latest : ∀ time ∈ rs.filterMap (·.offeredAt), time ≤ now) : (run rs).lanes.Timed now := by
  induction rs using List.reverseRecOn generalizing now with
  | nil => exact Lanes.timed_empty now
  | append_singleton rs r ih =>
    rw [List.filterMap_append] at ordered latest
    obtain ⟨ordered, -, behind⟩ := List.pairwise_append.1 ordered
    have sound : (run rs).lanes.Sound := (balanced_run rs).sound
    rw [run, List.foldl_append]
    show ((run rs).after r).lanes.Timed now
    cases time : r.offeredAt with
    | none =>
      have timed := ih ordered fun x hx => latest x (List.mem_append_left _ hx)
      exact timed_after sound timed r (by rw [time]; nofun)
    | some came =>
      -- the lanes before were in order at the time of this offer
      have last : came ∈ [r].filterMap (·.offeredAt) := by simp [time]
      have timed := ih ordered fun x hx => behind x hx came last
      refine (timed_after sound timed r ?_).later (latest came (List.mem_append_right _ last))
      rw [time]
      exact fun x hx => (Option.some.inj hx).symm

/-- Whatever is asked of the lanes, as long as the clock is not set back between two offers, the oldest wait of a lane
is that of the oldest of all its tasks that may be taken. -/
theorem oldest?_run (rs : List Lanes.Request) (ordered : (rs.filterMap (·.offeredAt)).Pairwise (· ≤ ·)) (l : Lane)
    (excluded : List Domain) :
    ((run rs).lanes.line l).oldest? excluded = ((run rs).lanes.line l).earliest? excluded := by
  obtain ⟨now, latest⟩ := (rs.filterMap (·.offeredAt)).toFinset.exists_le
  have timed : (run rs).lanes.Timed now := timed_run rs ordered fun time ht => latest time (List.mem_toFinset.2 ht)
  exact (timed l).oldest?_eq ((balanced_run rs).sound l) excluded

end Turnover

end Postroom
