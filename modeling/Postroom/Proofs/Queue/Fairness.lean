import Mathlib.Data.List.Nodup
import Mathlib.Data.List.Perm.Subperm
import Postroom.Proofs.Queue.Turnover

/-!
# Fairness within a lane

In a lane the tasks of one domain leave in the order in which they were put in, and the domains take turns. A
domain that waits is not overtaken twice by another one: whoever is served goes behind it, whoever comes new
comes behind it, and what is taken out by a condition leaves gaps. So those ahead of it only become fewer, and
each service of another domain is that of one of them.

- `Line.ahead`: the domains ahead of another one; what each operation of a line does to them.
- `Turnover.servings`: the domains that a list of requests serves in a lane.
- `Turnover.Stays`: a domain has queued tasks all the while, and no poll of the lane excludes it.
- `Turnover.Ordered`: what was taken of a domain, followed by what is queued, is in the order of the offers.
- `Turnover.servings_subperm`: whoever is served before a waiting domain was ahead of it, and is served once.
-/

namespace Postroom

/-- Whether a task belongs to a lane and to a domain. -/
def Task.isIn (t : Task) (l : Lane) (d : Domain) : Bool := t.lane = l && t.domain = d

namespace Line

/-- The domains ahead of `d` in service order. -/
def ahead (l : Line) (d : Domain) : List Domain := l.ring.takeWhile (· ≠ d)

variable {l l' : Line} {lane : Lane} {d : Domain} {t : Task} {excluded : List Domain}

theorem takeWhile_split {before behind : List Domain} (fresh : d ∉ before) :
    (before ++ d :: behind).takeWhile (· ≠ d) = before := by
  have others : ∀ e ∈ before, decide (e ≠ d) = true := by
    intro e he
    refine decide_eq_true fun same => ?_
    exact fresh (same ▸ he)
  rw [List.takeWhile_append_of_pos others, List.takeWhile_cons_of_neg (by simp), List.append_nil]

/-- A ring with `d` in it: those ahead of `d`, then `d`, then the others. -/
theorem ring_split (hd : d ∈ l.ring) :
    ∃ behind, l.ring = l.ahead d ++ d :: behind ∧ d ∉ l.ahead d := by
  obtain ⟨before, behind, split, fresh⟩ := List.eq_append_cons_of_mem hd
  refine ⟨behind, ?_, ?_⟩
  · rw [ahead, split, takeWhile_split fresh]
  · rw [ahead, split, takeWhile_split fresh]
    exact fresh

theorem length_ahead (hd : d ∈ l.ring) : (l.ahead d).length = l.ring.idxOf d := by
  obtain ⟨behind, split, fresh⟩ := ring_split hd
  conv_rhs => rw [split]
  rw [List.idxOf_append_of_notMem fresh, List.idxOf_cons_self, Nat.add_zero]

/-- A domain that comes new comes behind the others. -/
theorem ahead_push (t : Task) (hd : d ∈ l.ring) : (l.push t).ahead d = l.ahead d := by
  obtain ⟨behind, split, fresh⟩ := ring_split hd
  show (if (queueOf l.stands t.domain).isEmpty then l.ring ++ [t.domain] else l.ring).takeWhile _ = _
  split
  · rw [split, List.append_assoc, List.cons_append]
    exact takeWhile_split fresh
  · rfl

/-- What is taken out by a condition brings no one ahead of a domain that stays. -/
theorem ahead_withdraw (p : Task → Bool) (hd : d ∈ (l.withdraw p).2.ring) :
    ((l.withdraw p).2.ahead d).Sublist (l.ahead d) := by
  unfold withdraw at hd ⊢
  dsimp only at hd ⊢
  split
  · exact List.Sublist.refl _
  · next some =>
    rw [if_neg some] at hd
    obtain ⟨here, kept⟩ := List.mem_filter.1 hd
    obtain ⟨behind, split, fresh⟩ := ring_split here
    let stays (e : Domain) : Bool :=
      ((l.stands.map (Stand.without p)).filter fun s => !s.tasks.isEmpty).any (·.domain = e)
    have kept : stays d := kept
    have left : l.ring.filter stays = (l.ahead d).filter stays ++ d :: behind.filter stays := by
      conv_lhs => rw [split]
      rw [List.filter_append, List.filter_cons_of_pos kept]
    show ((l.ring.filter stays).takeWhile _).Sublist _
    rw [left, takeWhile_split fun here => fresh (List.mem_filter.1 here).1]
    exact List.filter_sublist

/-- A domain that is served before `d`, which is not excluded, was ahead of it and goes behind it. -/
theorem ahead_pop? (sound : l.Sound lane) (hd : d ∈ l.ring) (allowed : d ∉ excluded)
    (hp : l.pop? excluded = some (t, l')) (other : t.domain ≠ d) :
    (t.domain :: l'.ahead d).Perm (l.ahead d) := by
  obtain ⟨rest, first, -, rfl⟩ := sound.pop?_eq hp
  obtain ⟨behind, split, fresh⟩ := ring_split hd
  have eligible : isEligible excluded d = true := by
    rw [isEligible_iff]
    exact allowed
  -- the search for the domain to be served does not get past d
  have before : t.domain ∈ l.ahead d := by
    rw [split, List.find?_append] at first
    cases found : (l.ahead d).find? (isEligible excluded) with
    | some e =>
      rw [found] at first
      cases first
      exact List.mem_of_find?_eq_some found
    | none =>
      rw [found, Option.none_or, List.find?_cons_of_pos eligible] at first
      cases first
      exact absurd rfl other
  have left : (⟨leave t.domain rest l.stands, l.ring.erase t.domain ++
      if rest.isEmpty then [] else [t.domain], l.size - 1⟩ : Line).ahead d = (l.ahead d).erase t.domain := by
    show (l.ring.erase t.domain ++ _).takeWhile _ = _
    rw [split, List.erase_append_left _ before, List.append_assoc, List.cons_append]
    exact takeWhile_split fun stays => fresh (List.mem_of_mem_erase stays)
  rw [left]
  exact (List.perm_cons_erase before).symm

end Line

namespace Lanes

/-- A task that is taken from a lane belongs to it. -/
theorem Sound.lane_of_poll? {q q' : Lanes} {l : Lane} {excluded : List Domain} {t : Task} (sound : q.Sound)
    (polled : q.poll? l excluded = some (t, q')) : t.lane = l := by
  obtain ⟨⟨u, n⟩, popped, he⟩ := Option.map_eq_some_iff.1 polled
  cases he
  obtain ⟨rest, -, served, -⟩ := (sound l).pop?_eq popped
  refine sound.mem_line ((sound l).mem_tasks.2 ?_)
  rw [served]
  exact List.mem_cons_self

end Lanes

/-! ### Requests -/

namespace Lanes.Request

/-- Whether a request polls a lane, or may, without the domain `d`. -/
def excludes (l : Lane) (d : Domain) : Lanes.Request → Bool
  | .poll l' excluded => l' = l && excluded.contains d
  | .pollAny excluded => excluded.contains d
  | _ => false

/-- Whether a request polls just this lane. -/
def polls (l : Lane) : Lanes.Request → Bool
  | .poll l' _ => l' = l
  | _ => false

end Lanes.Request

namespace Turnover

/-- The queued tasks of a domain in a lane, first in first. -/
def queue (f : Turnover) (l : Lane) (d : Domain) : List Task := Line.queueOf (f.lanes.line l).stands d

/-- The domain that a request serves in a lane, if it serves one there. -/
def serving? (f : Turnover) (l : Lane) : Lanes.Request → Option Domain
  | .poll l' excluded => if l' = l then (f.lanes.poll? l' excluded).map (·.1.domain) else none
  | .pollAny excluded => (f.lanes.pollAny? excluded).bind fun p => if p.1.lane = l then some p.1.domain else none
  | _ => none

/-- The domains that requests serve in a lane, one after another. -/
def servings (f : Turnover) (l : Lane) : List Lanes.Request → List Domain
  | [] => []
  | r :: rs => (f.serving? l r).toList ++ (f.after r).servings l rs

/-- All the while a domain has queued tasks in a lane, and no poll there excludes it. -/
def Stays (f : Turnover) (l : Lane) (d : Domain) : List Lanes.Request → Prop
  | [] => f.queue l d ≠ []
  | r :: rs => f.queue l d ≠ [] ∧ r.excludes l d = false ∧ (f.after r).Stays l d rs

variable {f : Turnover} {l : Lane} {d : Domain} {r : Lanes.Request}

instance decidableStays (l : Lane) (d : Domain) : ∀ f rs, Decidable (Stays f l d rs)
  | f, [] => inferInstanceAs (Decidable (f.queue l d ≠ []))
  | f, r :: rs =>
    have := decidableStays l d (f.after r) rs
    inferInstanceAs (Decidable (f.queue l d ≠ [] ∧ r.excludes l d = false ∧ (f.after r).Stays l d rs))

theorem Stays.queued {rs : List Lanes.Request} (stays : f.Stays l d rs) : f.queue l d ≠ [] := by
  cases rs with
  | nil => exact stays
  | cons r rs => exact stays.1

/-- What a request comes to: a task is put in, one is taken from a lane, some are taken out, or nothing. -/
inductive Comes (f : Turnover) (r : Lanes.Request) : Prop where
  | put (t : Task) (after : f.after r = f.put t) (serves : ∀ l, f.serving? l r = none)
  | take {l : Lane} {excluded : List Domain} {t : Task} {q : Lanes}
      (polled : f.lanes.poll? l excluded = some (t, q)) (after : f.after r = f.take (some (t, q)))
      (serves : ∀ l', f.serving? l' r = if l = l' then some t.domain else none)
      (allowed : ∀ d, r.excludes l d = false → d ∉ excluded)
  | remove (p : Task → Bool) (after : f.after r = f.remove p) (serves : ∀ l, f.serving? l r = none)
  | idle (after : f.after r = f) (serves : ∀ l, f.serving? l r = none)

theorem comes (sound : f.lanes.Sound) (r : Lanes.Request) : f.Comes r := by
  have allowed : ∀ (excluded : List Domain) (d : Domain), excluded.contains d = false → d ∉ excluded := by
    intro excluded d free
    rwa [List.contains_eq_mem, decide_eq_false_iff_not] at free
  cases r with
  | offer t now => exact .put { t with enqueuedAt := now } rfl fun _ => rfl
  | poll l excluded =>
    cases polled : f.lanes.poll? l excluded with
    | none =>
      refine .idle (congrArg f.take polled) fun l' => ?_
      rw [serving?, polled, Option.map_none, ite_self]
    | some next =>
      refine .take polled (congrArg f.take polled) (fun l' => ?_) fun d free => allowed excluded d ?_
      · rw [serving?, polled, Option.map_some]
      · rwa [Lanes.Request.excludes, decide_eq_true rfl, Bool.true_and] at free
  | pollAny excluded =>
    cases polled : f.lanes.pollAny? excluded with
    | none =>
      refine .idle (congrArg f.take polled) fun l' => ?_
      rw [serving?, polled, Option.bind_none]
    | some next =>
      obtain ⟨l, taken⟩ := Lanes.pollAny?_eq polled
      refine .take taken (congrArg f.take polled) (fun l' => ?_) (allowed excluded)
      rw [serving?, polled, Option.bind_some, sound.lane_of_poll? taken]
  | removeByRunner id token => exact .remove (isOf id token) rfl fun _ => rfl
  | removeWhere p => exact .remove p rfl fun _ => rfl
  | drain => exact .remove (fun _ => true) rfl fun _ => rfl

/-- A lane that is not asked for a task by a poll keeps its line. -/
theorem line_of_poll? {q q' : Lanes} {m : Lane} {excluded : List Domain} {t : Task}
    (polled : q.poll? l excluded = some (t, q')) :
    ∃ n, (q.line l).pop? excluded = some (t, n) ∧ q'.line m = if l = m then n else q.line m := by
  obtain ⟨⟨u, n⟩, popped, he⟩ := Option.map_eq_some_iff.1 polled
  cases he
  exact ⟨n, popped, Lanes.line_set ..⟩

/-! ### Order within a domain -/

/-- What was taken of a domain in a lane, followed by what is queued, is in the order of the offers. -/
def Ordered (f : Turnover) (l : Lane) (d : Domain) : Prop :=
  (f.polled.filter (·.isIn l d) ++ f.queue l d).Sublist (f.offered.filter (·.isIn l d))

theorem queue_put (t : Task) : (f.put t).queue l d = f.queue l d ++ if t.isIn l d then [t] else [] := by
  have line : (f.lanes.offer t).line l = if t.lane = l then (f.lanes.line t.lane).push t else f.lanes.line l :=
    PerLane.get_set ..
  show Line.queueOf ((f.lanes.offer t).line l).stands d = _
  rw [line, Task.isIn]
  by_cases here : t.lane = l
  · rw [if_pos here, here, decide_eq_true rfl, Bool.true_and]
    refine (Line.queueOf_pushInto ..).trans ?_
    by_cases same : t.domain = d <;> simp [same, queue]
  · simp [here, queue]

theorem queue_take {l' : Lane} {excluded : List Domain} {t : Task} {q : Lanes} (sound : f.lanes.Sound)
    (polled : f.lanes.poll? l' excluded = some (t, q)) :
    f.queue l d = (if t.isIn l d then [t] else []) ++ (f.take (some (t, q))).queue l d := by
  have lane := sound.lane_of_poll? polled
  obtain ⟨n, popped, line⟩ := line_of_poll? (m := l) polled
  show _ = _ ++ Line.queueOf (q.line l).stands d
  rw [line, Task.isIn, lane]
  by_cases here : l' = l
  · subst here
    obtain ⟨rest, -, served, rfl⟩ := (sound l').pop?_eq popped
    have stand : t.domain ∈ (f.lanes.line l').stands.map (·.domain) := by
      obtain ⟨s, hs, domain, -⟩ := Line.exists_stand (served ▸ List.cons_ne_nil t rest)
      exact List.mem_map.2 ⟨s, hs, domain⟩
    rw [if_pos rfl, Line.queueOf_leave (sound l').stands stand, decide_eq_true rfl, Bool.true_and]
    by_cases same : t.domain = d
    · subst same
      simp [queue, served]
    · simp [queue, same]
  · simp [queue, here]

theorem queue_remove (sound : f.lanes.Sound) (p : Task → Bool) :
    ((f.remove p).queue l d).Sublist (f.queue l d) := by
  show (Line.queueOf ((f.lanes.withdraw p).2.line l).stands d).Sublist _
  rw [Lanes.line_withdraw]
  unfold Line.withdraw
  dsimp only
  split
  · exact List.Sublist.refl _
  · show (Line.queueOf (((f.lanes.line l).stands.map (Stand.without p)).filter _) d).Sublist _
    rw [Line.queueOf_without (sound l).stands]
    exact List.filter_sublist

theorem ordered_after (sound : f.lanes.Sound) (h : f.Ordered l d) (r : Lanes.Request) :
    (f.after r).Ordered l d := by
  unfold Ordered at h ⊢
  cases comes sound r with
  | put t after _ =>
    rw [after, queue_put]
    show (f.polled.filter _ ++ _).Sublist ((f.offered ++ [t]).filter _)
    rw [List.filter_append, ← List.append_assoc]
    refine h.append ?_
    by_cases here : t.isIn l d <;> simp [here]
  | take polled after _ _ =>
    rw [queue_take sound polled] at h
    rw [after]
    show ((f.polled ++ [_]).filter _ ++ _).Sublist _
    rw [List.filter_append, List.append_assoc, List.filter_singleton, cond_eq_ite]
    exact h
  | remove p after _ =>
    rw [after]
    exact ((List.Sublist.refl _).append (queue_remove sound p)).trans h
  | idle after _ =>
    rw [after]
    exact h

theorem ordered_opening (l : Lane) (d : Domain) : ({} : Turnover).Ordered l d := by
  cases l <;> exact List.Sublist.slnil

theorem ordered_run (rs : List Lanes.Request) (l : Lane) (d : Domain) : (run rs).Ordered l d := by
  have all : ∀ f : Turnover, f.Balanced → f.Ordered l d → (rs.foldl after f).Ordered l d := by
    induction rs with
    | nil => exact fun f _ h => h
    | cons r rs ih => exact fun f balanced h => ih _ (balanced_after balanced r) (ordered_after balanced.sound h r)
  exact all {} balanced_opening (ordered_opening l d)

/-! ### Turns of the domains -/

/-- The domains ahead of `d` in a lane. -/
def ahead (f : Turnover) (l : Lane) (d : Domain) : List Domain := (f.lanes.line l).ahead d

theorem mem_ring_of_queued (sound : f.lanes.Sound) (queued : f.queue l d ≠ []) :
    d ∈ (f.lanes.line l).ring := ((sound l).queued d).2 queued

/-- While a domain waits, whoever is served was ahead of it and is so no more, and no one else comes ahead. -/
theorem subperm_after (balanced : f.Balanced) (queued : f.queue l d ≠ []) (later : (f.after r).queue l d ≠ [])
    (free : r.excludes l d = false) (waits : f.serving? l r ≠ some d) :
    ((f.serving? l r).toList ++ (f.after r).ahead l d).Subperm (f.ahead l d) := by
  have sound := balanced.sound
  have here := mem_ring_of_queued sound queued
  have stays := mem_ring_of_queued (balanced_after balanced r).sound later
  cases comes sound r with
  | put t after serves =>
    have line : (f.lanes.offer t).line l = if t.lane = l then (f.lanes.line t.lane).push t else f.lanes.line l :=
      PerLane.get_set ..
    rw [serves, after, Option.toList_none, List.nil_append]
    show (((f.lanes.offer t).line l).ahead d).Subperm _
    rw [line]
    split
    · next same =>
      rw [same, Line.ahead_push t here]
      exact List.Subperm.refl _
    · exact List.Subperm.refl _
  | @take l' excluded t q polled after serves allowed =>
    obtain ⟨n, popped, line⟩ := line_of_poll? (m := l) polled
    rw [serves] at waits ⊢
    rw [after]
    show (_ ++ (q.line l).ahead d).Subperm _
    rw [line]
    by_cases same : l' = l
    · subst same
      rw [if_pos rfl] at waits ⊢
      rw [if_pos rfl]
      have other : t.domain ≠ d := fun same => waits (congrArg some same)
      exact (Line.ahead_pop? (sound l') here (allowed d free) popped other).subperm
    · rw [if_neg same, if_neg same]
      exact List.Subperm.refl _
  | remove p after serves =>
    rw [after] at stays
    rw [serves, after, Option.toList_none, List.nil_append]
    have stays : d ∈ ((f.lanes.withdraw p).2.line l).ring := stays
    show (((f.lanes.withdraw p).2.line l).ahead d).Subperm _
    rw [Lanes.line_withdraw] at stays ⊢
    exact (Line.ahead_withdraw p stays).subperm
  | idle after serves =>
    rw [serves, after]
    exact List.Subperm.refl _

/-- Whoever is served before a waiting domain was ahead of it, and is served once. -/
theorem servings_subperm {rs : List Lanes.Request} (balanced : f.Balanced) (stays : f.Stays l d rs)
    (waits : d ∉ f.servings l rs) : (f.servings l rs).Subperm (f.ahead l d) := by
  induction rs generalizing f with
  | nil => exact List.nil_subperm
  | cons r rs ih =>
    obtain ⟨queued, free, stays⟩ := stays
    rw [servings, List.mem_append, not_or] at waits
    have first := subperm_after balanced queued stays.queued free
      fun served => waits.1 (Option.mem_toList.2 served)
    have others := ih (balanced_after balanced r) stays waits.2
    exact ((List.subperm_append_left _).2 others).trans first

/-- A poll of the lane that does not exclude a waiting domain serves someone. -/
theorem isSome_serving? (sound : f.lanes.Sound) (queued : f.queue l d ≠ []) (free : r.excludes l d = false)
    (polls : r.polls l) : (f.serving? l r).isSome := by
  cases r with
  | poll l' excluded =>
    obtain rfl : l' = l := of_decide_eq_true polls
    have allowed : d ∉ excluded := by
      rwa [Lanes.Request.excludes, decide_eq_true rfl, Bool.true_and, List.contains_eq_mem,
        decide_eq_false_iff_not] at free
    obtain ⟨t, ht, domain⟩ := (sound l').mem_ring.1 (mem_ring_of_queued sound queued)
    rw [serving?, if_pos rfl, Option.isSome_map, sound.isSome_poll?]
    exact (sound l').hasAvailable_iff.2 ⟨t, ht, domain ▸ allowed⟩
  | _ => cases polls

/-- As long as a domain waits, every poll of the lane serves someone. -/
theorem countP_polls_le {rs : List Lanes.Request} (balanced : f.Balanced) (stays : f.Stays l d rs) :
    rs.countP (·.polls l) ≤ (f.servings l rs).length := by
  induction rs generalizing f with
  | nil => exact Nat.le_refl _
  | cons r rs ih =>
    obtain ⟨queued, free, stays⟩ := stays
    have others := ih (balanced_after balanced r) stays
    rw [servings, List.length_append, List.countP_cons]
    split
    · next polls =>
      obtain ⟨e, served⟩ := Option.isSome_iff_exists.1 (isSome_serving? balanced.sound queued free polls)
      rw [served, Option.toList_some, List.length_singleton]
      omega
    · omega

/-- After any requests: in every lane the tasks of one domain have left in the order of the offers, and before
those still queued. And whatever is asked next, for as long as a domain waits in a lane, is not excluded and is not
served, no other one is served there twice, no more of them are served than are ahead of it, and every poll of
the lane serves one of them. -/
theorem fairInLane_run (rs : List Lanes.Request) (l : Lane) (d : Domain) :
    ((run rs).polled.filter (·.isIn l d) ++ (run rs).queue l d).Sublist ((run rs).offered.filter (·.isIn l d)) ∧
    ∀ next : List Lanes.Request, (run rs).Stays l d next → d ∉ (run rs).servings l next →
      ((run rs).servings l next).Nodup ∧
      ((run rs).servings l next).length ≤ ((run rs).lanes.line l).ring.idxOf d ∧
      next.countP (·.polls l) ≤ ((run rs).servings l next).length := by
  refine ⟨ordered_run rs l d, fun next stays waits => ?_⟩
  have balanced := balanced_run rs
  have served := servings_subperm balanced stays waits
  have distinct : ((run rs).ahead l d).Nodup :=
    (balanced.sound l).ring.sublist (List.takeWhile_sublist _)
  refine ⟨?_, ?_, countP_polls_le balanced stays⟩
  · obtain ⟨those, perm, sub⟩ := served
    exact perm.nodup_iff.1 (distinct.sublist sub)
  · rw [← Line.length_ahead (mem_ring_of_queued balanced.sound stays.queued)]
    exact served.length_le

/-- A task for a domain. -/
def letterTo (domain : String) : Task :=
  .first 0 ⟨⟨"b1"⟩, ⟨domain⟩, .bulk, ⟨"s@example.org", 5, false⟩, none, none⟩ ["a@example.org"]

/-- Three domains have queued tasks, and the last of them waits. -/
def threeWaiting : List Lanes.Request :=
  [.offer (letterTo "a.org") 1, .offer (letterTo "b.org") 2, .offer (letterTo "a.org") 3,
    .offer (letterTo "c.org") 4]

/-- The first domain is held back once, and the second one comes again. -/
def heldBack : List Lanes.Request :=
  [.poll .bulkFresh [⟨"a.org"⟩], .offer (letterTo "b.org") 5, .poll .bulkFresh []]

/-- While the third domain waits, the second one is served, and then the first one. -/
theorem fairInLane_threeWaiting :
    (run threeWaiting).Stays .bulkFresh ⟨"c.org"⟩ heldBack ∧
      (run threeWaiting).servings .bulkFresh heldBack = [⟨"b.org"⟩, ⟨"a.org"⟩] ∧
      ((run threeWaiting).servings .bulkFresh heldBack).Nodup ∧
      ((run threeWaiting).servings .bulkFresh heldBack).length ≤
        ((run threeWaiting).lanes.line .bulkFresh).ring.idxOf ⟨"c.org"⟩ ∧
      heldBack.countP (·.polls .bulkFresh) ≤ ((run threeWaiting).servings .bulkFresh heldBack).length := by
  have stays : (run threeWaiting).Stays .bulkFresh ⟨"c.org"⟩ heldBack := by decide
  have served : (run threeWaiting).servings .bulkFresh heldBack = [⟨"b.org"⟩, ⟨"a.org"⟩] := by decide
  have waits : (⟨"c.org"⟩ : Domain) ∉ (run threeWaiting).servings .bulkFresh heldBack := by
    rw [served]
    decide
  exact ⟨stays, served, (fairInLane_run threeWaiting .bulkFresh ⟨"c.org"⟩).2 heldBack stays waits⟩

end Turnover

end Postroom
