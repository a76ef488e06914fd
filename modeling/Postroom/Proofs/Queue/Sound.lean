import Mathlib.Data.List.Nodup
import Mathlib.Data.List.Perm.Basic
import Postroom.Proofs.Queue.Tasks

/-!
# Stands, ring and size of a line tell the same

A line keeps one thing three times: the tasks stand at their domains' stands, the ring lists the domains
that have a stand, and the size counts the tasks. Each operation changes the three on its own, and what is
asked of a line is answered from whichever is at hand. They agree: a domain is in the ring once if it has
queued tasks and not at all if it has none, so that nothing queued is out of reach.

- `Line.Sound`: how the three parts of a line and its tasks agree.
- `Line.Sound.push`, `Line.Sound.pop?`, `Line.Sound.withdraw`: each operation keeps them in agreement.
- `Line.Sound.hasAvailable_iff` and the like: then whether there is work, the next task and the oldest wait
  are there on exactly the same lines, and the depths are those of the queued domains.
-/

namespace Postroom

/-- A stand that has tasks, each of its domain and of `lane`. -/
structure Stand.Filed (lane : Lane) (s : Stand) : Prop where
  filled : s.tasks ≠ []
  domain : ∀ t ∈ s.tasks, t.domain = s.domain
  lane : ∀ t ∈ s.tasks, t.lane = lane

namespace Line

/-- Stands, ring and size of a line of `lane` tell the same. -/
structure Sound (lane : Lane) (l : Line) : Prop where
  /-- No domain is in the ring twice. -/
  ring : l.ring.Nodup
  /-- No domain has two stands. -/
  stands : (l.stands.map (·.domain)).Nodup
  /-- The domains in the ring are those with queued tasks. -/
  queued : ∀ d, d ∈ l.ring ↔ queueOf l.stands d ≠ []
  /-- No stand is empty, and all tasks are where they belong. -/
  filed : ∀ s ∈ l.stands, s.Filed lane
  /-- The size is the sum of the lengths of the stands. -/
  size : l.size = sumOf (l.stands.map (·.tasks.length))

theorem isEligible_iff {excluded : List Domain} {d : Domain} : isEligible excluded d ↔ d ∉ excluded := by
  rw [isEligible, Bool.not_eq_true', List.contains_eq_mem, decide_eq_false_iff_not]

/-! ### What a domain has queued -/

section

variable {ss : List Stand} {s : Stand} {d : Domain} {t : Task} {rest : List Task}

theorem queueOf_nil (d : Domain) : queueOf [] d = [] := rfl

theorem queueOf_cons (s : Stand) (ss : List Stand) (d : Domain) :
    queueOf (s :: ss) d = if s.domain = d then s.tasks else queueOf ss d := by
  by_cases h : s.domain = d <;> simp [queueOf, stand?, h]

theorem queueOf_of_not_mem (h : d ∉ ss.map (·.domain)) : queueOf ss d = [] := by
  induction ss with
  | nil => rfl
  | cons s ss ih =>
    rw [List.map_cons, List.mem_cons, not_or] at h
    rw [queueOf_cons, if_neg fun he => h.1 he.symm, ih h.2]

/-- A stand is found by its domain. -/
theorem stand?_of_mem (nodup : (ss.map (·.domain)).Nodup) (hs : s ∈ ss) :
    stand? ss s.domain = some s := by
  induction ss with
  | nil => cases hs
  | cons x ss ih =>
    obtain ⟨fresh, nodup⟩ := List.nodup_cons.1 nodup
    rcases List.mem_cons.1 hs with rfl | hs
    · simp [stand?]
    · have other : x.domain ≠ s.domain := fun he =>
        fresh (List.mem_map.2 ⟨s, hs, he.symm⟩)
      simpa [stand?, List.find?_cons, other] using ih nodup hs

theorem queueOf_of_mem (nodup : (ss.map (·.domain)).Nodup) (hs : s ∈ ss) :
    queueOf ss s.domain = s.tasks := by
  rw [queueOf, stand?_of_mem nodup hs, Option.map_some, Option.getD_some]

/-- What is queued for a domain stands at its stand. -/
theorem exists_stand (h : queueOf ss d ≠ []) :
    ∃ s ∈ ss, s.domain = d ∧ stand? ss d = some s ∧ queueOf ss d = s.tasks := by
  cases found : stand? ss d with
  | none => exact absurd (by rw [queueOf, found]; rfl) h
  | some s =>
    refine ⟨s, List.mem_of_find?_eq_some found, by simpa using List.find?_some found, rfl, ?_⟩
    rw [queueOf, found, Option.map_some, Option.getD_some]

theorem queueOf_pushInto (t : Task) (ss : List Stand) (d : Domain) :
    queueOf (pushInto t ss) d = queueOf ss d ++ if t.domain = d then [t] else [] := by
  induction ss with
  | nil => by_cases h : t.domain = d <;> simp [pushInto, queueOf_cons, queueOf_nil, h]
  | cons s ss ih =>
    unfold pushInto
    by_cases hs : s.domain = t.domain
    · rw [if_pos hs, queueOf_cons, queueOf_cons]
      by_cases h : t.domain = d
      · simp [hs, h]
      · simp [hs, h]
    · rw [if_neg hs, queueOf_cons, queueOf_cons, ih]
      by_cases h : s.domain = d
      · have other : ¬ t.domain = d := fun he => hs (h.trans he.symm)
        simp [h, other]
      · simp [h]

theorem domains_pushInto (t : Task) (ss : List Stand) :
    (pushInto t ss).map (·.domain) =
      ss.map (·.domain) ++ if t.domain ∈ ss.map (·.domain) then [] else [t.domain] := by
  induction ss with
  | nil => rfl
  | cons s ss ih =>
    unfold pushInto
    by_cases hs : s.domain = t.domain
    · simp [hs]
    · have other : ¬ t.domain = s.domain := fun he => hs he.symm
      simp only [hs, if_false, List.map_cons, ih, List.mem_cons, other, false_or, List.cons_append]

theorem queueOf_leave (nodup : (ss.map (·.domain)).Nodup) (hd : d ∈ ss.map (·.domain))
    (rest : List Task) (d' : Domain) :
    queueOf (leave d rest ss) d' = if d = d' then rest else queueOf ss d' := by
  induction ss with
  | nil => cases hd
  | cons s ss ih =>
    obtain ⟨fresh, nodup⟩ := List.nodup_cons.1 nodup
    unfold leave
    by_cases hs : s.domain = d
    · subst hs
      by_cases hr : rest.isEmpty
      · rw [if_pos rfl, if_pos hr, List.isEmpty_iff.1 hr, queueOf_cons]
        by_cases h : s.domain = d'
        · rw [if_pos h, ← h, queueOf_of_not_mem fresh]
        · rw [if_neg h, if_neg h]
      · simp only [if_true, if_neg hr, queueOf_cons]
        by_cases h : s.domain = d' <;> simp [h]
    · have hd : d ∈ ss.map (·.domain) := (List.mem_cons.1 hd).resolve_left fun he => hs he.symm
      rw [if_neg hs, queueOf_cons, queueOf_cons, ih nodup hd]
      by_cases h : s.domain = d'
      · have other : ¬ d = d' := fun he => hs (h.trans he.symm)
        simp [h, other]
      · simp [h]

theorem domains_leave (d : Domain) (rest : List Task) (ss : List Stand) :
    ((leave d rest ss).map (·.domain)).Sublist (ss.map (·.domain)) := by
  induction ss with
  | nil => exact List.Sublist.slnil
  | cons s ss ih =>
    unfold leave
    split
    · split
      · exact List.sublist_cons_self _ _
      · exact List.Sublist.refl _
    · exact ih.cons_cons _

/-- The stands without some tasks and without the stands that are left empty. -/
theorem queueOf_without (nodup : (ss.map (·.domain)).Nodup) (p : Task → Bool) (d : Domain) :
    queueOf ((ss.map (Stand.without p)).filter fun s => !s.tasks.isEmpty) d =
      (queueOf ss d).filter fun t => !p t := by
  induction ss with
  | nil => rfl
  | cons s ss ih =>
    obtain ⟨fresh, nodup⟩ := List.nodup_cons.1 nodup
    have ih := ih nodup
    rw [List.map_cons, List.filter_cons, queueOf_cons]
    by_cases h : s.domain = d
    · rw [if_pos h]
      split
      · rw [queueOf_cons, if_pos (show (s.without p).domain = d from h)]
        rfl
      · next gone =>
        rw [ih, ← h, queueOf_of_not_mem fresh]
        have none : (s.without p).tasks = [] := by simpa using gone
        exact none.symm
    · rw [if_neg h]
      split
      · rw [queueOf_cons, if_neg (show ¬ (s.without p).domain = d from h), ih]
      · exact ih

theorem domains_without (p : Task → Bool) (ss : List Stand) :
    (((ss.map (Stand.without p)).filter fun s => !s.tasks.isEmpty).map (·.domain)).Sublist
      (ss.map (·.domain)) := by
  have same : (ss.map (Stand.without p)).map (·.domain) = ss.map (·.domain) := by
    rw [List.map_map]
    rfl
  exact same ▸ (List.filter_sublist.map _)

end

/-! ### All stands are filed -/

section

variable {lane : Lane} {ss : List Stand}

theorem filed_pushInto (t : Task) (here : t.lane = lane) (h : ∀ s ∈ ss, s.Filed lane) :
    ∀ s ∈ pushInto t ss, s.Filed lane := by
  induction ss with
  | nil =>
    intro s hs
    rw [pushInto, List.mem_singleton] at hs
    subst hs
    exact ⟨List.cons_ne_nil _ _, by simp, by simpa using here⟩
  | cons x ss ih =>
    intro s hs
    unfold pushInto at hs
    split at hs
    · next same =>
      rcases List.mem_cons.1 hs with rfl | hs
      · have hx := h x (List.mem_cons_self ..)
        refine ⟨by simp, fun u hu => ?_, fun u hu => ?_⟩
        · rcases List.mem_append.1 hu with hu | hu
          · exact hx.domain u hu
          · rw [List.mem_singleton.1 hu]
            exact same.symm
        · rcases List.mem_append.1 hu with hu | hu
          · exact hx.lane u hu
          · rw [List.mem_singleton.1 hu]
            exact here
      · exact h s (List.mem_cons_of_mem _ hs)
    · rcases List.mem_cons.1 hs with rfl | hs
      · exact h s (List.mem_cons_self ..)
      · exact ih (fun s hs => h s (List.mem_cons_of_mem _ hs)) s hs

theorem filed_leave {d : Domain} {t : Task} {rest : List Task} (h : ∀ s ∈ ss, s.Filed lane)
    (next : queueOf ss d = t :: rest) : ∀ s ∈ leave d rest ss, s.Filed lane := by
  induction ss with
  | nil => cases next
  | cons x ss ih =>
    have behind : ∀ s ∈ ss, s.Filed lane := fun s hs => h s (List.mem_cons_of_mem _ hs)
    rw [queueOf_cons] at next
    unfold leave
    by_cases hd : x.domain = d
    · rw [if_pos hd] at next ⊢
      split
      · exact behind
      · next some =>
        intro s hs
        rcases List.mem_cons.1 hs with rfl | hs
        · have hx := h x (List.mem_cons_self ..)
          have among : ∀ u ∈ rest, u ∈ x.tasks := fun u hu => next ▸ List.mem_cons_of_mem _ hu
          exact ⟨fun none => some (List.isEmpty_iff.2 none), fun u hu => hx.domain u (among u hu),
            fun u hu => hx.lane u (among u hu)⟩
        · exact behind s hs
    · rw [if_neg hd] at next ⊢
      intro s hs
      rcases List.mem_cons.1 hs with rfl | hs
      · exact h s (List.mem_cons_self ..)
      · exact ih behind next s hs

theorem filed_without (p : Task → Bool) (h : ∀ s ∈ ss, s.Filed lane) :
    ∀ s ∈ (ss.map (Stand.without p)).filter fun s => !s.tasks.isEmpty, s.Filed lane := by
  intro s hs
  obtain ⟨hs, some⟩ := List.mem_filter.1 hs
  obtain ⟨x, hx, rfl⟩ := List.mem_map.1 hs
  have hx := h x hx
  exact ⟨by simpa using some, fun u hu => hx.domain u (List.mem_filter.1 hu).1,
    fun u hu => hx.lane u (List.mem_filter.1 hu).1⟩

end

/-! ### Each operation keeps a line sound -/

theorem length_tasks (ss : List Stand) :
    (ss.flatMap (·.tasks)).length = sumOf (ss.map (·.tasks.length)) := by
  induction ss with
  | nil => rfl
  | cons s ss ih => simp [List.flatMap_cons, ih]

theorem sound_empty (lane : Lane) : empty.Sound lane where
  ring := List.nodup_nil
  stands := List.nodup_nil
  queued d := by simp [empty, queueOf_nil]
  filed s hs := by cases hs
  size := rfl

namespace Sound

variable {lane : Lane} {l l' : Line} {t : Task} {excluded : List Domain}

theorem length_eq (h : l.Sound lane) : l.tasks.length = l.size := (length_tasks l.stands).trans h.size.symm

theorem mem_tasks (h : l.Sound lane) : t ∈ l.tasks ↔ t ∈ queueOf l.stands t.domain := by
  refine ⟨fun ht => ?_, fun ht => ?_⟩
  · obtain ⟨s, hs, hts⟩ := List.mem_flatMap.1 ht
    rw [(h.filed s hs).domain t hts, queueOf_of_mem h.stands hs]
    exact hts
  · obtain ⟨s, hs, -, -, same⟩ := exists_stand (List.ne_nil_of_mem ht)
    exact List.mem_flatMap.2 ⟨s, hs, same ▸ ht⟩

/-- The tasks of a domain's queue are of that domain. -/
theorem domain_of_queued (h : l.Sound lane) {d : Domain} (ht : t ∈ queueOf l.stands d) :
    t.domain = d := by
  obtain ⟨s, hs, rfl, -, same⟩ := exists_stand (List.ne_nil_of_mem ht)
  exact (h.filed s hs).domain t (same ▸ ht)

theorem lane_of_mem (h : l.Sound lane) (ht : t ∈ l.tasks) : t.lane = lane := by
  obtain ⟨s, hs, hts⟩ := List.mem_flatMap.1 ht
  exact (h.filed s hs).lane t hts

theorem mem_ring (h : l.Sound lane) {d : Domain} : d ∈ l.ring ↔ ∃ t ∈ l.tasks, t.domain = d := by
  rw [h.queued]
  refine ⟨fun some => ?_, ?_⟩
  · obtain ⟨t, ht⟩ := List.exists_mem_of_ne_nil _ some
    have hd := h.domain_of_queued ht
    exact ⟨t, h.mem_tasks.2 (hd.symm ▸ ht), hd⟩
  · rintro ⟨t, ht, rfl⟩
    exact List.ne_nil_of_mem (h.mem_tasks.1 ht)

theorem push (h : l.Sound lane) (here : t.lane = lane) : (l.push t).Sound lane where
  ring := by
    unfold Line.push
    dsimp only
    split
    · next none =>
      have fresh : t.domain ∉ l.ring := fun hd => (h.queued _).1 hd (List.isEmpty_iff.1 none)
      exact h.ring.append (List.nodup_singleton _) (by simpa using fresh)
    · exact h.ring
  stands := by
    unfold Line.push
    rw [domains_pushInto]
    split
    · rw [List.append_nil]
      exact h.stands
    · next fresh => exact h.stands.append (List.nodup_singleton _) (by simpa using fresh)
  queued d := by
    show d ∈ (if _ then _ else _) ↔ _
    rw [Line.push, queueOf_pushInto]
    by_cases hd : t.domain = d
    · subst hd
      by_cases none : queueOf l.stands t.domain = []
      · simp [none]
      · simp [none, (h.queued _).2 none]
    · have other : ¬ d = t.domain := fun he => hd he.symm
      have same : d ∈ (if (queueOf l.stands t.domain).isEmpty then l.ring ++ [t.domain] else l.ring) ↔
          d ∈ l.ring := by
        split
        · simp [other]
        · rfl
      rw [same, h.queued, if_neg hd, List.append_nil]
  filed := filed_pushInto t here h.filed
  size := by
    have one := (tasks_push_perm l t).length_eq
    rw [List.length_append, h.length_eq] at one
    exact one.symm.trans (length_tasks _)

/-- What taking the next task does to a sound line. -/
theorem pop?_eq (h : l.Sound lane) (hp : l.pop? excluded = some (t, l')) :
    ∃ rest, l.ring.find? (isEligible excluded) = some t.domain ∧
      queueOf l.stands t.domain = t :: rest ∧
      l' = ⟨leave t.domain rest l.stands,
        l.ring.erase t.domain ++ if rest.isEmpty then [] else [t.domain], l.size - 1⟩ := by
  unfold Line.pop? at hp
  split at hp
  · cases hp
  · next d first =>
    split at hp
    · cases hp
    · next rest served =>
      cases hp
      obtain rfl : t.domain = d := h.domain_of_queued (served ▸ List.mem_cons_self ..)
      exact ⟨rest, first, served, rfl⟩

theorem pop? (h : l.Sound lane) (hp : l.pop? excluded = some (t, l')) : l'.Sound lane := by
  obtain ⟨rest, first, served, rfl⟩ := h.pop?_eq hp
  have queued : queueOf l.stands t.domain ≠ [] := served ▸ List.cons_ne_nil _ _
  have stands : t.domain ∈ l.stands.map (·.domain) := by
    obtain ⟨s, hs, hd, -⟩ := exists_stand queued
    exact List.mem_map.2 ⟨s, hs, hd⟩
  have gone : t.domain ∉ l.ring.erase t.domain := h.ring.not_mem_erase
  refine ⟨?_, h.stands.sublist (domains_leave ..), fun d => ?_, filed_leave h.filed served, ?_⟩
  · have others : (l.ring.erase t.domain).Nodup := h.ring.erase _
    by_cases none : rest.isEmpty
    · simpa [none] using others
    · simpa [none] using others.append (List.nodup_singleton _) (by simpa using gone)
  · rw [queueOf_leave h.stands stands]
    by_cases hd : t.domain = d
    · subst hd
      by_cases none : rest = [] <;> simp [none, gone]
    · have other : d ≠ t.domain := fun he => hd he.symm
      have same : d ∈ (if rest.isEmpty then [] else [t.domain]) ↔ False := by
        split <;> simp [other]
      rw [if_neg hd, ← h.queued, List.mem_append, same, or_false, List.mem_erase_of_ne other]
  · have one := (tasks_pop? hp).length_eq
    rw [h.length_eq, List.length_cons, tasks, length_tasks] at one
    show l.size - 1 = _
    omega

theorem withdraw (h : l.Sound lane) (p : Task → Bool) : (l.withdraw p).2.Sound lane := by
  unfold Line.withdraw
  dsimp only
  split
  · exact h
  · refine ⟨h.ring.filter _, h.stands.sublist (domains_without p _), fun d => ?_,
      filed_without p h.filed, ?_⟩
    · rw [List.mem_filter, List.any_eq_true]
      refine ⟨?_, fun some => ?_⟩
      · rintro ⟨-, s, hs, hd⟩
        obtain rfl : s.domain = d := by simpa using hd
        rw [queueOf_of_mem (h.stands.sublist (domains_without p _)) hs]
        exact (filed_without p h.filed s hs).filled
      · obtain ⟨s, hs, hd, -⟩ := exists_stand some
        rw [queueOf_without h.stands] at some
        refine ⟨(h.queued d).2 fun none => some ?_, s, hs, decide_eq_true hd⟩
        rw [none]
        rfl
    · have parts : l.size = (l.tasks.filter p).length + (l.tasks.filter fun t => !p t).length := by
        rw [← h.length_eq, (List.filter_append_perm p l.tasks).length_eq.symm, List.length_append]
      have left := congrArg List.length (tasks_without p l.stands)
      rw [length_tasks] at left
      rw [left, parts]
      exact Nat.add_sub_cancel_left ..

/-! ### What a sound line answers -/

theorem hasAvailable_iff (h : l.Sound lane) :
    l.hasAvailable excluded ↔ ∃ t ∈ l.tasks, t.domain ∉ excluded := by
  simp only [hasAvailable, List.any_eq_true, isEligible_iff]
  refine ⟨?_, ?_⟩
  · rintro ⟨d, hd, allowed⟩
    obtain ⟨t, ht, rfl⟩ := h.mem_ring.1 hd
    exact ⟨t, ht, allowed⟩
  · rintro ⟨t, ht, allowed⟩
    exact ⟨t.domain, h.mem_ring.2 ⟨t, ht, rfl⟩, allowed⟩

/-- Whether a line has work is whether it has a next task. -/
theorem isSome_pop? (h : l.Sound lane) (excluded : List Domain) :
    (l.pop? excluded).isSome = l.hasAvailable excluded := by
  unfold Line.pop? hasAvailable
  split
  · next none =>
    rw [List.find?_eq_none] at none
    exact (List.any_eq_false.2 none).symm
  · next d first =>
    have here : d ∈ l.ring := List.mem_of_find?_eq_some first
    rw [List.any_eq_true.2 ⟨d, here, List.find?_some first⟩]
    split
    · next none => exact absurd none ((h.queued d).1 here)
    · rfl

/-- Whether a line has work is whether it has an oldest wait. -/
theorem isSome_oldest? (h : l.Sound lane) (excluded : List Domain) :
    (l.oldest? excluded).isSome = l.hasAvailable excluded := by
  rw [Bool.eq_iff_iff, oldest?, hasAvailable, List.any_eq_true, Option.isSome_iff_ne_none, ne_eq,
    List.min?_eq_none_iff, List.filterMap_eq_nil_iff]
  refine ⟨fun some => ?_, ?_⟩
  · refine Classical.byContradiction fun none => some fun d hd => ?_
    obtain ⟨hd, allowed⟩ := List.mem_filter.1 hd
    exact absurd ⟨d, hd, allowed⟩ none
  · rintro ⟨d, hd, allowed⟩ none
    obtain ⟨t, rest, served⟩ := List.exists_cons_of_ne_nil ((h.queued d).1 hd)
    have gone := none d (List.mem_filter.2 ⟨hd, allowed⟩)
    rw [served] at gone
    cases gone

/-- The domains in the ring are those of the stands. -/
theorem ring_perm (h : l.Sound lane) : l.ring.Perm (l.stands.map (·.domain)) := by
  refine (List.perm_ext_iff_of_nodup h.ring h.stands).2 fun d => ?_
  rw [h.queued, List.mem_map]
  refine ⟨fun some => ?_, ?_⟩
  · obtain ⟨s, hs, hd, -⟩ := exists_stand some
    exact ⟨s, hs, hd⟩
  · rintro ⟨s, hs, rfl⟩
    rw [queueOf_of_mem h.stands hs]
    exact (h.filed s hs).filled

theorem depths_eq (h : l.Sound lane) :
    l.depths = l.ring.map fun d => (d, (queueOf l.stands d).length) := by
  unfold depths
  rw [← List.filterMap_eq_map]
  refine List.filterMap_congr fun d hd => ?_
  obtain ⟨s, -, -, found, same⟩ := exists_stand ((h.queued d).1 hd)
  rw [found, Function.comp_apply, same]
  rfl

/-- The depths are listed by the domains of the ring. -/
theorem domains_depths (h : l.Sound lane) : l.depths.map (·.1) = l.ring := by
  rw [h.depths_eq, List.map_map]
  exact List.map_id _

/-- The depths add up to the size. -/
theorem sumOf_depths (h : l.Sound lane) : sumOf (l.depths.map (·.2)) = l.size := by
  have perm : (l.depths.map (·.2)).Perm (l.stands.map (·.tasks.length)) := by
    rw [h.depths_eq, List.map_map]
    refine (h.ring_perm.map _).trans ?_
    rw [List.map_map]
    refine List.Perm.of_eq (List.map_congr_left fun s hs => ?_)
    exact congrArg List.length (queueOf_of_mem h.stands hs)
  rw [h.size]
  exact sumOf_perm perm

/-- How many tasks of a domain are queued. -/
theorem length_queueOf (h : l.Sound lane) (d : Domain) :
    (queueOf l.stands d).length = l.tasks.countP (·.domain = d) := by
  have all : ∀ ss : List Stand, (ss.map (·.domain)).Nodup → (∀ s ∈ ss, s.Filed lane) →
      (queueOf ss d).length = (ss.flatMap (·.tasks)).countP (·.domain = d) := by
    intro ss nodup filed
    induction ss with
    | nil => rfl
    | cons s ss ih =>
      obtain ⟨fresh, nodup⟩ := List.nodup_cons.1 nodup
      have hs := filed s (List.mem_cons_self ..)
      have ih := ih nodup fun s hs => filed s (List.mem_cons_of_mem _ hs)
      rw [queueOf_cons, List.flatMap_cons, List.countP_append, ← ih]
      by_cases hd : s.domain = d
      · rw [if_pos hd, ← hd, queueOf_of_not_mem fresh, List.countP_eq_length.2]
        · rfl
        · intro t ht
          exact decide_eq_true (hs.domain t ht)
      · rw [if_neg hd, List.countP_eq_zero.2, Nat.zero_add]
        intro t ht he
        exact hd ((hs.domain t ht).symm.trans (of_decide_eq_true he))
  exact all l.stands h.stands h.filed

end Sound

end Line

end Postroom
