import Postroom.Proofs.Shutdown.Calls
import Postroom.Proofs.Shutdown.Idle

/-!
# Whatever goes on is waited for

A call that has come to some stage of a shutdown leaves what this stage is for, and it stays so: first nothing starts
any more, then no waiter goes on that nobody waits for, then nothing sleeps, and last nothing is queued. And whatever
goes on is listed by the office, or some call has taken it and still waits for it.

- `World.Reached`, `World.reached_after`: what a call that came so far leaves, after whatever happens.
- `World.reached_step`: a step of a call leaves what it should.
- `Stage.Keeps`, `Stage.keeps_after`: what a call does not wait for any more is over, or listed.
- `Closing.Manned`, `Closing.manned_run`: both, for all calls after all moves.
-/

namespace Postroom

/-! ## Drains -/

namespace Office

variable {o : Office} {n : Nat}

/-- No waiter goes on that was let go of. -/
theorem unlisted_of_waiting_abandon {numbers : List Nat} (goesOn : n ∈ (o.abandon numbers).waiting) :
    n ∉ numbers := by
  have same := congrArg (·.waiting) (frame_abandon o numbers)
  have goesOn := mem_waiting.1 (same ▸ goesOn : n ∈ waiting (frame { o with
    attempts := o.attempts.filter (·.number ∉ numbers)
    expiries := o.expiries.filter (·.number ∉ numbers)
    settlements := o.settlements.filter fun s => !(s.number ∈ numbers && isBackground s) }))
  rcases goesOn with ⟨a, ha, rfl⟩ | ⟨e, he, rfl⟩ | ⟨s, hs, background, rfl⟩
  · exact of_decide_eq_true (List.mem_filter.1 ha).2
  · exact of_decide_eq_true (List.mem_filter.1 he).2
  · have kept := (List.mem_filter.1 hs).2
    rintro listed
    simp [listed, isBackground, background] at kept

/-- The workers whose sends have ended are free, and the lists are what they were. -/
theorem workers_sendsEnded (numbers : List Nat) (report : Report) :
    (numbers.foldl (fun o n => o.sendEnded n report) o).workers =
      { o.workers with running := o.workers.running.filter (· ∉ numbers) } := by
  induction numbers generalizing o with
  | nil => simp
  | cons m numbers ih =>
    refine ih.trans ?_
    simp [sendEnded, Workers.finish, List.filter_filter, Bool.and_comm]

end Office

namespace Drain

variable {o : Office} {d : Drain} {n : Nat}

theorem poll_of_blocked (blocked : d.isBlocked o = true) : d.poll o = (some d, o) := if_pos blocked

theorem poll_of_free (free : d.isBlocked o = false) : d.poll o = look o := by
  rw [poll, free]
  rfl

theorem waiters_letGo : (d.letGo o).workers.waiters = o.workers.waiters := by
  cases d with
  | sends taken => exact congrArg (·.waiters) (Office.workers_sendsEnded ..)
  | waiters taken => exact congrArg (·.workers.waiters) (Office.frame_abandon o taken)

/-- When the time of a drain is up, no waiter that is listed goes on. -/
theorem listed_abort (listed : n ∈ (d.abort o).workers.waiters) : n ∉ (d.abort o).waiting := by
  have same : (d.abort o).workers.waiters = (d.letGo o).workers.waiters :=
    congrArg (·.workers.waiters) (Office.frame_abandon (d.letGo o) o.workers.waiters)
  rw [same, waiters_letGo] at listed
  exact fun goesOn => Office.unlisted_of_waiting_abandon goesOn listed

end Drain

/-! ## What calls leave -/

namespace World

/-- What a call that has seen so many steps of the shutdown leaves. -/
structure Reached (w : World) (steps : Nat) : Prop where
  refusing : w.office.accepting = false
  /-- Nothing starts, and all sends that began before are taken. -/
  closed : 1 ≤ steps → w.office.workers.closed = true ∧ w.office.workers.sends = []
  /-- No waiter that is not taken goes on. -/
  drained : 2 ≤ steps → ∀ n ∈ w.office.workers.waiters, n ∉ w.office.waiting
  awake : 3 ≤ steps → w.office.desk.Awake
  emptied : 4 ≤ steps → w.office.lanes.tasks = []

variable {w : World} {k : Nat}

theorem Reached.shut (reached : w.Reached k) (closed : 1 ≤ k) : w.Shut := ⟨reached.refusing, (reached.closed closed).1⟩

/-- It stays so whatever happens. -/
theorem reached_after (reached : w.Reached k) (h : Happening) : (w.after h).Reached k where
  refusing := refusing_after h reached.refusing
  closed first := by
    have shut := reached.shut first
    exact ⟨(shut.after h).closed, List.sublist_nil.1 ((reached.closed first).2 ▸ (crew_after shut h).2.1)⟩
  drained second n listed goesOn := by
    have shut := reached.shut (Nat.le_of_succ_le second)
    have before := (crew_after shut h).2.2.subset listed
    exact reached.drained second n before (waiting_after (shut.executed h) goesOn)
  awake third := awake_after (reached.awake third) h
  emptied fourth := by
    have third := Nat.le_of_succ_le fourth
    have shut := reached.shut (Nat.le_of_succ_le (Nat.le_of_succ_le third))
    exact emptied_after shut (reached.awake third) h (reached.emptied fourth)

theorem reached_run (reached : w.Reached k) (hs : List Happening) : (w.run hs).Reached k :=
  run_of_step (P := fun _ _ => True) (I := fun w => w.Reached k) (fun _ h _ reached => reached_after reached h)
    (along_of_forall (fun _ _ => trivial) w hs) reached

theorem Reached.mono {j : Nat} (reached : w.Reached k) (less : j ≤ k) : w.Reached j where
  refusing := reached.refusing
  closed first := reached.closed (first.trans less)
  drained second := reached.drained (second.trans less)
  awake third := reached.awake (third.trans less)
  emptied fourth := reached.emptied (fourth.trans less)

theorem Reached.zero (refusing : w.office.accepting = false) : w.Reached 0 :=
  ⟨refusing, fun first => absurd first (by decide), fun second => absurd second (by decide),
    fun third => absurd third (by decide), fun fourth => absurd fourth (by decide)⟩

theorem Reached.one (reached : w.Reached 0) (closed : w.office.workers.closed = true)
    (taken : w.office.workers.sends = []) : w.Reached 1 :=
  { reached with
    closed := fun _ => ⟨closed, taken⟩
    drained := fun second => absurd second (by decide)
    awake := fun third => absurd third (by decide)
    emptied := fun fourth => absurd fourth (by decide) }

theorem Reached.two (reached : w.Reached 1) (drained : ∀ n ∈ w.office.workers.waiters, n ∉ w.office.waiting) :
    w.Reached 2 :=
  { reached with
    closed := fun _ => reached.closed (Nat.le_refl 1)
    drained := fun _ => drained
    awake := fun third => absurd third (by decide)
    emptied := fun fourth => absurd fourth (by decide) }

theorem Reached.three (reached : w.Reached 2) (awake : w.office.desk.Awake) : w.Reached 3 :=
  { reached with
    closed := fun _ => reached.closed (by decide)
    drained := fun _ => reached.drained (Nat.le_refl 2)
    awake := fun _ => awake
    emptied := fun fourth => absurd fourth (by decide) }

theorem Reached.four (reached : w.Reached 3) (emptied : w.office.lanes.tasks = []) : w.Reached 4 :=
  { reached with
    closed := fun _ => reached.closed (by decide)
    drained := fun _ => reached.drained (by decide)
    awake := fun _ => reached.awake (Nat.le_refl 3)
    emptied := fun _ => emptied }

/-- A step of a call leaves what it should. -/
theorem reached_step {s : Stage} (reached : w.Reached s.steps) (x : Stage.Step) :
    ({ w with office := (s.after w.office x).2 } : World).Reached (s.after w.office x).1.steps := by
  have kept := reached_run reached (s.happenings w.office x)
  rw [run_happenings] at kept
  cases x with
  | goOn =>
    cases s with
    | begun => exact kept.one rfl rfl
    | draining d =>
      show World.Reached { w with office := (d.poll w.office).2 } (Stage.ofDrain (d.poll w.office).1).steps
      cases blocked : d.isBlocked w.office with
      | true =>
        rw [Drain.poll_of_blocked blocked]
        exact reached
      | false =>
        have taken := reached_after reached .takeWaiters
        rw [Drain.poll_of_free blocked, Drain.look]
        split
        · exact taken
        · exact taken.two fun n listed => absurd listed List.not_mem_nil
    | drained => exact kept.three (awake_closeTimers w)
    | timersClosed => exact kept.four (emptied_emptyLanes w)
    | returned | dropped => exact kept
  | timeUp =>
    cases s with
    | draining d => exact kept.two fun n => Drain.listed_abort
    | _ => exact kept
  | letGo =>
    cases s with
    | returned => exact kept
    | _ => exact kept.mono (Nat.zero_le _)

end World

/-! ## Whatever goes on is waited for -/

namespace Drain

open Office

variable {o : Office} {d : Drain} {n : Nat}

/-- What a drain that goes on has waited for is over. -/
theorem over_of_free (free : d.isBlocked o = false) :
    (∀ n ∈ (Stage.draining d).sends, n ∉ o.workers.running) ∧ ∀ n ∈ (Stage.draining d).waiters, n ∉ o.waiting := by
  cases d with
  | sends taken =>
    refine ⟨fun n held goesOn => ?_, fun n held => absurd held List.not_mem_nil⟩
    exact List.any_eq_false.1 free n held (decide_eq_true goesOn)
  | waiters taken =>
    refine ⟨fun n held => absurd held List.not_mem_nil, fun n held goesOn => ?_⟩
    exact List.any_eq_false.1 free n held (decide_eq_true goesOn)

/-- What a drain has waited for is over when it is broken off. -/
theorem over_letGo (o : Office) (d : Drain) :
    (∀ n ∈ (Stage.draining d).sends, n ∉ (d.letGo o).workers.running) ∧
      ∀ n ∈ (Stage.draining d).waiters, n ∉ (d.letGo o).waiting := by
  cases d with
  | sends taken =>
    refine ⟨fun n held goesOn => ?_, fun n held => absurd held List.not_mem_nil⟩
    rw [letGo, abortSends, workers_sendsEnded, List.mem_filter, decide_eq_true_iff, List.mem_filter] at goesOn
    exact goesOn.2 ⟨held, decide_eq_true goesOn.1⟩
  | waiters taken =>
    exact ⟨fun n held => absurd held List.not_mem_nil, fun n held goesOn => unlisted_of_waiting_abandon goesOn held⟩

theorem tends_letGo (o : Office) (d : Drain) : Tends o (d.letGo o) := by
  have free : ∀ h ∈ d.broken o, h.drains = false := by
    intro h hh
    cases d with
    | sends taken =>
      obtain ⟨n, -, rfl⟩ := List.mem_map.1 hh
      rfl
    | waiters taken =>
      cases List.mem_singleton.1 hh
      rfl
  have broken := World.tends_run free { office := o }
  rw [World.office_broken { office := o }] at broken
  exact broken

end Drain

namespace Stage

open Office

variable {o o' : Office} {s s' : Stage}

/-- Whatever goes on in `o'` and is neither listed nor waited for by a call in the stage `s'`, went on in `o` and was
neither listed nor waited for by the call, then in the stage `s`. -/
structure Keeps (o : Office) (s : Stage) (o' : Office) (s' : Stage) : Prop where
  sends : ∀ n, o'.StraySend n → n ∈ s'.sends ∨ o.StraySend n ∧ n ∉ s.sends
  waiters : ∀ n, o'.StrayWaiter n → n ∈ s'.waiters ∨ o.StrayWaiter n ∧ n ∉ s.waiters

/-- No list is taken, and what the call does not wait for any more is over. -/
theorem Keeps.of_tends (tends : Tends o o')
    (past : (∀ n ∈ s.sends, n ∈ o'.workers.running → n ∈ s'.sends) ∧ ∀ n ∈ s.waiters, n ∈ o'.waiting → n ∈ s'.waiters) :
    s.Keeps o o' s' where
  sends n stray := by
    by_cases held : n ∈ s.sends
    · exact .inl (past.1 n held stray.1)
    · exact .inr ⟨tends.sends n stray, held⟩
  waiters n stray := by
    by_cases held : n ∈ s.waiters
    · exact .inl (past.2 n held stray.1)
    · exact .inr ⟨tends.waiters n stray, held⟩

/-- A drain that looks for waiters takes all that are listed and go on; what it waited for before is over. -/
theorem keeps_look {d : Drain} (free : d.isBlocked o = false) :
    Keeps o (.draining d) (Drain.look o).2 (.ofDrain (Drain.look o).1) where
  sends n stray := .inr ⟨stray, fun held => (Drain.over_of_free free).1 n held stray.1⟩
  waiters n stray := by
    by_cases listed : n ∈ o.workers.waiters
    · refine .inl ?_
      rw [Drain.look, if_pos (List.any_eq_true.2 ⟨n, listed, decide_eq_true stray.1⟩)]
      exact listed
    · exact .inr ⟨⟨stray.1, listed⟩, fun held => (Drain.over_of_free free).2 n held stray.1⟩

theorem keeps_after (o : Office) (s : Stage) (x : Step) : s.Keeps o (s.after o x).2 (s.after o x).1 := by
  have idle : ∀ {s' : Stage} {o' : Office}, s.sends = [] → s.waiters = [] → Tends o o' → s.Keeps o o' s' := by
    intro s' o' sends waiters tends
    refine .of_tends tends ⟨fun n held => ?_, fun n held => ?_⟩
    · exact absurd (sends ▸ held) List.not_mem_nil
    · exact absurd (waiters ▸ held) List.not_mem_nil
  cases x with
  | goOn =>
    cases s with
    | begun =>
      refine ⟨fun n stray => ?_, fun n stray => .inr ⟨stray, List.not_mem_nil⟩⟩
      by_cases listed : n ∈ o.workers.sends
      · exact .inl listed
      · exact .inr ⟨⟨stray.1, listed⟩, List.not_mem_nil⟩
    | draining d =>
      show Keeps o (.draining d) (d.poll o).2 (.ofDrain (d.poll o).1)
      cases blocked : d.isBlocked o with
      | true =>
        rw [Drain.poll_of_blocked blocked]
        exact .of_tends (.refl o) ⟨fun _ held _ => held, fun _ held _ => held⟩
      | false =>
        rw [Drain.poll_of_free blocked]
        exact keeps_look blocked
    | drained => exact idle rfl rfl (World.tends_after (h := .closeTimers) rfl { office := o })
    | timersClosed => exact idle rfl rfl (World.tends_after (h := .emptyLanes) rfl { office := o })
    | returned | dropped => exact idle rfl rfl (.refl o)
  | timeUp =>
    cases s with
    | draining d =>
      have past := Drain.over_letGo o d
      have left : Tends (d.letGo o) (d.abort o) :=
        World.tends_after (h := .abandon o.workers.waiters) rfl { office := d.letGo o }
      have same : (d.abort o).workers = (d.letGo o).workers := congrArg (·.workers) (frame_abandon (d.letGo o) _)
      refine .of_tends ((Drain.tends_letGo o d).trans left) ⟨fun n held goesOn => ?_, fun n held goesOn => ?_⟩
      · exact absurd (same ▸ goesOn) (past.1 n held)
      · have before := World.waiting_after (w := { office := d.letGo o }) (h := .abandon o.workers.waiters) rfl goesOn
        exact absurd before (past.2 n held)
    | _ => exact idle rfl rfl (.refl o)
  | letGo =>
    cases s with
    | draining d =>
      have past := Drain.over_letGo o d
      exact .of_tends (Drain.tends_letGo o d) ⟨fun n held goesOn => absurd goesOn (past.1 n held),
        fun n held goesOn => absurd goesOn (past.2 n held)⟩
    | _ => exact idle rfl rfl (.refl o)

end Stage

namespace Closing

variable {c : Closing}

/-- Every call leaves what it should, and whatever goes on is listed by the office or waited for by a call. -/
structure Manned (c : Closing) : Prop where
  reached : ∀ s ∈ c.calls, c.world.Reached s.steps
  sends : ∀ n, c.world.office.StraySend n → ∃ s ∈ c.calls, n ∈ s.sends
  waiters : ∀ n, c.world.office.StrayWaiter n → ∃ s ∈ c.calls, n ∈ s.waiters

theorem manned_opening (config : Config) (workers : Nat) (wall : Calendar.Moment) :
    (opening config workers wall).Manned where
  reached _ hs := absurd hs List.not_mem_nil
  sends _ stray := absurd stray.1 List.not_mem_nil
  waiters _ stray := absurd stray.1 List.not_mem_nil

/-- All calls but the one at a place stay what they are. -/
theorem mem_set_of_ne {calls : List Stage} {place : Nat} {s s' u : Stage} (found : calls[place]? = some s)
    (hu : u ∈ calls) (other : u ≠ s) : u ∈ calls.set place s' := by
  obtain ⟨i, at_i⟩ := List.mem_iff_getElem?.1 hu
  refine List.mem_iff_getElem?.2 ⟨i, ?_⟩
  rw [List.getElem?_set_ne, at_i]
  rintro rfl
  exact other (Option.some.inj (at_i.symm.trans found))

theorem manned_after (manned : c.Manned) (m : Move) : (c.after m).Manned := by
  cases m with
  | happens h free =>
    have tends := World.tends_after free c.world
    exact ⟨fun s hs => World.reached_after (manned.reached s hs) h, fun n stray => manned.sends n (tends.sends n stray),
      fun n stray => manned.waiters n (tends.waiters n stray)⟩
  | call =>
    have more : ∀ {P : Stage → Prop}, (∃ s ∈ c.calls, P s) → ∃ s ∈ c.calls ++ [.begun], P s :=
      fun ⟨s, hs, holds⟩ => ⟨s, List.mem_append_left _ hs, holds⟩
    refine ⟨fun s hs => ?_, fun n stray => more (manned.sends n stray), fun n stray => more (manned.waiters n stray)⟩
    rcases List.mem_append.1 hs with before | new
    · exact World.reached_after (manned.reached s before) .stopAccepting
    · cases List.mem_singleton.1 new
      exact .zero rfl
  | step place x =>
    cases found : c.calls[place]? with
    | none =>
      have same : c.after (.step place x) = c := by simp only [after, found]
      exact same.symm ▸ manned
    | some s =>
      have hs : s ∈ c.calls := List.mem_of_getElem? found
      have inside := (List.getElem?_eq_some_iff.1 found).1
      have keeps := Stage.keeps_after c.world.office s x
      rw [after_step found]
      refine ⟨fun u hu => ?_, fun n stray => ?_, fun n stray => ?_⟩
      · rcases List.mem_or_eq_of_mem_set hu with before | rfl
        · have kept := World.reached_run (manned.reached u before) (s.happenings c.world.office x)
          rwa [World.run_happenings] at kept
        · exact World.reached_step (manned.reached s hs) x
      · rcases keeps.sends n stray with held | ⟨stray, free⟩
        · exact ⟨_, List.mem_set inside _, held⟩
        · obtain ⟨u, hu, held⟩ := manned.sends n stray
          exact ⟨u, mem_set_of_ne found hu fun same => free (same ▸ held), held⟩
      · rcases keeps.waiters n stray with held | ⟨stray, free⟩
        · exact ⟨_, List.mem_set inside _, held⟩
        · obtain ⟨u, hu, held⟩ := manned.waiters n stray
          exact ⟨u, mem_set_of_ne found hu fun same => free (same ▸ held), held⟩

theorem manned_run (manned : c.Manned) (ms : List Move) : (c.run ms).Manned := by
  induction ms generalizing c with
  | nil => exact manned
  | cons m ms ih => exact ih (manned_after manned m)

end Closing

end Postroom
