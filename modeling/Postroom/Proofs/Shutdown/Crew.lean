import Postroom.Proofs.Service.Resting
import Postroom.Proofs.Settlements.Expiries
import Postroom.Proofs.Shutdown.Gates
import Postroom.Proofs.Ticks

/-!
# Who is waited for

An office lists the sends and the waiters that began since the last drain. Some that are over stand on the lists for
a while, since the lists are cleared of them only when something begins. But whatever goes on is listed, except what
a drain has taken out.

- `World.waiting_after`: where nothing is executed, no waiter begins.
- `World.crew_after`: behind closed gates nothing begins, and nothing comes on a list.
- `Office.StraySend`, `Office.StrayWaiter`: one that goes on and is not listed.
- `Office.Tends`, `World.tends_after`: these are no more than before, unless a drain takes a list.
-/

namespace Postroom

theorem Office.mem_waiting {o : Office} {n : Nat} : n ∈ o.waiting ↔
    (∃ a ∈ o.attempts, a.number = n) ∨ (∃ e ∈ o.expiries, e.number = n) ∨
      ∃ s ∈ o.settlements, s.purpose ≠ .unroutable ∧ s.number = n := by
  simp [waiting, isBackground, and_assoc]

namespace World

open Office

variable {w : World} {h : Happening}

/-! ### Waiters -/

/-- Recording results changes neither the number of a settlement nor its purpose. -/
theorem exists_settlement_of_advanced {o : Office} {n : Nat} {s : Settlement} (hs : s ∈ o.advanced n) :
    ∃ u ∈ o.settlements, u.number = s.number ∧ u.purpose = s.purpose := by
  unfold advanced at hs
  split at hs
  · exact ⟨s, (List.mem_filter.1 hs).1, rfl, rfl⟩
  · obtain ⟨u, hu, rfl⟩ := List.mem_map.1 hs
    refine ⟨u, hu, ?_⟩
    split <;> exact ⟨rfl, rfl⟩
  · exact ⟨s, hs, rfl, rfl⟩

theorem exists_settlement_of_pending {s : Settlement} (hs : s ∈ w.pending h) :
    ∃ u ∈ w.office.settlements, u.number = s.number ∧ u.purpose = s.purpose := by
  cases h with
  | recordAccepted n => exact exists_settlement_of_advanced hs
  | recordRefused n message => exact ⟨s, (List.mem_filter.1 hs).1, rfl, rfl⟩
  | abandon numbers => exact ⟨s, (List.mem_filter.1 hs).1, rfl, rfl⟩
  | _ => exact ⟨s, hs, rfl, rfl⟩

/-- A settlement goes on under the number of the attempt or of the expiry from which it comes. -/
theorem waiting_of_begins? {s : Settlement} (begins : w.begins? h = some s) (background : s.purpose ≠ .unroutable) :
    s.number ∈ w.office.waiting := by
  have brings := (Option.filter_eq_some_iff.1 begins).1
  cases h with
  | collect n =>
    obtain ⟨a, found, leads⟩ := Option.bind_eq_some_iff.1 brings
    split at leads
    · split at leads
      · cases leads
      · cases leads
        exact mem_waiting.2 (.inl ⟨a, List.mem_of_find?_eq_some found, rfl⟩)
    · cases leads
  | beginExpiry n =>
    obtain ⟨e, found, rfl⟩ := Option.map_eq_some_iff.1 brings
    exact mem_waiting.2 (.inr (.inl ⟨e, List.mem_of_find?_eq_some found, by simpa using List.find?_some found⟩))
  | submit u =>
    have brings : w.office.turnedAway? u = some s := brings
    unfold turnedAway? at brings
    split at brings
    · split at brings
      · cases brings
        exact absurd rfl background
      · cases brings
    · cases brings
  | _ => cases brings

/-- Where nothing is executed, no waiter begins. -/
theorem waiting_after (idle : w.executed h = []) {n : Nat} (goesOn : n ∈ (w.after h).office.waiting) :
    n ∈ w.office.waiting := by
  rcases mem_waiting.1 goesOn with ⟨a, ha, rfl⟩ | ⟨e, he, rfl⟩ | ⟨s, hs, background, rfl⟩
  · rw [attempts_after, started, idle, List.filterMap_nil, List.append_nil] at ha
    obtain ⟨b, hb, number, -⟩ := runs_of_remaining ha
    exact mem_waiting.2 (.inl ⟨b, hb, number⟩)
  · rw [expiries_after, lapsed, idle, List.filterMap_nil, List.append_nil] at he
    refine mem_waiting.2 (.inr (.inl ⟨e, ?_, rfl⟩))
    cases h with
    | beginExpiry n => exact (List.mem_filter.1 he).1
    | abandon numbers => exact (List.mem_filter.1 he).1
    | _ => exact he
  · rw [settlements_after, List.mem_append, Option.mem_toList] at hs
    rcases hs with left | begins
    · obtain ⟨u, hu, number, purpose⟩ := exists_settlement_of_pending left
      exact mem_waiting.2 (.inr (.inr ⟨u, hu, purpose ▸ background, number⟩))
    · exact waiting_of_begins? begins background

/-- Behind closed gates no send begins, and none comes into the care of the office, nor does a waiter. -/
theorem crew_after (shut : w.Shut) (h : Happening) :
    (w.after h).office.workers.running.Sublist w.office.workers.running ∧
      (w.after h).office.workers.sends.Sublist w.office.workers.sends ∧
      (w.after h).office.workers.waiters.Sublist w.office.workers.waiters := by
  have still : ∀ {w' : World}, w'.office.workers = w.office.workers →
      w'.office.workers.running.Sublist w.office.workers.running ∧
        w'.office.workers.sends.Sublist w.office.workers.sends ∧
        w'.office.workers.waiters.Sublist w.office.workers.waiters := by
    intro w' same
    rw [same]
    exact ⟨.refl _, .refl _, .refl _⟩
  cases uses : h.usesWorkers with
  | false => exact still (rests_after w uses).workers
  | true =>
    cases h with
    | tick => exact shut.tick.symm ▸ still rfl
    | turns => exact (shut.turns ..).symm ▸ still rfl
    | sendEnded n report => exact ⟨List.filter_sublist, .refl _, .refl _⟩
    | closeWorkers => exact ⟨.refl _, .refl _, .refl _⟩
    | takeSends => exact ⟨.refl _, List.nil_sublist _, .refl _⟩
    | takeWaiters => exact ⟨.refl _, .refl _, List.nil_sublist _⟩
    | _ => cases uses

end World

/-! ### Lists -/

namespace Office

variable {o o' o'' : Office}

/-- A send goes on that is not listed. -/
def StraySend (o : Office) (n : Nat) : Prop := n ∈ o.workers.running ∧ n ∉ o.workers.sends

/-- A waiter goes on that is not listed. -/
def StrayWaiter (o : Office) (n : Nat) : Prop := n ∈ o.waiting ∧ n ∉ o.workers.waiters

/-- Whatever goes on and is not listed went on before and was not listed. -/
structure Tends (o o' : Office) : Prop where
  sends : ∀ n, o'.StraySend n → o.StraySend n
  waiters : ∀ n, o'.StrayWaiter n → o.StrayWaiter n

namespace Tends

theorem refl (o : Office) : Tends o o := ⟨fun _ stray => stray, fun _ stray => stray⟩

theorem trans (h : Tends o o') (h' : Tends o' o'') : Tends o o'' :=
  ⟨fun n stray => h.sends n (h'.sends n stray), fun n stray => h.waiters n (h'.waiters n stray)⟩

theorem of_workers (workers : o'.workers = o.workers) (waiting : ∀ n ∈ o'.waiting, n ∈ o.waiting) : Tends o o' where
  sends n stray := by
    rwa [StraySend, workers] at stray
  waiters n stray := by
    rw [StrayWaiter, workers] at stray
    exact ⟨waiting n stray.1, stray.2⟩

theorem of_frame (h : o'.frame = o.frame) : Tends o o' := by
  refine of_workers (congrArg (·.workers) h) fun n goesOn => ?_
  have same : o'.frame.waiting = o.frame.waiting := congrArg (·.waiting) h
  exact same ▸ goesOn

/-- A waiter that begins is listed, beside those that go on. -/
theorem of_await {n : Nat} {running sends : List Nat}
    (workers : o'.workers = { o.workers with running := running, sends := sends }.await o.isWaiting n)
    (tended : ∀ m ∈ running, m ∉ sends → o.StraySend m) (waiting : ∀ m ∈ o'.waiting, m = n ∨ m ∈ o.waiting) :
    Tends o o' where
  sends m stray := by
    rw [StraySend, workers] at stray
    exact tended m stray.1 stray.2
  waiters m stray := by
    rw [StrayWaiter, workers, Workers.await, List.mem_append, List.mem_singleton, not_or, List.mem_filter] at stray
    have before := (waiting m stray.1).resolve_left stray.2.2
    exact ⟨before, fun listed => stray.2.1 ⟨listed, decide_eq_true before⟩⟩

end Tends

theorem tends_attemptStarted (t : Task) : Tends o (o.attemptStarted t) := by
  unfold attemptStarted
  split <;> exact .of_workers rfl fun _ goesOn => goesOn

/-- A worker that starts is listed, beside those that are still busy. -/
theorem start_tended {w w' : Workers} {n : Nat} (starts : w.start n = .ok w') :
    ∃ running sends, w' = { w with running := running, sends := sends } ∧
      ∀ m ∈ running, m ∉ sends → m ∈ w.running ∧ m ∉ w.sends := by
  unfold Workers.start at starts
  split at starts
  · cases starts
  · split at starts
    · cases starts
    · cases starts
      refine ⟨_, _, rfl, fun m goesOn unlisted => ?_⟩
      rw [List.mem_append, List.mem_singleton, not_or, List.mem_filter] at unlisted
      have before := (List.mem_append.1 goesOn).resolve_right fun new => unlisted.2 (List.mem_singleton.1 new)
      exact ⟨before, fun listed => unlisted.1 ⟨listed, decide_eq_true before⟩⟩

theorem tends_execute (o : Office) (t : Task) : Tends o (o.execute t).2 := by
  rw [execute_eq]
  split
  · next short =>
    have left : Tends o (o.shortage t).2 := .of_frame (frame_shortage t)
    split
    · next t' p expired =>
      rw [expired] at left
      refine left.trans (.of_await rfl (fun m goesOn unlisted => ⟨goesOn, unlisted⟩) fun m goesOn => ?_)
      rcases mem_waiting.1 goesOn with attempt | ⟨e, he, rfl⟩ | settlement
      · exact .inr (mem_waiting.2 (.inl attempt))
      · rcases List.mem_append.1 he with he | new
        · exact .inr (mem_waiting.2 (.inr (.inl ⟨e, he, rfl⟩)))
        · cases List.mem_singleton.1 new
          exact .inl rfl
      · exact .inr (mem_waiting.2 (.inr (.inr settlement)))
    · next p _ kept =>
      rw [kept] at left
      exact left
  · next permit p acquired =>
    have frame := frame_acquire? acquired
    have taken : Tends o p := by
      refine .of_workers (congrArg (·.workers) frame) fun n goesOn => ?_
      have same : p.frame.waiting = o.frame.waiting := congrArg (·.waiting) frame
      exact same ▸ goesOn
    have counted : Tends p (p.countStart t.lane) :=
        .of_workers rfl fun _ goesOn => goesOn
    have counted := taken.trans counted
    generalize p.countStart t.lane = q at counted
    dsimp only
    cases starts : q.workers.start q.nextNumber with
    | error cause =>
      have ended : Tends q ((q.countEnd t.lane).releasePermit permit) := by
        unfold countEnd
        split <;> exact .of_workers rfl fun _ goesOn => goesOn
      exact (counted.trans ended).trans (.of_frame (frame_fail t cause))
    | ok workers =>
      obtain ⟨running, sends, rfl, tended⟩ := start_tended starts
      refine counted.trans (.trans (.of_await rfl tended fun m goesOn => ?_) (tends_attemptStarted t))
      rcases mem_waiting.1 goesOn with ⟨a, ha, rfl⟩ | expiry | settlement
      · rcases List.mem_append.1 ha with ha | new
        · exact .inr (mem_waiting.2 (.inl ⟨a, ha, rfl⟩))
        · cases List.mem_singleton.1 new
          exact .inl rfl
      · exact .inr (mem_waiting.2 (.inr (.inl expiry)))
      · exact .inr (mem_waiting.2 (.inr (.inr settlement)))

theorem tends_turn (turn : Ticking.Turn o o') : Tends o o' := by
  cases turn with
  | @drop p bulk n excluded t r next invalid =>
    exact .of_frame ((frame_fail t r.cause).trans (frame_nextTask? next))
  | @execute p bulk n excluded t next valid =>
    exact (Tends.of_frame (frame_nextTask? next)).trans (tends_execute p t)

theorem tends_serve (bulk : BulkBudget) (n : Nat) (s : Ticking) : Tends s.office (Ticking.serve bulk n s).office :=
  Ticking.serve_of_turn Tends.refl (fun _ _ _ => Tends.trans) (fun _ _ => tends_turn) bulk n s

end Office

/-- A list is taken out of the office. -/
def Happening.drains : Happening → Bool
  | .takeSends | .takeWaiters => true
  | _ => false

namespace World

open Office

/-- All that goes on stays listed, as long as no list is taken out. -/
theorem tends_after {h : Happening} (free : h.drains = false) (w : World) : Tends w.office (w.after h).office := by
  cases uses : h.usesWorkers with
  | false => exact .of_workers (rests_after w uses).workers fun _ => waiting_after (executed_of_idle uses)
  | true =>
    cases h with
    | tick =>
      have begun : Tends w.office { w.office with hold := w.office.bulkBudget.2 } :=
        .of_workers rfl fun _ goesOn => goesOn
      exact begun.trans (tends_serve w.office.bulkBudget.1 w.office.lanes.total
        { office := { w.office with hold := w.office.bulkBudget.2 } })
    | turns bulk n report bulkStarted excluded =>
      exact tends_serve bulk n
        { office := w.office, report := report, bulkStarted := bulkStarted, excluded := excluded }
    | sendEnded m report =>
      exact ⟨fun n stray => ⟨(List.mem_filter.1 stray.1).1, stray.2⟩,
        fun n stray => ⟨waiting_after (h := .sendEnded m report) rfl stray.1, stray.2⟩⟩
    | closeWorkers => exact ⟨fun _ stray => stray, fun _ stray => stray⟩
    | takeSends | takeWaiters => cases free
    | _ => cases uses

theorem tends_run {hs : List Happening} (free : ∀ h ∈ hs, h.drains = false) (w : World) :
    Tends w.office (w.run hs).office := by
  induction hs generalizing w with
  | nil => exact .refl _
  | cons h hs ih =>
    have rest := ih (fun k hk => free k (List.mem_cons_of_mem h hk)) (w.after h)
    exact (tends_after (free h List.mem_cons_self) w).trans rest

end World

end Postroom
