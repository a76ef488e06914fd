import Postroom.Proofs.Shutdown.Crew

/-!
# Calls for a shutdown

Whoever wants an office to shut down calls for it and waits: until all that runs has ended or its time is up, the
timers are closed and the lanes are emptied. Several may call, one after the other or at once, and some may let go of
their calls; anything else may happen meanwhile.

A drain takes out of the office what it waits for, and no other drain waits for that. So a call can return while
another one still waits, and whether anything goes on is a question about all calls together.

- `Stage`: how far a call has come. `Stage.after`: what it does next.
- `Closing`, `Closing.run`: a world with the calls for its shutdown, and what becomes of them.
- `Closing.world_run`: to the world, this is a history like any other.
- `Closing.returns`: whatever is never over, a call whose time is up returns.
-/

namespace Postroom

/-- How far a call for a shutdown has come. -/
inductive Stage where
  /-- Submissions are refused. -/
  | begun
  /-- Nothing starts any more, and what runs is waited for. -/
  | draining (d : Drain)
  /-- All that was waited for is over, or its time was up. -/
  | drained
  | timersClosed
  /-- The lanes are emptied too. -/
  | returned
  /-- The caller has let go of it before. -/
  | dropped
  deriving DecidableEq

/-- What a call does next. -/
inductive Stage.Step where
  /-- It goes on as far as it can without waiting. -/
  | goOn
  /-- The time of its drain is up. -/
  | timeUp
  /-- The caller lets go of it. -/
  | letGo

namespace Stage

/-- A call waits on for what is left of its drain. -/
def ofDrain : Option Drain → Stage
  | some d => .draining d
  | none => .drained

/-- A call after a step, and the office. -/
def after (o : Office) : Stage → Step → Stage × Office
  | .begun, .goOn => (.draining (Drain.begin o.closeWorkers).1, (Drain.begin o.closeWorkers).2)
  | .draining d, .goOn => (.ofDrain (d.poll o).1, (d.poll o).2)
  | .drained, .goOn => (.timersClosed, o.closeTimers)
  | .timersClosed, .goOn => (.returned, o.emptyLanes.2)
  | .draining d, .timeUp => (.drained, d.abort o)
  | .draining d, .letGo => (.dropped, d.letGo o)
  | .begun, .letGo | .drained, .letGo | .timersClosed, .letGo => (.dropped, o)
  | s, _ => (s, o)

/-- Where the time of its drain is up, a call has nothing to wait for, whatever becomes of the office. -/
theorem returned_of_steps {s : Stage} (wanted : s ≠ .dropped) (o o' o'' o''' : Office) :
    ((((s.after o .goOn).1.after o' .timeUp).1.after o'' .goOn).1.after o''' .goOn).1 = .returned := by
  cases s with
  | dropped => exact absurd rfl wanted
  | draining d =>
    show ((((ofDrain (d.poll o).1).after o' .timeUp).1.after o'' .goOn).1.after o''' .goOn).1 = .returned
    cases (d.poll o).1 <;> rfl
  | _ => rfl

/-- The sends that a call waits for. -/
def sends : Stage → List Nat
  | .draining (.sends taken) => taken
  | _ => []

/-- The waiters that a call waits for. -/
def waiters : Stage → List Nat
  | .draining (.waiters taken) => taken
  | _ => []

/-- How many steps of the shutdown a call has seen done. -/
def steps : Stage → Nat
  | .begun | .dropped => 0
  | .draining _ => 1
  | .drained => 2
  | .timersClosed => 3
  | .returned => 4

end Stage

/-- A world with all calls for a shutdown of its office. -/
structure Closing where
  world : World
  calls : List Stage := []

/-- What can become of them. -/
inductive Closing.Move where
  /-- Anything happens, except that a drain takes what it waits for. -/
  | happens (h : Happening) (free : h.drains = false)
  /-- A call begins. -/
  | call
  /-- The call at a place takes a step. -/
  | step (place : Nat) (x : Stage.Step)

/-! ## As a history of the world -/

/-- What happens to what a drain has taken when it is broken off. -/
def Drain.broken (o : Office) : Drain → List Happening
  | .sends taken => (taken.filter o.workers.isSending).map fun n => .sendEnded n (.error Fault.workerLost)
  | .waiters taken => [.abandon taken]

/-- What happens in a step of a call. -/
def Stage.happenings (o : Office) : Stage → Step → List Happening
  | .begun, .goOn => [.closeWorkers, .takeSends]
  | .draining d, .goOn => if d.isBlocked o then [] else [.takeWaiters]
  | .drained, .goOn => [.closeTimers]
  | .timersClosed, .goOn => [.emptyLanes]
  | .draining d, .timeUp => d.broken o ++ [.abandon o.workers.waiters]
  | .draining d, .letGo => d.broken o
  | _, _ => []

namespace Closing

/-- An office opens, and nobody calls for its end. -/
def opening (config : Config) (workers : Nat) (wall : Calendar.Moment) : Closing where
  world := .opening config workers wall

/-- All after one move. -/
def after (c : Closing) : Move → Closing
  | .happens h _ => { c with world := c.world.after h }
  | .call => { world := c.world.after .stopAccepting, calls := c.calls ++ [.begun] }
  | .step place x =>
    match c.calls[place]? with
    | none => c
    | some s =>
      let (s, o) := s.after c.world.office x
      { world := { c.world with office := o }, calls := c.calls.set place s }

/-- All after a list of moves. -/
def run (c : Closing) (ms : List Move) : Closing := ms.foldl after c

theorem run_append (c : Closing) (ms ns : List Move) : c.run (ms ++ ns) = (c.run ms).run ns := List.foldl_append

/-- What happens in a move. -/
def happenings (c : Closing) : Move → List Happening
  | .happens h _ => [h]
  | .call => [.stopAccepting]
  | .step place x =>
    match c.calls[place]? with
    | none => []
    | some s => s.happenings c.world.office x

/-- All that happens in a list of moves. -/
def history : Closing → List Move → List Happening
  | _, [] => []
  | c, m :: ms => c.happenings m ++ (c.after m).history ms

end Closing

namespace World

open Office

variable {w : World}

theorem office_broken (w : World) (d : Drain) :
    w.run (d.broken w.office) = { w with office := d.letGo w.office } := by
  cases d with
  | waiters taken => rfl
  | sends taken =>
    have ended : ∀ (ns : List Nat) (w : World),
        w.run (ns.map fun n => .sendEnded n (.error Fault.workerLost)) =
          { w with office := ns.foldl (fun o n => o.sendEnded n (.error Fault.workerLost)) w.office } := by
      intro ns
      induction ns with
      | nil => exact fun w => rfl
      | cons n ns ih => exact fun w => ih (w.after (.sendEnded n (.error Fault.workerLost)))
    exact ended _ w

/-- To the world, a step of a call is what happens in it. -/
theorem run_happenings (w : World) (s : Stage) (x : Stage.Step) :
    w.run (s.happenings w.office x) = { w with office := (s.after w.office x).2 } := by
  cases x with
  | goOn =>
    cases s with
    | draining d =>
      show w.run (if d.isBlocked w.office then [] else [.takeWaiters]) = { w with office := (d.poll w.office).2 }
      unfold Drain.poll
      split <;> rfl
    | _ => rfl
  | timeUp =>
    cases s with
    | draining d =>
      show w.run (d.broken w.office ++ _) = _
      rw [run_append, office_broken]
      rfl
    | _ => rfl
  | letGo =>
    cases s with
    | draining d => exact office_broken w d
    | _ => rfl

end World

namespace Closing

variable {c : Closing} {place : Nat} {s : Stage}

theorem after_step (found : c.calls[place]? = some s) (x : Stage.Step) : c.after (.step place x) =
    { world := { c.world with office := (s.after c.world.office x).2 }
      calls := c.calls.set place (s.after c.world.office x).1 } := by
  simp only [after, found]

theorem world_after (c : Closing) (m : Move) : (c.after m).world = c.world.run (c.happenings m) := by
  cases m with
  | happens | call => rfl
  | step place x =>
    cases found : c.calls[place]? with
    | none =>
      simp only [after, happenings, found]
      rfl
    | some s =>
      rw [after_step found, happenings, found]
      exact (World.run_happenings c.world s x).symm

/-- To the world, moves are what happens in them. -/
theorem world_run (c : Closing) (ms : List Move) : (c.run ms).world = c.world.run (c.history ms) := by
  induction ms generalizing c with
  | nil => rfl
  | cons m ms ih =>
    refine (ih (c.after m)).trans ?_
    rw [history, World.run_append, world_after]

theorem calls_step (found : c.calls[place]? = some s) (x : Stage.Step) :
    (c.after (.step place x)).calls[place]? = some (s.after c.world.office x).1 := by
  rw [after_step found]
  exact List.getElem?_set_self (List.getElem?_eq_some_iff.1 found).1

/-- Whatever never ends, a call that is not let go of returns when its time is up. -/
theorem returns (found : c.calls[place]? = some s) (wanted : s ≠ .dropped) :
    (c.run ([.goOn, .timeUp, .goOn, .goOn].map (.step place))).calls[place]? = some .returned := by
  have begun := calls_step found .goOn
  have timed := calls_step begun .timeUp
  have closed := calls_step timed .goOn
  have emptied := calls_step closed .goOn
  exact emptied.trans (congrArg some (Stage.returned_of_steps wanted ..))

end Closing

end Postroom
