import Postroom.Office.Closing
import Postroom.Office.Submission
import Postroom.Office.Tick

/-!
# Histories

What can happen to an office, in any order and as often as one likes, and what a list of such happenings
leads to. Every statement about all histories of an office is a statement about `World.run`.

- `World`: an office together with what its callers know: the tasks that they took out of it and the
  submissions that it took in, by ticket.
- `Happening`: one thing that happens. Ticks happen as a whole (`tick`) or in pieces with other things
  between them (`beginTick`, `turns`); sends end in any way; the steps of a shutdown come in any order.
- `World.after`, `World.run`: the world after one happening, and after a list of them.
- `World.Along`: a condition on every happening of a history, in the world in which it happens.
  `World.run_of_step`: what every happening keeps, a history keeps.
-/

namespace Postroom

/-- An office and what its callers hold and know. -/
structure World where
  office : Office
  /-- The tasks outside the office: handed out by a registration and not ended since. -/
  outside : List Task := []
  /-- The submissions entered into the ledger, by ticket. -/
  entered : List Submission := []

/-- One thing that happens to an office. -/
inductive Happening where
  | submit (s : Submission)
  | tick
  /-- A tick begins: the hold of bulk work is brought up to date. -/
  | beginTick
  /-- At most `n` turns of a tick that has done so much before. -/
  | turns (bulk : BulkBudget) (n : Nat) (report : TickReport) (bulkStarted : Nat)
      (excluded : List Domain)
  /-- The time of a sleeper has come. -/
  | wake (number : Nat)
  /-- The worker of an attempt reports. -/
  | sendEnded (number : Nat) (report : Report)
  /-- The report of an attempt is taken. -/
  | collect (number : Nat)
  /-- A wait that ran out is taken up. -/
  | beginExpiry (number : Nat)
  /-- The sink keeps the next result of a settlement. -/
  | recordAccepted (number : Nat)
  /-- The sink refuses the next result of a settlement. -/
  | recordRefused (number : Nat) (message : String)
  | register (runner : Runner)
  | unregister (id : RunnerId)
  /-- The run of a task is ended. -/
  | abortRun (t : Task) (cause : Fault)
  /-- A caller ends a task that it took out. -/
  | failOutside (place : Nat) (cause : Fault)
  /-- A caller lets go of a task that it took out. -/
  | dropOutside (place : Nat)
  | pass (ms : Nat)
  /-- The time of day is set. -/
  | shift (ms : Int)
  /-- The counts of the days are read. -/
  | readDaily
  /-- What the domains' attempts add up to is read. -/
  | readWindow (window : Int)
  | stopAccepting
  | closeWorkers
  | closeTimers
  | emptyLanes
  /-- The sends begun since the last drain come into other hands. -/
  | takeSends
  /-- The waiters begun since the last drain come into other hands. -/
  | takeWaiters
  /-- Waiters are let go of. -/
  | abandon (numbers : List Nat)
  /-- A session to `domain` fails as a whole. -/
  | sessionFailed (domain : Domain) (code : Nat)
  /-- What the next delays after a shortage add to the shortest one is drawn. -/
  | draw (draws : List Nat)

/-- The happening lets go of the waiter with this number. -/
def Happening.abandons : Happening → Nat → Bool
  | .abandon numbers, n => n ∈ numbers
  | _, _ => false

theorem Happening.abandons_iff {h : Happening} {n : Nat} :
    h.abandons n ↔ ∃ numbers, h = .abandon numbers ∧ n ∈ numbers := by
  constructor
  · intro abandons
    cases h with
    | abandon numbers => exact ⟨numbers, rfl, of_decide_eq_true abandons⟩
    | _ => cases abandons
  · rintro ⟨numbers, rfl, listed⟩
    exact decide_eq_true listed

namespace World

/-- A new office, of which nothing is known yet. -/
def opening (config : Config) (workers : Nat) (wall : Calendar.Moment) : World where
  office := .ofConfig config workers wall

/-- Change the office. -/
def withOffice (w : World) (f : Office → Office) : World := { w with office := f w.office }

/-- Hand over a submission, and remember it if it was entered. -/
def submit (w : World) (s : Submission) : World :=
  let (answer, o) := w.office.submit s
  match answer with
  | .ok ⟨_, .ticket _, _⟩ => { w with office := o, entered := w.entered ++ [s] }
  | _ => { w with office := o }

/-- Use up a task that was taken out. -/
def useOutside (w : World) (place : Nat) (f : Office → Task → Office) : World :=
  match w.outside[place]? with
  | some t => { w with office := f w.office t, outside := w.outside.eraseIdx place }
  | none => w

/-- The world after something has happened. -/
def after (w : World) : Happening → World
  | .submit s => w.submit s
  | .tick => w.withOffice fun o => o.tick.office
  | .beginTick => w.withOffice fun o => { o with hold := o.bulkBudget.2 }
  | .turns bulk n report bulkStarted excluded => w.withOffice fun o =>
      (Ticking.serve bulk n
        { office := o, report := report, bulkStarted := bulkStarted, excluded := excluded }).office
  | .wake number => w.withOffice (·.wake number)
  | .sendEnded number report => w.withOffice (·.sendEnded number report)
  | .collect number => w.withOffice (·.collect number)
  | .beginExpiry number => w.withOffice (·.beginExpiry number)
  | .recordAccepted number => w.withOffice (·.recordAccepted number)
  | .recordRefused number message => w.withOffice (·.recordRefused number message)
  | .register runner =>
      let (taken, o) := w.office.register runner
      { w with office := o, outside := w.outside ++ taken }
  | .unregister id => w.withOffice (·.unregister id)
  | .abortRun t cause => w.withOffice fun o => (o.abortRun t cause).2
  | .failOutside place cause => w.useOutside place fun o t => o.fail t cause
  | .dropOutside place => w.useOutside place Office.drop
  | .pass ms => w.withOffice (·.pass ms)
  | .shift ms => w.withOffice fun o => { o with clock := o.clock.shift ms }
  | .readDaily => w.withOffice fun o => o.dailyTotals.2
  | .readWindow window => w.withOffice fun o => (o.snapshot window).2
  | .stopAccepting => w.withOffice (·.stopAccepting)
  | .closeWorkers => w.withOffice (·.closeWorkers)
  | .closeTimers => w.withOffice (·.closeTimers)
  | .emptyLanes => w.withOffice fun o => o.emptyLanes.2
  | .takeSends => w.withOffice (·.takeSends)
  | .takeWaiters => w.withOffice (·.takeWaiters)
  | .abandon numbers => w.withOffice (·.abandon numbers)
  | .sessionFailed domain code => w.withOffice fun o => { o with metrics := o.metrics.sessionFailed domain.name code }
  | .draw draws => w.withOffice fun o => { o with draws := draws }

theorem office_submit (w : World) (s : Submission) :
    (w.submit s).office = (w.office.submit s).2 := by
  unfold submit
  rcases w.office.submit s with ⟨answer, o⟩
  dsimp only
  split <;> rfl

/-- The world after a history. -/
def run (w : World) (hs : List Happening) : World := hs.foldl after w

@[simp] theorem run_nil (w : World) : w.run [] = w := rfl

@[simp] theorem run_cons (w : World) (h : Happening) (hs : List Happening) :
    w.run (h :: hs) = (w.after h).run hs := rfl

theorem run_append (w : World) (hs ks : List Happening) :
    w.run (hs ++ ks) = (w.run hs).run ks := List.foldl_append

/-- Every happening of a history satisfies `P` in the world in which it happens. -/
def Along (P : World → Happening → Prop) : World → List Happening → Prop
  | _, [] => True
  | w, h :: hs => P w h ∧ Along P (w.after h) hs

instance decidableAlong (P : World → Happening → Prop) [∀ w h, Decidable (P w h)] :
    (w : World) → (hs : List Happening) → Decidable (Along P w hs)
  | _, [] => isTrue trivial
  | w, h :: hs =>
    have := decidableAlong P (w.after h) hs
    inferInstanceAs (Decidable (P w h ∧ Along P (w.after h) hs))

theorem along_of_forall {P : World → Happening → Prop} (all : ∀ w h, P w h) (w : World)
    (hs : List Happening) : Along P w hs := by
  induction hs generalizing w with
  | nil => trivial
  | cons h hs ih => exact ⟨all w h, ih _⟩

theorem Along.mono {P Q : World → Happening → Prop} (less : ∀ w h, P w h → Q w h) {w : World} {hs : List Happening}
    (all : Along P w hs) : Along Q w hs := by
  induction hs generalizing w with
  | nil => trivial
  | cons h hs ih => exact ⟨less w h all.1, ih all.2⟩

/-- A condition holds along a history if it does along its beginning, and then along the rest. -/
theorem along_append {P : World → Happening → Prop} {w : World} {hs ks : List Happening} :
    Along P w (hs ++ ks) ↔ Along P w hs ∧ Along P (w.run hs) ks := by
  induction hs generalizing w with
  | nil => exact (iff_of_eq (true_and _)).symm
  | cons h hs ih => exact (and_congr_right fun _ => ih).trans and_assoc.symm

/-- What every happening that satisfies `P` keeps, a history of such happenings keeps. -/
theorem run_of_step {P : World → Happening → Prop} {I : World → Prop}
    (step : ∀ w h, P w h → I w → I (w.after h)) {w : World} {hs : List Happening}
    (hp : Along P w hs) (hw : I w) : I (w.run hs) := by
  induction hs generalizing w with
  | nil => exact hw
  | cons h hs ih => exact ih hp.2 (step w h hp.1 hw)

/-- What follows from something that is kept holds of every happening. -/
theorem along_of_step {P Q : World → Happening → Prop} {I : World → Prop}
    (step : ∀ w h, P w h → I w → I (w.after h)) (each : ∀ w h, I w → Q w h) {w : World}
    {hs : List Happening} (hp : Along P w hs) (hw : I w) : Along Q w hs := by
  induction hs generalizing w with
  | nil => trivial
  | cons h hs ih => exact ⟨each w h hw, ih hp.2 (step w h hp.1 hw)⟩

end World

end Postroom
