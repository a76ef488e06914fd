import Postroom.Office.Submission
import Postroom.Proofs.Frame
import Postroom.Proofs.History
import Postroom.Proofs.Ticks

/-!
# Runs along a history

What a happening does to the registry, and which attempts it starts. A happening registers a job, unregisters
it or ends a run, or none of these; besides that, attempts start and finish.

- `World.aborts?`: the run that a happening ends, and why. `World.noted`: the registry once what the happening
  does by itself is done.
- `World.Starts`: an attempt starts.
- `World.proceeds`: every happening does to the registry what `noted` says, and then attempts start and
  finish; every attempt that starts was let through.
-/

namespace Postroom

namespace Office

variable {o o' o'' : Office}

/-! ### Attempts that start and finish -/

/-- The attempts stay the same; the registry counts some as started or finished. -/
structure Recounts (o o' : Office) : Prop where
  attempts : o'.attempts = o.attempts
  tallies : o.registry.Tallies o'.registry

theorem Recounts.of_frame (h : o'.frame = o.frame) : Recounts o o' :=
  ⟨congrArg (·.attempts) h, .of_eq (congrArg (·.registry) h).symm⟩

theorem Recounts.trans (h : Recounts o o') (h' : Recounts o' o'') : Recounts o o'' :=
  ⟨h'.attempts.trans h.attempts, Relation.ReflTransGen.trans h.tallies h'.tallies⟩

theorem recounts_attemptFinished (t : Task) : Recounts o (o.attemptFinished t) := by
  unfold attemptFinished
  split
  · next id _ => exact ⟨rfl, .single (.finished o.registry id)⟩
  · exact .of_frame rfl

theorem recounts_attemptStarted (t : Task) : Recounts o (o.attemptStarted t) := by
  unfold attemptStarted
  split
  · next id _ => exact ⟨rfl, .single (.started o.registry id)⟩
  · exact .of_frame rfl

theorem recounts_finishSettlement (t : Task) (purpose : Purpose) (results : List RecipientResult) :
    Recounts o (o.finishSettlement t purpose results) := by
  cases purpose with
  | attempt kept =>
    have concluded : Recounts o ((o.settle t results).conclusionOfAttempt t kept) :=
      .of_frame (frame_conclusionOfAttempt (o := o.settle t results) t kept)
    exact concluded.trans (recounts_attemptFinished t)
  | expiry => exact .of_frame (frame_complete t)
  | unroutable => exact .of_frame (frame_complete t)

theorem recounts_beginSettlement (n : Nat) (t : Task) (purpose : Purpose)
    (results : List RecipientResult) : Recounts o (o.beginSettlement n t purpose results) := by
  unfold beginSettlement
  split
  · exact recounts_finishSettlement t purpose results
  · exact ⟨rfl, .refl⟩

theorem recounts_recordAccepted (n : Nat) : Recounts o (o.recordAccepted n) := by
  unfold recordAccepted
  split
  · exact .of_frame rfl
  · split
    · exact .of_frame rfl
    · have removed : Recounts o (o.removeSettlement n) := ⟨rfl, .refl⟩
      exact removed.trans (recounts_finishSettlement _ _ _)
    · exact ⟨rfl, .refl⟩

theorem registry_countEnd (l : Lane) : (o.countEnd l).registry = o.registry := by
  unfold countEnd
  split <;> rfl

theorem attempts_countEnd (l : Lane) : (o.countEnd l).attempts = o.attempts := by
  unfold countEnd
  split <;> rfl

theorem recounts_countEnd (l : Lane) : Recounts o (o.countEnd l) :=
  ⟨attempts_countEnd l, .of_eq (registry_countEnd l).symm⟩

theorem recounts_settleOutcome (a : Attempt) (outcome : Outcome) :
    Recounts o (o.settleOutcome a outcome) := by
  unfold settleOutcome
  dsimp only
  split
  · exact ⟨rfl, .refl⟩
  · refine Recounts.trans ?_ (recounts_beginSettlement _ _ _ _)
    exact ⟨rfl, .refl⟩

theorem recounts_beginExpiry (n : Nat) : Recounts o (o.beginExpiry n) := by
  unfold beginExpiry
  split
  · exact .of_frame rfl
  · next e _ =>
    refine Recounts.trans ?_ (recounts_beginSettlement n e.task .expiry _)
    exact ⟨rfl, .refl⟩

theorem recounts_submit (s : Submission) : Recounts o (o.submit s).2 := by
  unfold submit
  split
  · exact .of_frame rfl
  · split
    · exact .of_frame rfl
    · split
      · exact .of_frame rfl
      · dsimp only
        split
        · refine Recounts.trans ?_ (recounts_beginSettlement _ _ _ _)
          exact ⟨rfl, .refl⟩
        · exact .of_frame rfl

/-! ### Attempts that were let through -/

/-- `a` runs in `o` already, perhaps without its report. -/
def Runs (o : Office) (a : Attempt) : Prop := ∃ b ∈ o.attempts, b.number = a.number ∧ b.task = a.task

/-- From `o` to `o'` the registry becomes `r` and then attempts start and finish; those that start were let
through. -/
structure Proceeds (r : Registry) (o o' : Office) : Prop where
  tallies : r.Tallies o'.registry
  starts : ∀ a ∈ o'.attempts, o.Runs a ∨ o.registry.validate a.task = .ok ()

theorem Proceeds.of_subset {r : Registry} (tallies : r.Tallies o'.registry)
    (old : ∀ a ∈ o'.attempts, a ∈ o.attempts) : Proceeds r o o' :=
  ⟨tallies, fun a ha => .inl ⟨a, old a ha, rfl, rfl⟩⟩

theorem Proceeds.of_frame {r : Registry} (h : o'.frame = frame { o with registry := r }) :
    Proceeds r o o' :=
  .of_subset (.of_eq (congrArg (·.registry) h).symm) fun _ ha => by
    have same : o'.attempts = o.attempts := congrArg (·.attempts) h
    rwa [same] at ha

/-- Where first a run is ended and then attempts finish. -/
theorem Proceeds.of_frame_recounts {r : Registry} {p : Office} (h : o'.frame = frame { p with registry := r })
    (counted : Recounts o' o'') (old : ∀ a ∈ p.attempts, a ∈ o.attempts) : Proceeds r o o'' := by
  have registry : o'.registry = r := congrArg (·.registry) h
  have attempts : o'.attempts = p.attempts := congrArg (·.attempts) h
  refine .of_subset (registry ▸ counted.tallies) fun a ha => old a ?_
  rwa [counted.attempts, attempts] at ha

theorem Proceeds.of_recounts (h : Recounts o o') : Proceeds o.registry o o' :=
  .of_subset h.tallies fun _ ha => h.attempts ▸ ha

theorem Proceeds.trans (h : Proceeds o.registry o o') (h' : Proceeds o'.registry o' o'') :
    Proceeds o.registry o o'' := by
  refine ⟨Relation.ReflTransGen.trans h.tallies h'.tallies, fun a ha => ?_⟩
  -- what runs at the end ran in between, or was let through then
  rcases h'.starts a ha with ⟨b, hb, number, task⟩ | valid
  · rcases h.starts b hb with ⟨b', hb', number', task'⟩ | valid
    · exact .inl ⟨b', hb', number'.trans number, task'.trans task⟩
    · exact .inr (task ▸ valid)
  · exact .inr (h.tallies.validate_ok valid)

theorem proceeds_started {t : Task} (valid : o.registry.validate t = .ok ()) (workers : Workers)
    (permit : Permit) (n n' : Nat) :
    Proceeds o.registry o (attemptStarted { o.countStart t.lane with
      workers := workers
      attempts := o.attempts ++ [{ number := n, task := t, permit := permit }]
      nextNumber := n' } t) := by
  have counted := recounts_attemptStarted (o := { o.countStart t.lane with
    workers := workers
    attempts := o.attempts ++ [{ number := n, task := t, permit := permit }]
    nextNumber := n' }) t
  refine ⟨counted.tallies, fun a ha => ?_⟩
  rw [counted.attempts, List.mem_append, List.mem_singleton] at ha
  obtain old | rfl := ha
  · exact .inl ⟨a, old, rfl, rfl⟩
  · exact .inr valid

/-- An attempt starts where the run of the task was let through. -/
theorem proceeds_execute {t : Task} (valid : o.registry.validate t = .ok ()) :
    Proceeds o.registry o (o.execute t).2 := by
  rw [execute_eq]
  split
  · have short := frame_shortage (o := o) t
    split
    · next h =>
      rw [h] at short
      exact .of_recounts ⟨congrArg (·.attempts) short, .of_eq (congrArg (·.registry) short).symm⟩
    · next h =>
      rw [h] at short
      exact .of_frame short
  · next permit o' granted =>
    have frame := frame_acquire? granted
    have taken : Recounts o o' :=
      ⟨congrArg (·.attempts) frame, .of_eq (congrArg (·.registry) frame).symm⟩
    dsimp only
    split
    · have refused : Recounts (o'.countStart t.lane)
          (((o'.countStart t.lane).countEnd t.lane).releasePermit permit) :=
        (recounts_countEnd t.lane).trans ⟨rfl, .refl⟩
      have counted : Recounts o' (o'.countStart t.lane) := ⟨rfl, .refl⟩
      exact .of_recounts (taken.trans (counted.trans (refused.trans (.of_frame (frame_fail t _)))))
    · have registry : o'.registry = o.registry := congrArg (·.registry) frame
      rw [← registry] at valid
      exact (Proceeds.of_recounts taken).trans (proceeds_started valid _ permit _ _)

theorem proceeds_turn (h : Ticking.Turn o o') : Proceeds o.registry o o' := by
  cases h with
  | drop next _ => exact .of_frame ((frame_fail _ _).trans (frame_nextTask? next))
  | execute next valid =>
    have polled : Proceeds o.registry o _ := .of_frame (frame_nextTask? next)
    exact polled.trans (proceeds_execute valid)

theorem proceeds_serve (bulk : BulkBudget) (n : Nat) (s : Ticking) :
    Proceeds s.office.registry s.office (Ticking.serve bulk n s).office :=
  Ticking.serve_of_turn (P := fun o o' => Proceeds o.registry o o')
    (fun _ => .of_frame rfl) (fun _ _ _ => .trans) (fun _ _ => proceeds_turn) bulk n s

theorem proceeds_sendEnded (n : Nat) (report : Report) :
    Proceeds o.registry o (o.sendEnded n report) := by
  refine ⟨.refl, fun a ha => .inl ?_⟩
  obtain ⟨b, hb, rfl⟩ := List.mem_map.1 ha
  refine ⟨b, hb, ?_⟩
  split <;> exact ⟨rfl, rfl⟩

/-- The run that is ended when the report of an attempt is taken, and why. -/
def endedByReport (a : Attempt) : Option (Runner × Fault) :=
  match a.report with
  | some (.error cause) => endedByFault a.task cause
  | some (.ok _) | none => none

theorem proceeds_collect (n : Nat) :
    Proceeds (o.registry.noteEnd ((o.attempt? n).bind endedByReport)) o (o.collect n) := by
  unfold collect
  cases o.attempt? n with
  | none => exact .of_frame rfl
  | some a =>
    rw [Option.bind_some, endedByReport]
    dsimp only
    cases a.report with
    | none => exact .of_frame rfl
    | some report =>
      -- p is the office without the attempt, not in flight any more
      obtain ⟨p, closed, attempts, registry⟩ : ∃ p,
          countEnd { o with attempts := o.attempts.filter (·.number ≠ n) } a.task.lane = p ∧
          p.attempts = o.attempts.filter (·.number ≠ n) ∧ p.registry = o.registry :=
        ⟨_, rfl, attempts_countEnd _, registry_countEnd _⟩
      have taken : ∀ b ∈ p.attempts, b ∈ o.attempts := fun b hb =>
        (List.mem_filter.1 (attempts ▸ hb)).1
      rw [closed, ← registry]
      cases report with
      | error cause =>
        exact .of_frame_recounts (frame_failAttempt (o := p.releasePermit a.permit) a.task cause)
          (recounts_attemptFinished a.task) taken
      | ok outcome =>
        have settled := recounts_settleOutcome (o := p) a outcome
        exact .of_subset settled.tallies fun b hb => taken b (settled.attempts ▸ hb)

/-- The run that is ended when the sink refuses a result of a settlement, and why. -/
def endedByRefusal (s : Settlement) (message : String) : Option (Runner × Fault) :=
  s.task.runner.map (·, .persistence message)

theorem proceeds_recordRefused (n : Nat) (message : String) :
    Proceeds (o.registry.noteEnd ((o.settlement? n).bind (endedByRefusal · message))) o
      (o.recordRefused n message) := by
  unfold recordRefused
  cases o.settlement? n with
  | none => exact .of_frame rfl
  | some s =>
    rw [Option.bind_some, endedByRefusal]
    have ended := frame_abortAndFail (o := o.removeSettlement n) s.task (.persistence message)
    dsimp only
    split
    · exact .of_frame_recounts ended (recounts_attemptFinished s.task) fun _ ha => ha
    · exact .of_frame_recounts ended (.of_frame rfl) fun _ ha => ha

end Office

/-! ### Happenings -/

namespace World

open Office (Recounts Proceeds)

variable {w : World} {h : Happening}

/-- The run that a happening ends, if it had not ended before, and why. -/
def aborts? (w : World) : Happening → Option (Runner × Fault)
  | .abortRun t cause => t.runner.map (·, cause)
  | .collect n => (w.office.attempt? n).bind Office.endedByReport
  | .recordRefused n message => (w.office.settlement? n).bind (Office.endedByRefusal · message)
  | _ => none

/-- The registry once what a happening does by itself is done. -/
def noted (w : World) (h : Happening) : Registry :=
  match h with
  | .register runner => w.office.registry.register runner
  | .unregister id => w.office.registry.unregister id
  | h => w.office.registry.noteEnd (w.aborts? h)

/-- A happening starts an attempt: it runs afterwards, and none with its number did before. -/
def Starts (w : World) (h : Happening) (a : Attempt) : Prop :=
  a ∈ (w.after h).office.attempts ∧ ∀ b ∈ w.office.attempts, b.number ≠ a.number

theorem frame_useOutside {f : Office → Task → Office} (place : Nat)
    (leaves : ∀ t, (f w.office t).frame = w.office.frame) :
    (w.useOutside place f).office.frame = w.office.frame := by
  unfold useOutside
  split
  · exact leaves _
  · rfl

/-- What a happening does to the runs. -/
theorem proceeds (w : World) (h : Happening) : Proceeds (w.noted h) w.office (w.after h).office := by
  cases h with
  | submit s =>
    rw [after, office_submit]
    exact .of_recounts (Office.recounts_submit s)
  | tick =>
    have served := Office.proceeds_serve w.office.bulkBudget.1 w.office.lanes.total
      { office := { w.office with hold := w.office.bulkBudget.2 } }
    exact ⟨served.tallies, served.starts⟩
  | beginTick => exact .of_subset .refl fun _ ha => ha
  | turns bulk n report bulkStarted excluded =>
    exact Office.proceeds_serve bulk n
      { office := w.office, report := report, bulkStarted := bulkStarted, excluded := excluded }
  | wake n => exact .of_frame (Office.frame_wake n)
  | sendEnded n report => exact Office.proceeds_sendEnded n report
  | collect n => exact Office.proceeds_collect n
  | beginExpiry n => exact .of_recounts (Office.recounts_beginExpiry n)
  | recordAccepted n => exact .of_recounts (Office.recounts_recordAccepted n)
  | recordRefused n message => exact Office.proceeds_recordRefused n message
  | register runner =>
    exact .of_frame (Office.frame_withdraw
      (o := { w.office with registry := w.office.registry.register runner }) _)
  | unregister id => exact .of_frame rfl
  | abortRun t cause => exact .of_frame (Office.frame_abortRun t cause)
  | failOutside place cause => exact .of_frame (frame_useOutside place fun t => Office.frame_fail t cause)
  | dropOutside place => exact .of_frame (frame_useOutside place fun _ => rfl)
  | pass ms => exact .of_subset .refl fun _ ha => ha
  | shift ms => exact .of_subset .refl fun _ ha => ha
  | readDaily => exact .of_frame rfl
  | readWindow window => exact .of_frame rfl
  | stopAccepting => exact .of_subset .refl fun _ ha => ha
  | closeWorkers => exact .of_subset .refl fun _ ha => ha
  | closeTimers => exact .of_frame Office.frame_closeTimers
  | emptyLanes => exact .of_frame Office.frame_emptyLanes
  | takeSends => exact .of_subset .refl fun _ ha => ha
  | takeWaiters => exact .of_subset .refl fun _ ha => ha
  | abandon numbers =>
    have left := Office.frame_abandon w.office numbers
    refine .of_subset (.of_eq (congrArg (·.registry) left).symm) fun a ha => ?_
    rw [show (w.after (.abandon numbers)).office.attempts = _ from congrArg (·.attempts) left] at ha
    exact List.mem_of_mem_filter ha
  | sessionFailed domain code => exact .of_frame rfl
  | draw draws => exact .of_frame rfl

/-- An attempt that starts was let through. -/
theorem validate_of_starts {a : Attempt} (starts : w.Starts h a) :
    w.office.registry.validate a.task = .ok () := by
  rcases (w.proceeds h).starts a starts.1 with ⟨b, hb, number, -⟩ | valid
  · exact absurd number (starts.2 b hb)
  · exact valid

end World

end Postroom
