import Postroom.Proofs.Runs.Course

/-!
# Executions

Which tasks are executed, where, and what that does to the list of attempts. An attempt starts in no other
way than by the execution of a task in a turn of a tick.

- `Ticking.executed`: the tasks that a tick executes, each with the office in which it does.
- `Ticking.Serves`: a tick as a relation, for inductions over its turns. `Ticking.serves`: ticks are such.
- `World.started`: the attempts that a happening starts. `World.remaining`: those that it leaves.
- `World.attempts_after`: the attempts after a happening are those that it leaves and those that it starts.
-/

namespace Postroom

namespace Office

/-- The attempt that the execution of `t` starts, if it starts one. -/
def attemptOf (o : Office) (t : Task) : Option Attempt :=
  match o.acquire? t, (o.execute t).1 with
  | some (permit, _), .started number => some { number := number, task := t, permit := permit }
  | _, _ => none

variable {o : Office} {t : Task} {a : Attempt}

theorem task_attemptOf (h : o.attemptOf t = some a) : a.task = t := by
  unfold attemptOf at h
  split at h
  · cases h
    rfl
  · cases h

/-- An execution adds to the attempts the one that it starts. -/
theorem attempts_execute (o : Office) (t : Task) :
    (o.execute t).2.attempts = o.attempts ++ (o.attemptOf t).toList := by
  rcases Option.eq_none_or_eq_some (o.acquire? t) with ha | ⟨⟨permit, o'⟩, ha⟩
  · have none : o.attemptOf t = none := by
      simp only [attemptOf, ha]
    rw [none, Option.toList_none, List.append_nil]
    have short : (o.shortage t).2.attempts = o.attempts :=
      congrArg (·.attempts) (frame_shortage (o := o) t)
    simp only [execute_eq, ha]
    rcases hs : o.shortage t with ⟨s, p⟩
    rw [hs] at short
    cases s <;> exact short
  · have taken : o'.attempts = o.attempts := congrArg (·.attempts) (frame_acquire? ha)
    simp only [attemptOf, execute_eq, ha]
    cases (o'.countStart t.lane).workers.start (o'.countStart t.lane).nextNumber with
    | error cause =>
      -- what was taken goes back, and no attempt is left
      have refused : ((((o'.countStart t.lane).countEnd t.lane).releasePermit permit).fail t
          cause).attempts = (((o'.countStart t.lane).countEnd t.lane).releasePermit permit).attempts :=
        congrArg (·.attempts) (frame_fail t cause)
      rw [Option.toList_none, List.append_nil]
      refine refused.trans ?_
      exact (attempts_countEnd t.lane).trans taken
    | ok workers =>
      rw [(recounts_attemptStarted t).attempts, ← taken]
      rfl

end Office

namespace Ticking

/-- The tasks that a tick executes, each with the office in which it does. -/
def executed (bulk : BulkBudget) : Nat → Ticking → List (Office × Task)
  | 0, _ => []
  | n + 1, s =>
    if s.mayStart then
      match s.office.nextTask? bulk s.bulkStarted s.excluded with
      | none => []
      | some (t, o) =>
        match o.registry.validate t with
        | .error r => executed bulk n (s.dropped o t r)
        | .ok () =>
          match o.execute t with
          | (.started number, o') => (o, t) :: executed bulk n (s.started o' t number)
          | (.deferred expiry, o') => (o, t) :: executed bulk n (s.deferred o' t expiry)
          | (.refused _, _) => [(o, t)]
    else []

/-- Turns of a tick, from one office to another, with the tasks executed on the way. -/
inductive Serves : Office → List (Office × Task) → Office → Prop where
  | done (o : Office) : Serves o [] o
  /-- The next task is of a run that is not valid, and ends. -/
  | drop {o o' o'' : Office} {bulk : BulkBudget} {n : Nat} {excluded : List Domain} {t : Task}
      {r : Rejection} {ps : List (Office × Task)} (next : o.nextTask? bulk n excluded = some (t, o'))
      (invalid : o'.registry.validate t = .error r) (rest : Serves (o'.fail t r.cause) ps o'') :
      Serves o ps o''
  /-- The next task is executed. -/
  | execute {o o' o'' : Office} {bulk : BulkBudget} {n : Nat} {excluded : List Domain} {t : Task}
      {ps : List (Office × Task)} (next : o.nextTask? bulk n excluded = some (t, o'))
      (valid : o'.registry.validate t = .ok ()) (rest : Serves (o'.execute t).2 ps o'') :
      Serves o ((o', t) :: ps) o''

theorem serves (bulk : BulkBudget) (n : Nat) (s : Ticking) :
    Serves s.office (executed bulk n s) (serve bulk n s).office := by
  induction n generalizing s with
  | zero => exact .done _
  | succ n ih =>
    unfold serve executed
    by_cases may : s.mayStart
    · rw [if_pos may, if_pos may]
      rcases next : s.office.nextTask? bulk s.bulkStarted s.excluded with _ | ⟨t, o⟩
      · exact .done _
      · dsimp only
        rcases valid : o.registry.validate t with r | ⟨⟩
        · exact .drop next valid (ih (s.dropped o t r))
        · dsimp only
          rcases hx : o.execute t with ⟨x, o'⟩
          have same : (o.execute t).2 = o' := congrArg Prod.snd hx
          cases x with
          | started number =>
            refine .execute next valid ?_
            rw [same]
            exact ih (s.started o' t number)
          | deferred expiry =>
            refine .execute next valid ?_
            rw [same]
            exact ih (s.deferred o' t expiry)
          | refused cause =>
            refine .execute next valid ?_
            rw [same]
            exact .done _
    · rw [if_neg may, if_neg may]
      exact .done _

namespace Serves

variable {o o' : Office} {ps : List (Office × Task)}

/-- Whatever is executed was let through. -/
theorem valid (h : Serves o ps o') : ∀ p ∈ ps, p.1.registry.validate p.2 = .ok () := by
  induction h with
  | done =>
    intro p hp
    cases hp
  | drop _ _ _ ih => exact ih
  | execute next valid rest ih =>
    intro p hp
    rcases List.mem_cons.1 hp with rfl | hp
    · exact valid
    · exact ih p hp

/-- A tick adds to the attempts those that its executions start. -/
theorem attempts (h : Serves o ps o') :
    o'.attempts = o.attempts ++ ps.filterMap fun p => p.1.attemptOf p.2 := by
  induction h with
  | done => exact (List.append_nil _).symm
  | @drop o p o'' bulk n excluded t r ps next invalid rest ih =>
    have ended : (p.fail t r.cause).frame = o.frame :=
      (Office.frame_fail t r.cause).trans (Office.frame_nextTask? next)
    have same : (p.fail t r.cause).attempts = o.attempts := congrArg (·.attempts) ended
    rw [ih, same]
  | @execute o p o'' bulk n excluded t ps next valid rest ih =>
    have polled : p.attempts = o.attempts := congrArg (·.attempts) (Office.frame_nextTask? next)
    rw [ih, Office.attempts_execute, polled, List.append_assoc]
    cases hp : p.attemptOf t with
    | none => simp [hp]
    | some a => simp [hp]

end Serves

end Ticking

namespace World

/-- The tasks that a happening executes, each with the office in which it does. -/
def executed (w : World) : Happening → List (Office × Task)
  | .tick => Ticking.executed w.office.bulkBudget.1 w.office.lanes.total
      { office := { w.office with hold := w.office.bulkBudget.2 } }
  | .turns bulk n report bulkStarted excluded => Ticking.executed bulk n
      { office := w.office, report := report, bulkStarted := bulkStarted, excluded := excluded }
  | _ => []

/-- The attempts that a happening starts. -/
def started (w : World) (h : Happening) : List Attempt :=
  (w.executed h).filterMap fun p => p.1.attemptOf p.2

/-- The attempts that a happening leaves. -/
def remaining (w : World) : Happening → List Attempt
  | .sendEnded n report =>
    w.office.attempts.map fun a =>
      if a.number = n && a.report.isNone then { a with report := some report } else a
  | .collect n =>
    if ((w.office.attempt? n).bind (·.report)).isSome then w.office.attempts.filter (·.number ≠ n)
    else w.office.attempts
  | .abandon numbers => w.office.attempts.filter (·.number ∉ numbers)
  | _ => w.office.attempts

end World

namespace Office

variable {o : Office}

theorem attempts_collect (o : Office) (n : Nat) : (o.collect n).attempts =
    if ((o.attempt? n).bind (·.report)).isSome then o.attempts.filter (·.number ≠ n)
    else o.attempts := by
  unfold collect
  cases ha : o.attempt? n with
  | none => rfl
  | some a =>
    dsimp only
    rw [Option.bind_some]
    cases a.report with
    | none => rfl
    | some report =>
      -- p is the office without the attempt
      let p := countEnd { o with attempts := o.attempts.filter (·.number ≠ n) } a.task.lane
      have taken : p.attempts = o.attempts.filter (·.number ≠ n) := attempts_countEnd _
      cases report with
      | error cause =>
        have failed : ((p.releasePermit a.permit).failAttempt a.task cause).attempts = p.attempts :=
          congrArg (·.attempts) (frame_failAttempt (o := p.releasePermit a.permit) a.task cause)
        exact ((recounts_attemptFinished a.task).attempts.trans failed).trans taken
      | ok outcome => exact (recounts_settleOutcome (o := p) a outcome).attempts.trans taken

theorem attempts_recordRefused (o : Office) (n : Nat) (message : String) :
    (o.recordRefused n message).attempts = o.attempts := by
  unfold recordRefused
  cases o.settlement? n with
  | none => rfl
  | some s =>
    have ended : ((o.removeSettlement n).abortAndFail s.task (.persistence message)).attempts =
        o.attempts := congrArg (·.attempts) (frame_abortAndFail (o := o.removeSettlement n) s.task _)
    dsimp only
    split
    · exact (recounts_attemptFinished s.task).attempts.trans ended
    · exact ended

end Office

namespace World

variable {w : World} {h : Happening}

/-- The attempts after a happening are those that it leaves and those that it starts. -/
theorem attempts_after (w : World) (h : Happening) :
    (w.after h).office.attempts = w.remaining h ++ w.started h := by
  have still : ∀ (o : Office), o.attempts = w.office.attempts →
      o.attempts = w.office.attempts ++ ([] : List Attempt) := by
    intro o same
    rw [same, List.append_nil]
  have kept : ∀ (o : Office), o.frame = w.office.frame →
      o.attempts = w.office.attempts ++ ([] : List Attempt) := by
    intro o frame
    exact still o (congrArg (·.attempts) frame)
  cases h with
  | submit s =>
    rw [after, office_submit]
    exact still _ (Office.recounts_submit s).attempts
  | tick =>
    exact (Ticking.serves w.office.bulkBudget.1 w.office.lanes.total
      { office := { w.office with hold := w.office.bulkBudget.2 } }).attempts
  | turns bulk n report bulkStarted excluded =>
    exact (Ticking.serves bulk n
      { office := w.office, report := report, bulkStarted := bulkStarted, excluded := excluded }).attempts
  | wake n => exact kept _ (Office.frame_wake n)
  | sendEnded n report => exact (List.append_nil _).symm
  | collect n => exact (Office.attempts_collect w.office n).trans (List.append_nil _).symm
  | beginExpiry n => exact still _ (Office.recounts_beginExpiry n).attempts
  | recordAccepted n => exact still _ (Office.recounts_recordAccepted n).attempts
  | recordRefused n message => exact still _ (Office.attempts_recordRefused w.office n message)
  | register runner =>
    have withdrawn := Office.frame_withdraw
      (o := { w.office with registry := w.office.registry.register runner })
      fun t => t.ownedByJob runner.id && !t.ownedBy runner
    exact still _ (congrArg (·.attempts) withdrawn)
  | abortRun t cause => exact still _ (congrArg (·.attempts) (Office.frame_abortRun t cause))
  | failOutside place cause => exact kept _ (frame_useOutside place fun t => Office.frame_fail t cause)
  | dropOutside place => exact kept _ (frame_useOutside place fun _ => rfl)
  | closeTimers => exact kept _ Office.frame_closeTimers
  | emptyLanes => exact kept _ Office.frame_emptyLanes
  | abandon numbers =>
    exact (congrArg (·.attempts) (Office.frame_abandon w.office numbers)).trans (List.append_nil _).symm
  | beginTick | unregister | pass | shift | readDaily | readWindow | stopAccepting | closeWorkers | takeSends
    | takeWaiters | sessionFailed | draw =>
    exact still _ rfl

/-- What a happening leaves ran before it, perhaps without its report. -/
theorem runs_of_remaining {a : Attempt} (ha : a ∈ w.remaining h) : w.office.Runs a := by
  unfold remaining at ha
  split at ha
  · obtain ⟨b, hb, rfl⟩ := List.mem_map.1 ha
    refine ⟨b, hb, ?_⟩
    split <;> exact ⟨rfl, rfl⟩
  · split at ha
    · exact ⟨a, (List.mem_filter.1 ha).1, rfl, rfl⟩
    · exact ⟨a, ha, rfl, rfl⟩
  · exact ⟨a, (List.mem_filter.1 ha).1, rfl, rfl⟩
  · exact ⟨a, ha, rfl, rfl⟩

/-- Attempts that start are started by the execution of their tasks. -/
theorem mem_started {a : Attempt} (starts : w.Starts h a) : a ∈ w.started h := by
  have ran := starts.1
  rw [attempts_after, List.mem_append] at ran
  rcases ran with left | started
  · obtain ⟨b, hb, number, -⟩ := runs_of_remaining left
    exact absurd number (starts.2 b hb)
  · exact started

/-- A happening that executes tasks is some turns of a tick. -/
theorem serves_of_executed {p : Office × Task} (hp : p ∈ w.executed h) :
    ∃ hold, Ticking.Serves { w.office with hold := hold } (w.executed h) (w.after h).office := by
  cases h with
  | tick => exact ⟨_, Ticking.serves w.office.bulkBudget.1 w.office.lanes.total
      { office := { w.office with hold := w.office.bulkBudget.2 } }⟩
  | turns bulk n report bulkStarted excluded => exact ⟨w.office.hold, Ticking.serves bulk n
      { office := w.office, report := report, bulkStarted := bulkStarted, excluded := excluded }⟩
  | _ => cases hp

theorem validate_of_executed {p : Office × Task} (hp : p ∈ w.executed h) :
    p.1.registry.validate p.2 = .ok () := by
  obtain ⟨_, serves⟩ := serves_of_executed hp
  exact serves.valid p hp

end World

end Postroom
