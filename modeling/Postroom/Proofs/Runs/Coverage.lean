import Mathlib.Data.List.Flatten
import Postroom.Proofs.Resources.Accounts
import Postroom.Proofs.Settlements.Course

/-!
# Every attempt under way is counted

The registry counts the running attempts of a job, and keeps the record of an ended run until the last of them
has finished. After every history the count covers all attempts of the job that are under way: where attempts
are let go of it may stay too high, but it is never too low. So the record outlives every attempt under way.

- `World.Covered`, `World.covered_run`: the count is high enough.
- `World.NotesEnds`, `World.aborted_after`: what a happening does to the records of ended runs.
- `World.one_le_runningAttempts`, `World.two_le_runningAttempts`: what is under way of a job is counted.
-/

namespace Postroom

/-- Two members of a list that satisfy a condition are counted. -/
theorem two_le_countP {α : Type} {p : α → Bool} {as : List α} {a b : α} (ha : a ∈ as) (hb : b ∈ as)
    (other : a ≠ b) (pa : p a) (pb : p b) : 2 ≤ as.countP p := by
  induction as with
  | nil => cases ha
  | cons c as ih =>
    rw [List.countP_cons]
    rcases List.mem_cons.1 ha with here | there
    · rcases List.mem_cons.1 hb with here' | there'
      · exact absurd (here.trans here'.symm) other
      · have one : 0 < as.countP p := List.countP_pos_iff.2 ⟨b, there', pb⟩
        rw [if_pos (here ▸ pa)]
        omega
    · rcases List.mem_cons.1 hb with here' | there'
      · have one : 0 < as.countP p := List.countP_pos_iff.2 ⟨a, there, pa⟩
        rw [if_pos (here' ▸ pb)]
        omega
      · have both := ih there there'
        omega

namespace Usage

/-- Every attempt of a job that runs is counted. -/
def Covered (u : Usage) : Prop := ∀ id, u.tasks.countP (·.runnerId = some id) ≤ u.running id

theorem Covered.step {u v : Usage} (h : Step u v) (hu : Covered u) : Covered v := by
  intro id
  have before := hu id
  cases h with
  | start a =>
    simp only [start, tasks, Multiset.map_cons, Multiset.cons_add, Multiset.countP_cons] at before ⊢
    exact Nat.add_le_add_right before _
  | report a r =>
    simp only [tasks, Multiset.map_cons] at before ⊢
    exact before
  | stray n => exact before
  | close a =>
    simp only [tasks, Multiset.map_cons] at before ⊢
    rw [Multiset.add_cons, ← Multiset.cons_add]
    exact before
  | finish t =>
    simp only [tasks, finish] at before ⊢
    rw [Multiset.add_cons, Multiset.countP_cons] at before
    exact Nat.le_sub_of_add_le before

end Usage

namespace Office

/-- All that is under way in an office. -/
def running (o : Office) : List Holding :=
  o.attempts.map .attempt ++ (o.settlements.map Holding.settlement).filter (·.isRunning)

theorem map_task_running (o : Office) : o.running.map (·.task) = o.runningTasks := by
  have settling : ∀ ss : List Settlement,
      ((ss.map Holding.settlement).filter (·.isRunning)).map (·.task) =
        ss.flatMap fun s => s.purpose.underWay s.task := by
    intro ss
    induction ss with
    | nil => rfl
    | cons s ss ih =>
      obtain ⟨n, t, purpose, written, left⟩ := s
      cases purpose with
      | attempt kept => exact congrArg (t :: ·) ih
      | expiry => exact ih
      | unroutable => exact ih
  rw [running, runningTasks, List.map_append, List.map_map, settling]
  rfl

end Office

/-- The registry once the attempt of `t` has finished. -/
def Registry.finished (r : Registry) (t : Task) : Registry :=
  match t.runnerId with
  | some id => r.attemptFinished id
  | none => r

/-- The record of a job outlives an attempt that finishes while another one runs. -/
theorem Registry.find?_finished {r : Registry} {t : Task} {id : RunnerId}
    (other : t.runnerId = some id → 2 ≤ r.runningAttempts id) :
    (r.finished t).aborted.find? id = r.aborted.find? id := by
  unfold finished
  split
  · next id' job =>
    unfold attemptFinished
    split
    · rfl
    · next last =>
      dsimp only
      split
      · rfl
      · rw [Table.find?_erase, if_neg]
        rintro rfl
        exact last (other job)
  · rfl

namespace Office

variable {o : Office}

theorem registry_attemptFinished (t : Task) : (o.attemptFinished t).registry = o.registry.finished t := by
  unfold attemptFinished Registry.finished
  cases t.runnerId <;> rfl

/-- Only the end of a settlement of an attempt is the end of an attempt. -/
theorem registry_finishSettlement (t : Task) (purpose : Purpose) (results : List RecipientResult) :
    (o.finishSettlement t purpose results).registry =
      match purpose with
      | .attempt _ => o.registry.finished t
      | .expiry | .unroutable => o.registry := by
  cases purpose with
  | attempt kept =>
    have concluded : ((o.settle t results).conclusionOfAttempt t kept).registry = o.registry :=
      congrArg (·.registry) (frame_conclusionOfAttempt (o := o.settle t results) t kept)
    show (attemptFinished _ t).registry = _
    rw [registry_attemptFinished, concluded]
  | expiry => exact congrArg (·.registry) (frame_complete t)
  | unroutable => exact congrArg (·.registry) (frame_complete t)

/-- A settlement of no attempt leaves the registry as it is. -/
theorem registry_beginSettlement (s : Settlement) (fresh : s.written = [])
    (other : ∀ kept, s.purpose ≠ .attempt kept) :
    (o.beginSettlement s.number s.task s.purpose s.left).registry = o.registry := by
  rw [beginSettlement_eq s fresh]
  split
  · rfl
  · rw [registry_finishSettlement]
    cases hp : s.purpose with
    | attempt kept => exact absurd hp (other kept)
    | expiry => rfl
    | unroutable => rfl

theorem registry_submit (s : Submission) : (o.submit s).2.registry = o.registry := by
  rcases o.submit_cases s with ⟨answer, h, -⟩ | ⟨-, a, -, h⟩
  · rw [h]
  · rw [h]
    dsimp only
    split
    · exact registry_beginSettlement (o := { (o.enter s).2 with nextNumber := o.nextNumber + 1 })
        ⟨o.nextNumber, (o.enter s).1, .unroutable, [], unroutableResults o.config.recipients (o.enter s).1⟩
        rfl nofun
    · rfl

theorem registry_beginExpiry (n : Nat) : (o.beginExpiry n).registry = o.registry := by
  unfold beginExpiry
  split
  · rfl
  · next e _ =>
    exact registry_beginSettlement (o := { o with expiries := o.expiries.filter (·.number ≠ n) })
      ⟨n, e.task, .expiry, [], expiryResults o.config.wait e.task⟩ rfl nofun

theorem aborted_execute (t : Task) : (o.execute t).2.registry.aborted = o.registry.aborted := by
  rw [execute_eq]
  split
  · have short := congrArg (·.registry.aborted) (frame_shortage (o := o) t)
    split
    · next h =>
      rw [h] at short
      exact short
    · next h =>
      rw [h] at short
      exact short
  · next permit o' h =>
    have taken : o'.registry.aborted = o.registry.aborted :=
      congrArg (·.registry.aborted) (frame_acquire? h)
    dsimp only
    split
    · next cause _ =>
      have ended := congrArg (·.registry.aborted) (frame_fail
        (o := ((o'.countStart t.lane).countEnd t.lane).releasePermit permit) t cause)
      have counted := congrArg (·.aborted) (registry_countEnd (o := o'.countStart t.lane) t.lane)
      exact ended.trans (counted.trans taken)
    · refine Eq.trans ?_ taken
      unfold attemptStarted
      split <;> rfl

theorem aborted_turn {o' : Office} (h : Ticking.Turn o o') :
    o'.registry.aborted = o.registry.aborted := by
  cases h with
  | drop next _ =>
    exact congrArg (·.registry.aborted) ((frame_fail _ _).trans (frame_nextTask? next))
  | execute next _ =>
    exact (aborted_execute _).trans (congrArg (·.registry.aborted) (frame_nextTask? next))

end Office

/-- The number of the attempt under way at which a happening works. -/
def Happening.number? : Happening → Option Nat
  | .collect n | .recordAccepted n | .recordRefused n _ => some n
  | _ => none

namespace World

open Usage

variable {w : World} {h : Happening}

/-- Every attempt of a job that is under way is counted. -/
def Covered (w : World) : Prop :=
  ∀ id, w.office.runningTasks.countP (·.runnerId = some id) ≤ w.office.registry.runningAttempts id

theorem covered_iff : w.Covered ↔ (w.office.usage 0).Covered := by
  refine forall_congr' fun id => ?_
  rw [tasks_usage, Multiset.coe_countP]
  rfl

/-- Where tasks only go and no count changes, the count stays high enough. -/
theorem Covered.of_sublist {w' : World} (covered : w.Covered)
    (tasks : w'.office.runningTasks.Sublist w.office.runningTasks)
    (registry : w'.office.registry = w.office.registry) : w'.Covered := by
  intro id
  rw [registry]
  exact (List.Sublist.countP_le tasks).trans (covered id)

theorem covered_after (regular : w.custody.Regular) (covered : w.Covered) (h : Happening) :
    (w.after h).Covered := by
  by_cases kept : LosesNothing w h
  · rw [covered_iff] at covered ⊢
    exact (draws_after regular kept).keeps (fun _ _ => Usage.Covered.step) covered
  · cases h with
    | abandon numbers =>
      have left := Office.frame_abandon w.office numbers
      refine covered.of_sublist ?_ (congrArg (·.registry) left)
      rw [show (w.after (.abandon numbers)).office.runningTasks = _ from congrArg (·.runningTasks) left]
      exact (List.filter_sublist.map _).append (List.filter_sublist.flatMap _)
    | collect n =>
      -- the answer that is lost takes its attempt with it
      have taken := w.office.collects n
      show Covered (w.withOffice (·.collect n))
      rw [withOffice]
      generalize w.office.collect n = p at taken ⊢
      cases taken with
      | idle => exact covered
      | failed a cause found reported =>
        refine absurd (fun b outcome found' ok => ?_) kept
        rw [found] at found'
        cases found'
        rw [reported] at ok
        cases ok
      | lost a outcome found reported lost pool =>
        obtain ⟨inFlight, metrics, rest⟩ := w.office.close_rest a
        rw [rest]
        refine covered.of_sublist ?_ rfl
        exact (List.filter_sublist.map _).append_right _
      | settled a outcome found reported settles =>
        refine absurd (fun b outcome' found' ok => ?_) kept
        rw [found] at found'
        cases found'
        rw [reported] at ok
        cases ok
        exact settles
    | _ => exact absurd trivial kept

theorem covered_opening (config : Config) (workers : Nat) (wall : Calendar.Moment) :
    (opening config workers wall).Covered := fun _ => Nat.zero_le _

theorem covered_run (regular : w.custody.Regular) (covered : w.Covered) (hs : List Happening) :
    (w.run hs).Covered := by
  have both : (w.run hs).custody.Regular ∧ (w.run hs).Covered :=
    run_of_step (P := fun _ _ => True) (I := fun w => w.custody.Regular ∧ w.Covered)
      (fun _ h _ hw => ⟨regular_after hw.1 h, covered_after hw.1 hw.2 h⟩)
      (along_of_forall (fun _ _ => trivial) w hs) ⟨regular, covered⟩
  exact both.2

theorem mem_running {x : Holding} (hx : x ∈ w.holdings) (runs : x.isRunning) : x ∈ w.office.running := by
  rw [Office.running, List.mem_append]
  cases x with
  | attempt a => exact .inl (List.mem_map_of_mem (mem_holdings_attempt.1 hx))
  | settlement s => exact .inr (List.mem_filter.2 ⟨List.mem_map_of_mem (mem_holdings_settlement.1 hx), runs⟩)
  | _ => cases runs

/-- What is under way of a job is counted. -/
theorem one_le_runningAttempts (covered : w.Covered) {x : Holding} {id : RunnerId} (hx : x ∈ w.holdings)
    (runs : x.isRunning) (job : x.task.runnerId = some id) :
    1 ≤ w.office.registry.runningAttempts id := by
  have counted := covered id
  rw [← Office.map_task_running, List.countP_map] at counted
  exact (List.countP_pos_iff.2 ⟨x, mem_running hx runs, decide_eq_true job⟩).trans_le counted

/-- Of two things under way of one job, both are counted. -/
theorem two_le_runningAttempts (covered : w.Covered) {x y : Holding} {id : RunnerId} (hx : x ∈ w.holdings)
    (hy : y ∈ w.holdings) (other : x ≠ y) (runs : x.isRunning) (runs' : y.isRunning)
    (job : x.task.runnerId = some id) (job' : y.task.runnerId = some id) :
    2 ≤ w.office.registry.runningAttempts id := by
  have counted := covered id
  rw [← Office.map_task_running, List.countP_map] at counted
  exact (two_le_countP (mem_running hx runs) (mem_running hy runs') other (decide_eq_true job)
    (decide_eq_true job')).trans counted

/-! ### Records of ended runs -/

/-- The attempt under way `x` may finish when `h` happens. -/
structure Finishes (w : World) (h : Happening) (x : Holding) : Prop where
  live : x ∈ w.holdings
  running : x.isRunning
  number : ∃ n, h.number? = some n ∧ x.number? = some n

/-- The records of an office are those that a happening notes, perhaps after one attempt has finished. -/
def NotesEnds (w : World) (h : Happening) (o : Office) : Prop :=
  o.registry.aborted = (w.noted h).aborted ∨
    ∃ x, w.Finishes h x ∧ o.registry.aborted = ((w.noted h).finished x.task).aborted

/-- The registry of an office is the one that a happening notes, perhaps after one attempt has finished. -/
def Notes (w : World) (h : Happening) (o : Office) : Prop :=
  o.registry = w.noted h ∨ ∃ x, w.Finishes h x ∧ o.registry = (w.noted h).finished x.task

theorem Notes.notesEnds {o : Office} (notes : w.Notes h o) : w.NotesEnds h o := by
  rcases notes with same | ⟨x, finishes, same⟩
  · exact .inl (congrArg (·.aborted) same)
  · exact .inr ⟨x, finishes, congrArg (·.aborted) same⟩

theorem notes_collect (w : World) (n : Nat) : w.Notes (.collect n) (w.office.collect n) := by
  have closed : ∀ a, (w.office.close a).registry = w.office.registry := by
    intro a
    obtain ⟨inFlight, metrics, rest⟩ := w.office.close_rest a
    rw [rest]
  have taken := w.office.collects n
  have finishes : ∀ a, w.office.attempt? n = some a → w.Finishes (.collect n) (.attempt a) := by
    intro a found
    exact ⟨mem_holdings_attempt.2 (List.mem_of_find?_eq_some found), rfl,
      n, rfl, congrArg some (Numbered.number_of_found found)⟩
  have noted : w.noted (.collect n) =
    w.office.registry.noteEnd ((w.office.attempt? n).bind Office.endedByReport) := rfl
  unfold Notes
  rw [noted]
  generalize w.office.collect n = p at taken ⊢
  cases taken with
  | idle unreported =>
    refine .inl ?_
    cases found : w.office.attempt? n with
    | none => rfl
    | some a =>
      rw [found, Option.bind_some] at unreported
      rw [Option.bind_some, Office.endedByReport, unreported]
      rfl
  | failed a cause found reported =>
    refine .inr ⟨.attempt a, finishes a found, ?_⟩
    have failed := congrArg (·.registry) (Office.frame_failAttempt
      (o := (w.office.close a).releasePermit a.permit) a.task cause)
    have ended : (((w.office.close a).releasePermit a.permit).failAttempt a.task cause).registry =
        w.office.registry.noteEnd (Office.endedByFault a.task cause) :=
      failed.trans (congrArg (fun r : Registry => r.noteEnd _) (closed a))
    rw [Office.registry_attemptFinished, ended, found, Option.bind_some, Office.endedByReport, reported]
    rfl
  | lost a outcome found reported lost pool =>
    refine .inl ?_
    rw [found, Option.bind_some, Office.endedByReport, reported]
    exact closed a
  | settled a outcome found reported settles =>
    rw [found, Option.bind_some, Office.endedByReport, reported, Office.beginSettlement_eq _ rfl]
    have same : ((w.office.close a).answer a outcome).registry = w.office.registry := closed a
    split
    · exact .inl same
    · refine .inr ⟨.attempt a, finishes a found, ?_⟩
      rw [Office.registry_finishSettlement, same]
      rfl

theorem notes_recordAccepted (w : World) (n : Nat) :
    w.Notes (.recordAccepted n) (w.office.recordAccepted n) := by
  have recorded := w.office.records n
  have noted : w.noted (.recordAccepted n) = w.office.registry := rfl
  unfold Notes
  rw [noted]
  generalize w.office.recordAccepted n = p at recorded ⊢
  cases recorded with
  | idle none left => exact .inl rfl
  | more s r r' left found next => exact .inl rfl
  | last s r found next =>
    rw [Office.registry_finishSettlement]
    have live := mem_holdings_settlement.2 (List.mem_of_find?_eq_some found)
    have number : s.number = n := Numbered.number_of_found found
    obtain ⟨k, t, purpose, written, left⟩ := s
    cases purpose with
    | attempt kept => exact .inr ⟨_, ⟨live, rfl, n, rfl, congrArg some number⟩, rfl⟩
    | expiry => exact .inl rfl
    | unroutable => exact .inl rfl

theorem notes_recordRefused (w : World) (n : Nat) (message : String) :
    w.Notes (.recordRefused n message) (w.office.recordRefused n message) := by
  have noted : w.noted (.recordRefused n message) = w.office.registry.noteEnd
    ((w.office.settlement? n).bind (Office.endedByRefusal · message)) := rfl
  unfold Notes Office.recordRefused
  rw [noted]
  cases found : w.office.settlement? n with
  | none => exact .inl rfl
  | some s =>
    have live := mem_holdings_settlement.2 (List.mem_of_find?_eq_some found)
    have number : s.number = n := Numbered.number_of_found found
    have ended := congrArg (·.registry) (Office.frame_abortAndFail
      (o := w.office.removeSettlement n) s.task (.persistence message))
    rw [Option.bind_some, Office.endedByRefusal]
    dsimp only
    obtain ⟨k, t, purpose, written, left⟩ := s
    cases purpose with
    | attempt kept =>
      refine .inr ⟨_, ⟨live, rfl, n, rfl, congrArg some number⟩, ?_⟩
      dsimp only
      rw [Office.registry_attemptFinished]
      exact congrArg (fun r : Registry => r.finished t) ended
    | expiry => exact .inl ended
    | unroutable => exact .inl ended

/-- What happens to an attempt under way does to the registry what it notes; then the attempt may finish. -/
theorem notes_after (w : World) {n : Nat} (works : h.number? = some n) : w.Notes h (w.after h).office := by
  cases h with
  | collect n => exact notes_collect w n
  | recordAccepted n => exact notes_recordAccepted w n
  | recordRefused n message => exact notes_recordRefused w n message
  | _ => cases works

/-- A happening does to the records what it notes; then one attempt may finish. -/
theorem aborted_after (w : World) (h : Happening) : w.NotesEnds h (w.after h).office := by
  have kept : ∀ {o : Office}, o.frame = w.office.frame →
      o.registry.aborted = w.office.registry.aborted := by
    intro o frame
    exact congrArg (·.registry.aborted) frame
  have served : ∀ (bulk : BulkBudget) (n : Nat) (s : Ticking),
      (Ticking.serve bulk n s).office.registry.aborted = s.office.registry.aborted :=
    Ticking.serve_of_turn (P := fun o o' => o'.registry.aborted = o.registry.aborted) (fun _ => rfl)
      (fun _ _ _ first second => second.trans first) (fun _ _ => Office.aborted_turn)
  cases h with
  | submit s =>
    rw [after, office_submit, NotesEnds, Office.registry_submit]
    exact .inl rfl
  | tick => exact .inl (served ..)
  | turns bulk n report bulkStarted excluded => exact .inl (served ..)
  | wake n => exact .inl (kept (Office.frame_wake n))
  | sendEnded n report =>
    exact .inl rfl
  | collect n => exact (notes_collect w n).notesEnds
  | beginExpiry n =>
    refine .inl ?_
    show (w.office.beginExpiry n).registry.aborted = _
    rw [Office.registry_beginExpiry]
    rfl
  | recordAccepted n => exact (notes_recordAccepted w n).notesEnds
  | recordRefused n message => exact (notes_recordRefused w n message).notesEnds
  | register runner =>
    exact .inl (congrArg (·.registry.aborted) (Office.frame_withdraw
      (o := { w.office with registry := w.office.registry.register runner }) _))
  | abortRun t cause => exact .inl (congrArg (·.registry.aborted) (Office.frame_abortRun t cause))
  | failOutside place cause =>
    exact .inl (kept (frame_useOutside place fun t => Office.frame_fail t cause))
  | dropOutside place => exact .inl (kept (frame_useOutside place fun _ => rfl))
  | closeTimers => exact .inl (kept Office.frame_closeTimers)
  | emptyLanes => exact .inl (kept Office.frame_emptyLanes)
  | abandon numbers => exact .inl (congrArg (·.registry.aborted) (Office.frame_abandon w.office numbers))
  | beginTick | unregister | pass | shift | readDaily | readWindow | stopAccepting | closeWorkers | takeSends
    | takeWaiters | sessionFailed | draw =>
    exact .inl rfl

end World

end Postroom
