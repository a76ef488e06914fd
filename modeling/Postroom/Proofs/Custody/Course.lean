import Postroom.Proofs.Custody.Settling
import Postroom.Proofs.Ticks

/-!
# The course of custody

Whatever happens in a world is a chain of changes of its custody, and so is every history. What all changes
keep, and what holds of a new office, therefore holds after every history.

- `World.Fits`: the reports of sends are of the kind `R`.
- `World.leads_after`: one happening is a chain of changes. `World.leads_run`: a history is one.
-/

namespace Postroom

variable {R : Task → Outcome → Prop}

namespace Office

open Custody

variable {o o' : Office} {e : List Submission} {H : Multiset Holding}

/-! ### Ticks -/

theorem leads_nextTask? {bulk : BulkBudget} {n : Nat} {excluded : List Domain} {t : Task}
    (h : o.nextTask? bulk n excluded = some (t, o')) :
    Leads R (o.custody e H) (o'.custody e (.outside t ::ₘ H)) := by
  obtain ⟨l, -, hl⟩ := List.exists_of_findSome?_eq_some h
  split at hl
  · exact leads_poll? hl
  · cases hl

theorem leads_turn (h : Ticking.Turn o o') : Leads R (o.custody e H) (o'.custody e H) := by
  -- the next task comes into the hands, and both ways on use it up
  cases h with
  | drop next _ => exact (leads_nextTask? next).trans (leads_fail _ _)
  | execute next _ => exact (leads_nextTask? next).trans (leads_execute _)

theorem leads_serve (bulk : BulkBudget) (n : Nat) (s : Ticking) :
    Leads R (s.office.custody e H) ((Ticking.serve bulk n s).office.custody e H) :=
  Ticking.serve_of_turn (P := fun o o' => Leads R (o.custody e H) (o'.custody e H))
    (fun _ => .refl _) (fun _ _ _ => .trans) (fun _ _ => leads_turn) bulk n s

theorem leads_tick (o : Office) : Leads R (o.custody e H) (o.tick.office.custody e H) :=
  leads_serve o.bulkBudget.1 o.lanes.total { office := { o with hold := o.bulkBudget.2 } }

/-! ### Timers, shutdown -/

theorem leads_wake (n : Nat) (nodup : (o.timers.sleepers.map (·.number)).Nodup) :
    Leads R (o.custody e H) ((o.wake n).custody e H) := by
  unfold wake
  split
  · exact .refl _
  · next s timers taken =>
    obtain ⟨u, found, he⟩ := Option.map_eq_some_iff.1 taken
    cases he
    have perm := (Numbered.perm_remove nodup found).map Holding.asleep
    split
    · have out : o.custody e H =
          custody { o with timers := { o.timers with
            sleepers := o.timers.sleepers.filter (·.number ≠ n) } } e (.asleep s ::ₘ H) := by
        refine custody_out rfl rfl rfl ?_
        simp only [coe_holdings, Multiset.coe_eq_coe.2 perm, List.map_cons, ← Multiset.cons_coe,
          Multiset.add_cons, Multiset.cons_add]
      rw [out]
      exact (leads_take _).trans (leads_requeue s.task)
    · exact .refl _

theorem leads_closeTimers : Leads R (o.custody e H) (o.closeTimers.custody e H) := by
  have out := leads_takeAll (R := R) (o := o) (e := e) (H := H)
    (p := { o with timers := o.timers.close.2 }) ↑(o.timers.sleepers.map Holding.asleep)
    rfl rfl rfl (by
      simp only [coe_holdings, Timers.close, List.map_nil, Multiset.coe_nil]
      ac_rfl)
  rw [Multiset.map_coe, List.map_map] at out
  refine out.trans ?_
  have ended := leads_failAll (R := R) (o := { o with timers := o.timers.close.2 }) (e := e) (H := H)
    (o.timers.sleepers.map (·.task)) .shutdown
  rw [List.map_map] at ended
  exact ended

theorem leads_emptyLanes : Leads R (o.custody e H) (o.emptyLanes.2.custody e H) :=
  (leads_withdraw _).trans (leads_failAll _ _)

/-- The waiters with these numbers. -/
def background (o : Office) (numbers : List Nat) : List Holding :=
  (o.attempts.filter (·.number ∈ numbers)).map .attempt ++ (o.expiries.filter (·.number ∈ numbers)).map .expiry ++
    (o.settlements.filter fun s => s.number ∈ numbers && isBackground s).map .settlement

/-- Holdings of one kind, those that satisfy a condition and those that do not. -/
theorem coe_map_filter {α : Type} (f : α → Holding) (p : α → Bool) (as : List α) :
    (↑(as.map f) : Multiset Holding) = ↑((as.filter p).map f) + ↑((as.filter fun a => !p a).map f) := by
  rw [Multiset.coe_add, ← List.map_append]
  exact Multiset.coe_eq_coe.2 ((List.filter_append_perm p as).symm.map f)

theorem leads_abandon (numbers : List Nat) : Leads R (o.custody e H) ((o.abandon numbers).custody e H) := by
  -- the office afterwards, but for the ledger: first all is taken out, then it ends
  let quiet : Office := { o with
    attempts := o.attempts.filter (·.number ∉ numbers)
    expiries := o.expiries.filter (·.number ∉ numbers)
    settlements := o.settlements.filter fun s => !(s.number ∈ numbers && isBackground s) }
  have out := leads_takeAll (R := R) (o := o) (e := e) (H := H) (p := quiet) ↑(o.background numbers)
    rfl rfl rfl (by
      simp only [coe_holdings, background, quiet, ← Multiset.coe_add,
        coe_map_filter _ (fun a : Attempt => decide (a.number ∈ numbers)) o.attempts,
        coe_map_filter _ (fun x : Expiry => decide (x.number ∈ numbers)) o.expiries,
        coe_map_filter _ (fun s : Settlement => decide (s.number ∈ numbers) && isBackground s) o.settlements,
        decide_not]
      ac_rfl)
  have tasks : (o.background numbers).map (fun x => Holding.outside x.task) =
      (o.tasksOf numbers).map Holding.outside := by
    simp [background, tasksOf, Function.comp_def, Holding.task]
  rw [Multiset.map_coe, tasks] at out
  refine (out.trans (leads_dropAll _)).trans (.of_eq ?_)
  simp only [abandon, foldl_drop]
  rfl

/-! ### Submission -/

/-- A submission leaves no trace, or it is entered and its first task goes to the lanes or, where its
domain is not known, to a settlement. -/
theorem submit_cases (o : Office) (s : Submission) :
    (∃ answer, o.submit s = (answer, o) ∧ ∀ a, answer = .ok a →
      s.recipients = [] ∧ a.handle = .ready (.ok ⟨s.batchId, s.domain, []⟩)) ∨
    s.recipients ≠ [] ∧ ∃ a, a.handle = .ticket (o.enter s).1.ticket ∧
      o.submit s = (.ok a, if s.domain.isUnroutable then (o.enter s).2.rejectUnroutable (o.enter s).1
        else (o.enter s).2.offer (o.enter s).1) := by
  unfold submit
  split
  · exact .inl ⟨_, rfl, nofun⟩
  · split
    · exact .inl ⟨_, rfl, nofun⟩
    · split
      · next empty =>
        refine .inl ⟨_, rfl, fun a ha => ?_⟩
        cases ha
        exact ⟨List.isEmpty_iff.1 empty, rfl⟩
      · next nonempty =>
        refine .inr ⟨fun empty => nonempty (List.isEmpty_iff.2 empty), ?_⟩
        dsimp only
        split
        · exact ⟨_, rfl, rfl⟩
        · exact ⟨_, rfl, rfl⟩

theorem leads_enter (o : Office) (s : Submission) (nonempty : s.recipients ≠ []) :
    Leads R (o.custody e H)
      ((o.enter s).2.custody (e ++ [s]) (.outside (o.enter s).1 ::ₘ H)) := by
  rw [custody, custody, Multiset.cons_add]
  exact .one (.enter s nonempty)

theorem leads_rejectUnroutable (t : Task) (unknown : t.domain.isUnroutable) :
    Leads R (o.custody e (.outside t ::ₘ H)) ((o.rejectUnroutable t).custody e H) := by
  refine (leads_number
    (.reject t unknown o.config.recipients.invalidDomainCode "Invalid recipient domain")).trans ?_
  exact leads_beginSettlement (o := { o with nextNumber := o.nextNumber + 1 }) _ _ _ _ (absurd rfl)

end Office

namespace World

open Custody Office

variable {w : World}

/-- Whose numbers are the numbers of a world. -/
theorem numbers_eq (w : World) :
    w.custody.numbers = ↑(w.office.timers.sleepers.map (·.number) ++
      w.office.attempts.map (·.number) ++ w.office.expiries.map (·.number) ++
      w.office.settlements.map (·.number)) := by
  rw [numbers, custody_live, Multiset.filterMap_coe]
  simp [holdings, Office.holdings, Lane.serviceOrder, List.filterMap_append, Function.comp_def,
    Holding.number?]

/-- Nothing that is found by number has the number of anything else. -/
theorem nodup_numbers (regular : w.custody.Regular) :
    (w.office.timers.sleepers.map (·.number) ++ w.office.attempts.map (·.number) ++
      w.office.expiries.map (·.number) ++ w.office.settlements.map (·.number)).Nodup := by
  have h := regular.nodup
  rwa [numbers_eq, Multiset.coe_nodup] at h

theorem nodup_sleepers (regular : w.custody.Regular) :
    (w.office.timers.sleepers.map (·.number)).Nodup :=
  (nodup_numbers regular).of_append_left.of_append_left.of_append_left

theorem nodup_attempts (regular : w.custody.Regular) :
    (w.office.attempts.map (·.number)).Nodup :=
  (nodup_numbers regular).of_append_left.of_append_left.of_append_right

theorem nodup_expiries (regular : w.custody.Regular) :
    (w.office.expiries.map (·.number)).Nodup :=
  (nodup_numbers regular).of_append_left.of_append_right

theorem nodup_settlements (regular : w.custody.Regular) :
    (w.office.settlements.map (·.number)).Nodup :=
  (nodup_numbers regular).of_append_right

theorem affordable_settlements (regular : w.custody.Regular) :
    ∀ s ∈ w.office.settlements, s.Affordable w.office.config := by
  intro s hs
  refine regular.affordable s ?_
  rw [custody_live, Multiset.mem_coe]
  simp [holdings, Office.holdings, hs]

/-! ### Happenings -/

/-- The report of a send is one that the task may be answered with. -/
def Fits (R : Task → Outcome → Prop) (w : World) : Happening → Prop
  | .sendEnded n report => ∀ a ∈ w.office.attempts, a.number = n →
      ∀ outcome, report = .ok outcome → R a.task outcome
  | _ => True

theorem fits_true (w : World) (h : Happening) : Fits (fun _ _ => True) w h := by
  cases h with
  | sendEnded n report => exact fun _ _ _ _ _ => trivial
  | _ => trivial

theorem submit_of_untaken {s : Submission} {answer : Except Fault Admission}
    (h : w.office.submit s = (answer, w.office))
    (trace : ∀ a, answer = .ok a →
      s.recipients = [] ∧ a.handle = .ready (.ok ⟨s.batchId, s.domain, []⟩)) :
    w.submit s = w := by
  unfold submit
  rw [h]
  dsimp only
  split
  · cases (trace _ rfl).2
  · rfl

theorem submit_of_entered {s : Submission} {a : Admission} {o : Office} {n : Nat}
    (h : w.office.submit s = (.ok a, o)) (handle : a.handle = .ticket n) :
    w.submit s = { w with office := o, entered := w.entered ++ [s] } := by
  obtain ⟨id, _, x⟩ := a
  cases handle
  rw [submit, h]

theorem leads_submit (w : World) (s : Submission) : Leads R w.custody (w.submit s).custody := by
  rcases submit_cases w.office s with ⟨answer, h, trace⟩ | ⟨nonempty, a, handle, h⟩
  · rw [submit_of_untaken h trace]
    exact .refl _
  · rw [submit_of_entered h handle]
    refine (leads_enter w.office s nonempty).trans ?_
    dsimp only [custody]
    split
    · next unknown => exact leads_rejectUnroutable _ unknown
    · exact leads_offer _

theorem leads_useOutside {f : Office → Task → Office} (place : Nat)
    (uses : ∀ t (H : Multiset Holding), Leads R (w.office.custody w.entered (.outside t ::ₘ H))
      ((f w.office t).custody w.entered H)) :
    Leads R w.custody (w.useOutside place f).custody := by
  unfold useOutside
  split
  · next t ht =>
    -- the task at the place goes to the front
    obtain ⟨inside, rfl⟩ := List.getElem?_eq_some_iff.1 ht
    have perm := (List.getElem_cons_eraseIdx_perm inside).map Holding.outside
    rw [custody, ← Multiset.coe_eq_coe.2 perm, List.map_cons, ← Multiset.cons_coe]
    exact uses _ _
  · exact .refl _

theorem leads_register (w : World) (runner : Runner) :
    Leads R w.custody (w.after (.register runner)).custody := by
  have out := leads_withdraw (R := R)
    (o := { w.office with registry := w.office.registry.register runner }) (e := w.entered)
    (H := ↑(w.outside.map Holding.outside)) fun t => t.ownedByJob runner.id && !t.ownedBy runner
  rw [add_comm, Multiset.coe_add, ← List.map_append] at out
  exact out

/-- Whatever happens is a chain of changes. -/
theorem leads_after (regular : w.custody.Regular) {h : Happening} (fits : Fits R w h) :
    Leads R w.custody (w.after h).custody := by
  cases h with
  | submit s => exact leads_submit w s
  | tick => exact leads_tick w.office
  | beginTick => exact .refl _
  | turns bulk n report bulkStarted excluded =>
    exact leads_serve bulk n
      { office := w.office, report := report, bulkStarted := bulkStarted, excluded := excluded }
  | wake n => exact leads_wake n (nodup_sleepers regular)
  | sendEnded n report => exact leads_sendEnded n report (nodup_attempts regular) fits
  | collect n => exact leads_collect n (nodup_attempts regular)
  | beginExpiry n => exact leads_beginExpiry n (nodup_expiries regular)
  | recordAccepted n =>
    exact leads_recordAccepted n (nodup_settlements regular) (affordable_settlements regular)
  | recordRefused n message => exact leads_recordRefused n message (nodup_settlements regular)
  | register runner => exact leads_register w runner
  | unregister id => exact .refl _
  | abortRun t cause => exact leads_abortRun t cause
  | failOutside place cause => exact leads_useOutside place fun t H => leads_fail t cause
  | dropOutside place => exact leads_useOutside place fun t H => leads_drop t
  | pass ms => exact .refl _
  | shift ms => exact .refl _
  | readDaily => exact .refl _
  | readWindow window => exact .refl _
  | stopAccepting => exact .refl _
  | closeWorkers => exact .refl _
  | closeTimers => exact leads_closeTimers
  | emptyLanes => exact leads_emptyLanes
  | takeSends => exact .refl _
  | takeWaiters => exact .refl _
  | abandon numbers => exact leads_abandon numbers
  | sessionFailed domain code => exact .refl _
  | draw draws => exact .refl _

/-- In a new world nothing is live. -/
theorem not_mem_live_opening (config : Config) (workers : Nat) (wall : Calendar.Moment) (x : Holding) :
    x ∉ (opening config workers wall).custody.live := by
  intro hx
  rw [custody_live] at hx
  cases hx

/-- A new world is regular. -/
theorem regular_opening (config : Config) (workers : Nat) (wall : Calendar.Moment) :
    (opening config workers wall).custody.Regular where
  nodup := by
    rw [numbers_eq]
    exact List.nodup_nil
  below n hn := by
    rw [numbers_eq] at hn
    cases hn
  affordable s hs := absurd hs (not_mem_live_opening config workers wall _)

/-- What happens keeps a world regular. -/
theorem regular_after (regular : w.custody.Regular) (h : Happening) : (w.after h).custody.Regular :=
  regular.leads (leads_after (R := fun _ _ => True) regular (fits_true w h))

theorem regular_run (regular : w.custody.Regular) (hs : List Happening) :
    (w.run hs).custody.Regular :=
  run_of_step (P := fun _ _ => True) (I := fun w => w.custody.Regular)
    (fun _ h _ hw => regular_after hw h) (along_of_forall (fun _ _ => trivial) w hs) regular

/-- A history is a chain of changes. -/
theorem leads_run (regular : w.custody.Regular) {hs : List Happening} (fits : Along (Fits R) w hs) :
    Leads R w.custody (w.run hs).custody := by
  induction hs generalizing w with
  | nil => exact .refl _
  | cons h hs ih => exact (leads_after regular fits.1).trans (ih (regular_after regular h) fits.2)

end World

end Postroom
