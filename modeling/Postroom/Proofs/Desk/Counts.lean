import Mathlib.Data.List.Basic
import Postroom.Proofs.Custody.Recipients
import Postroom.Proofs.Desk.Course
import Postroom.Proofs.Runs.UnderWay
import Postroom.Proofs.Stats.Days

/-!
# The counts of the days and the ends of the batches

A batch is counted in the very deed that ends it, under the day on which it ends. So while no batch is let go of,
and no day is forgotten, the counts of all days add up to the batches that ended well and to those that did not.

- `Daily.sum_record`: what is recorded adds one to the sum over all days.
- `Desk.Counted`: the invariant of a desk, kept by every deed that lets go of nothing.
- `World.Steady`: nothing is let go of, and the clock stays in a week.
- `Office.Unmoved`: neither the ends of batches nor their counts change. `Office.Over`: whatever is still
  done with a task changes neither.
- `World.CountsAgree`, `World.countsAgree_run`: counts and handles agree after every history.
-/

namespace Postroom

/-! ### Sums over days -/

namespace Daily

/-- The days from `first` on for which nothing is forgotten until the last of them. -/
def InWeek (first : Int) (now : Int) : Prop :=
  first ≤ Calendar.dayOf now ∧ Calendar.dayOf now < first + retention

instance (first now : Int) : Decidable (InWeek first now) := inferInstanceAs (Decidable (_ ∧ _))

/-- No day before `first` has counts. -/
def Since (first : Int) (d : Daily) : Prop := ∀ e ∈ d.days, first ≤ e.1

/-- In the week, no day is forgotten. -/
theorem prune_of_since {d : Daily} {first now : Int} (since : d.Since first) (week : InWeek first now) :
    d.prune now = d := by
  have all : d.days.filter (fun e => Calendar.dayOf now - (retention - 1) ≤ e.1) = d.days := by
    refine List.filter_eq_self.2 fun e he => decide_eq_true ?_
    have := since e he
    have := week.2
    omega
  rw [prune, all]

/-- What is added to the counts of one day is added to the sum. -/
theorem sumOf_change {day : Int} {f : DayCounts → DayCounts} {well : Bool} {k : Nat}
    (adds : ∀ c, (f c).count well = c.count well + k) (es : List (Int × DayCounts)) :
    sumOf ((change day f es).map (·.2.count well)) = sumOf (es.map (·.2.count well)) + k := by
  have first : (f {}).count well = k := by
    rw [adds]
    cases well <;> exact Nat.zero_add k
  induction es with
  | nil => simp [change, first]
  | cons e es ih =>
    rw [change]
    split
    · simp only [List.map_cons, sumOf_cons, adds]
      omega
    · split
      · simp only [List.map_cons, sumOf_cons, first]
        omega
      · simp only [List.map_cons, sumOf_cons, ih]
        omega

theorem since_record {d : Daily} {first now : Int} (since : d.Since first) (week : InWeek first now)
    (well : Bool) : (d.record now well).Since first := by
  rw [record_eq]
  intro e he
  rcases mem_change he with same | old
  · rw [same]
    exact week.1
  · exact since e (List.mem_of_mem_filter old)

/-- In the week, a batch is counted once, under how it ended. -/
theorem sum_record {d : Daily} {first now : Int} (since : d.Since first) (week : InWeek first now)
    (ended well : Bool) :
    (d.record now ended).sum well = d.sum well + if ended = well then 1 else 0 := by
  rw [record_eq, update, prune_of_since since week]
  refine sumOf_change (fun c => ?_) d.days
  cases ended <;> cases well <;> rfl

end Daily

/-! ### Ends -/

/-- Whether the batch has ended, and well or not well. -/
def endedAs (well : Bool) (v : Option Verdict) : Bool := v.any fun v => v.toBool = well

/-- Where a batch ends, one more has ended in its way. -/
theorem countP_modify {vs : List (Option Verdict)} {n : Nat} (isOpen : vs[n]?.any (·.isNone))
    (v : Verdict) (well : Bool) :
    (vs.modify n fun x => if x.isNone then some v else x).countP (endedAs well) =
      vs.countP (endedAs well) + if v.toBool = well then 1 else 0 := by
  induction vs generalizing n with
  | nil => cases isOpen
  | cons x vs ih =>
    cases n with
    | zero =>
      have unended : x = none := Option.isNone_iff_eq_none.1 isOpen
      rw [List.modify_zero_cons, unended, List.countP_cons, List.countP_cons]
      simp [endedAs]
    | succ n =>
      rw [List.modify_succ_cons, List.countP_cons, List.countP_cons, ih isOpen]
      omega

namespace Desk

/-- The days in the week have all counts there are, and these are those of the batches that ended. -/
structure Counted (first : Int) (d : Desk) : Prop where
  week : Daily.InWeek first d.now
  since : d.daily.Since first
  sum : ∀ well, d.daily.sum well = d.verdicts.countP (endedAs well)

variable {first : Int} {d : Desk}

/-- Lanes and timers do not matter. -/
theorem Counted.of_eq {e : Desk} (h : Counted first d) (now : e.now = d.now) (daily : e.daily = d.daily)
    (verdicts : e.verdicts = d.verdicts) : Counted first e where
  week := now ▸ h.week
  since := daily ▸ h.since
  sum := by rw [daily, verdicts]; exact h.sum

theorem Counted.conclude (h : Counted first d) (n : Nat) (v : Verdict) : Counted first (d.conclude n v) := by
  unfold Desk.conclude
  split
  · next isOpen =>
    refine ⟨h.week, Daily.since_record h.since h.week v.toBool, fun well => ?_⟩
    refine (Daily.sum_record h.since h.week v.toBool well).trans ?_
    rw [h.sum well]
    exact (countP_modify isOpen v well).symm
  · exact h

theorem Counted.concludeAll (h : Counted first d) (ts : List Task) (v : Verdict) :
    Counted first (d.concludeAll ts v) := by
  induction ts generalizing d with
  | nil => exact h
  | cons t ts ih => exact ih (h.conclude t.ticket v)

/-- Every deed that lets go of nothing keeps the counts, as long as the clock stays in the week. -/
theorem Counted.after (h : Counted first d) {x : Deed} (kept : ∀ n, x ≠ .drop n)
    (week : ∀ now, x = .clock now → Daily.InWeek first now) : Counted first (d.after x) := by
  cases x with
  | conclude n v => exact h.conclude n v
  | drop n => exact absurd rfl (kept n)
  | purge p cause =>
    have withdrawn : Counted first { d with lanes := (d.lanes.withdraw p).2 } := h.of_eq rfl rfl rfl
    exact withdrawn.concludeAll ..
  | close =>
    have closed : Counted first { d with timers := d.timers.close.2 } := h.of_eq rfl rfl rfl
    exact closed.concludeAll ..
  | enter =>
    refine ⟨h.week, h.since, fun well => (h.sum well).trans ?_⟩
    show _ = (d.verdicts ++ [none]).countP (endedAs well)
    rw [List.countP_append]
    rfl
  | clock now => exact ⟨week now rfl, h.since, h.sum⟩
  | prune =>
    refine h.of_eq rfl ?_ rfl
    exact Daily.prune_of_since h.since h.week
  | offer | sleep | poll | handOut | rouse => exact h.of_eq rfl rfl rfl

end Desk

/-! ### Operations on tasks of batches that have ended -/

namespace Office

/-- Neither the ends of the batches nor their counts have changed. -/
structure Unmoved (o o' : Office) : Prop where
  ledger : o'.ledger = o.ledger
  daily : o'.daily = o.daily

variable {o : Office} {t : Task}

/-- Where the batch of a task has ended, only its wait is forgotten. -/
theorem conclude_of_ended (ended : o.ledger.isOpen t.ticket = false) (v : Verdict) :
    o.conclude t v = { o with waits := o.waits.clear t.id } := by
  unfold conclude
  exact if_neg (by rw [ended]; nofun)

theorem unmoved_conclude (ended : o.ledger.isOpen t.ticket = false) (v : Verdict) :
    Unmoved o (o.conclude t v) := by
  rw [conclude_of_ended ended]
  exact ⟨rfl, rfl⟩

theorem unmoved_drop (ended : o.ledger.isOpen t.ticket = false) : Unmoved o (o.drop t) :=
  ⟨Ledger.resolve_of_not_isOpen _ _ _ ended, rfl⟩

theorem unmoved_sleep (ended : o.ledger.isOpen t.ticket = false) (delay : Nat) :
    Unmoved o (o.sleep delay t) := by
  unfold sleep
  split
  · exact unmoved_conclude ended _
  · exact ⟨rfl, rfl⟩

theorem unmoved_scheduleRetry (ended : o.ledger.isOpen t.ticket = false) (kept : List Recipient) :
    Unmoved o (o.scheduleRetry t kept) := by
  let retry := t.retry (kept.map fun r => { r with retries := r.retries + 1 })
  have slept := unmoved_sleep (t := retry)
    (o := { o with waits := o.waits.clear t.id, metrics := o.metrics.retryScheduled retry.lane }) ended
    (o.config.retry.delay retry.retries)
  exact ⟨slept.ledger, slept.daily⟩

theorem unmoved_requeue (ended : o.ledger.isOpen t.ticket = false) : Unmoved o (o.requeue t) := by
  unfold requeue
  split
  · exact ⟨rfl, rfl⟩
  · exact unmoved_conclude ended _

/-- The end of a run leaves an ended batch as it is. -/
theorem verdict?_abortRun_of_some {n : Nat} {v : Verdict} (ended : o.ledger.verdict? n = some v)
    (t : Task) (cause : Fault) : (o.abortRun t cause).2.ledger.verdict? n = some v := by
  unfold abortRun
  split
  · exact ended
  · next runner _ =>
    split
    · exact ended
    · next registry _ =>
      show (failAll _ _ _).ledger.verdict? n = some v
      rw [ledger_failAll]
      refine Ledger.verdict?_resolveAll_of_some _ ?_
      rw [ledger_withdraw]
      exact ended

/-- Whatever is still done with a task moves nothing. Where its run is ended with it, that alone counts. -/
structure Over (o : Office) (t : Task) : Prop where
  complete : Unmoved o (o.complete t)
  fail : ∀ cause, Unmoved o (o.fail t cause)
  drop : Unmoved o (o.drop t)
  retry : ∀ kept, Unmoved o (o.scheduleRetry t kept)
  requeue : Unmoved o (o.requeue t)
  abort : ∀ cause, Unmoved (o.abortRun t cause).2 (o.abortAndFail t cause)

theorem over_of_ended {v : Verdict} (ended : o.ledger.verdict? t.ticket = some v) : Over o t := by
  have closed : ∀ p : Office, p.ledger.verdict? t.ticket = some v → p.ledger.isOpen t.ticket = false := by
    intro p ended
    refine Bool.eq_false_iff.2 fun unended => ?_
    rw [(Ledger.isOpen_iff.1 unended).2] at ended
    cases ended
  have still := closed o ended
  refine ⟨unmoved_conclude still _, fun _ => unmoved_conclude still _, unmoved_drop still,
    unmoved_scheduleRetry still, unmoved_requeue still, fun cause => ?_⟩
  exact unmoved_conclude (closed _ (verdict?_abortRun_of_some ended t cause)) _

end Office

/-! ### Along a history -/

namespace World

open Custody Office

variable {w : World} {first : Int}

/-- Nothing is let go of, and the clock stays in the week. -/
structure Steady (first : Int) (w : World) (h : Happening) : Prop where
  /-- Whoever took a task out of the office ends it or keeps it. -/
  held : ∀ place, h ≠ .dropOutside place
  kept : w.LosesNothing h
  week : Daily.InWeek first (w.after h).office.now

theorem counted_opening (config : Config) (workers : Nat) (wall : Calendar.Moment)
    (week : Daily.InWeek first wall.time) :
    (opening config workers wall).office.desk.Counted first :=
  ⟨week, nofun, fun well => by cases well <;> rfl⟩

theorem counted_after {h : Happening} (steady : Steady first w h) (counted : w.office.desk.Counted first) :
    (w.after h).office.desk.Counted first := by
  refine (w.does_after h).keeps (fun d x permitted counted => counted.after ?_ ?_) counted
  · rintro n rfl
    cases permitted with
    | drop _ lets =>
      rcases lets with ⟨place, same⟩ | loses
      · exact steady.held place same
      · exact loses steady.kept
  · rintro now rfl
    cases permitted
    exact steady.week

theorem counted_run {hs : List Happening} (steady : Along (Steady first) w hs)
    (counted : w.office.desk.Counted first) : (w.run hs).office.desk.Counted first :=
  run_of_step (I := fun w => w.office.desk.Counted first) (fun _ _ => counted_after) steady counted

/-- A submission that is in the ledger had recipients. -/
theorem nonempty_of_admitted {hs : List Happening} {s : Submission} {n : Nat}
    (h : (s, Handle.ticket n) ∈ w.admitted hs) : s.recipients ≠ [] := by
  induction hs generalizing w with
  | nil => cases h
  | cons k hs ih =>
    rcases List.mem_append.1 h with h | h
    · cases k with
      | submit u =>
        rcases submit_cases w.office u with ⟨answer, hu, trace⟩ | ⟨nonempty, a, -, hu⟩
        · simp only [admits, hu] at h
          cases answer with
          | error f => cases h
          | ok a =>
            have same := List.mem_singleton.1 h
            rw [(trace a rfl).2] at same
            cases same
        · simp only [admits, hu] at h
          rw [(Prod.mk.inj (List.mem_singleton.1 h)).1]
          exact nonempty
      | _ => cases h
    · exact ih h

/-- Whether a submission with recipients has ended well, or not well. -/
def endedFor (w : World) (well : Bool) (p : Submission × Handle) : Bool :=
  !p.1.recipients.isEmpty && endedAs well (w.office.verdict? p.2)

/-- Counts and handles agree, and an end is for good. -/
structure CountsAgree (w : World) (admitted : List (Submission × Handle)) : Prop where
  completed : w.office.dailyTotals.1.completed = admitted.countP (w.endedFor true)
  failed : w.office.dailyTotals.1.failed = admitted.countP (w.endedFor false)
  /-- Whatever happens, a handle that is resolved stays as it is. -/
  once : ∀ s handle v, (s, handle) ∈ admitted → w.office.verdict? handle = some v →
    ∀ hs, (w.run hs).office.verdict? handle = some v
  /-- No operation on a task of a batch that has ended changes an end or a count. -/
  ended : ∀ t v, w.office.verdict? (.ticket t.ticket) = some v → w.office.Over t

/-- The batches in the ledger that have ended are the submissions with recipients that have. -/
theorem countP_verdicts {hs : List Happening} (owned : (w.run hs).custody.Owned)
    (entered : (w.run hs).entered.zipIdx = (w.admitted hs).filterMap ticketed) (well : Bool) :
    (w.run hs).office.desk.verdicts.countP (endedAs well) =
      (w.admitted hs).countP ((w.run hs).endedFor well) := by
  let o := (w.run hs).office
  have length : (w.run hs).entered.length = o.ledger.accounts.length := owned.entered
  have verdicts : o.desk.verdicts = (List.range' 0 o.ledger.accounts.length).map o.ledger.verdict? := by
    refine List.ext_getElem (by simp [desk]) fun n inside _ => ?_
    have inside : n < o.ledger.accounts.length := by simpa [desk] using inside
    simp [desk, Ledger.verdict?, Ledger.account?, inside]
  have tickets : List.range' 0 o.ledger.accounts.length = (w.admitted hs).filterMap (·.2.ticket?) := by
    rw [← map_ticketed, ← entered, List.zipIdx_map_snd, length]
  show o.desk.verdicts.countP _ = _
  rw [verdicts, tickets, List.countP_map, List.countP_filterMap]
  refine List.countP_congr fun p hp => ?_
  obtain ⟨s, handle⟩ := p
  cases handle with
  | ready v =>
    have empty := (ready_of_admitted hp).1
    simp [endedFor, empty, Handle.ticket?]
  | ticket n =>
    have nonempty := nonempty_of_admitted hp
    simp [endedFor, nonempty, Handle.ticket?, Office.verdict?, o]

/-- As long as nothing is let go of and the clock stays in a week, counts and handles agree after every history
of a new office. -/
theorem countsAgree_run (config : Config) (workers : Nat) (wall : Calendar.Moment) (first : Int)
    (hs : List Happening) (week : Daily.InWeek first wall.time)
    (steady : Along (Steady first) (opening config workers wall) hs) :
    CountsAgree ((opening config workers wall).run hs) ((opening config workers wall).admitted hs) := by
  have regular := regular_opening config workers wall
  have start := owned_opening config workers wall
  have counted := counted_run steady (counted_opening config workers wall week)
  have entered := entered_run regular start hs
  have totals : ∀ well, ((opening config workers wall).run hs).office.dailyTotals.1.count well =
      ((opening config workers wall).admitted hs).countP
        (((opening config workers wall).run hs).endedFor well) := by
    intro well
    refine (Daily.count_totals ..).trans ?_
    rw [← countP_verdicts (owned_run regular start hs) entered, ← counted.sum well]
    exact congrArg (Daily.sum · well) (Daily.prune_of_since counted.since counted.week)
  refine ⟨totals true, totals false, ?_, fun t v ended => over_of_ended ended⟩
  intro s handle v _ ended ks
  cases handle with
  | ready _ => exact ended
  | ticket n => exact verdict?_run (regular_run regular hs) ended ks

/-- Both recipients of the letter are delivered. -/
def letterDelivered : Outcome where
  recipients := [⟨{ address := "a@example.org" }, 250, "OK", .delivered⟩,
    ⟨{ address := "b@example.org" }, 250, "OK", .delivered⟩]

/-- A letter is delivered, and a parcel is handed out by a newer run of its job and fails. -/
def letterAndParcel : List Happening :=
  [.submit letter, .tick, .sendEnded 0 (.ok letterDelivered), .collect 0, .register ⟨⟨"job"⟩, 1⟩,
    .submit parcel, .register ⟨⟨"job"⟩, 2⟩, .failOutside 0 .shutdown]

/-- One batch is counted as completed, and one as failed. -/
theorem countsAgree_letterAndParcel :
    Daily.InWeek 0 0 ∧ Along (Steady 0) (opening {} 4 0) letterAndParcel ∧
      CountsAgree ((opening {} 4 0).run letterAndParcel) ((opening {} 4 0).admitted letterAndParcel) ∧
      ((opening {} 4 0).run letterAndParcel).office.dailyTotals.1 = ⟨1, 1⟩ := by
  have collected : LosesNothing
      ((opening {} 4 0).run [.submit letter, .tick, .sendEnded 0 (.ok letterDelivered)]) (.collect 0) := by
    intro a outcome found reported
    cases found
    cases reported
    decide
  have steady : Along (Steady 0) (opening {} 4 0) letterAndParcel :=
    ⟨⟨nofun, trivial, by decide⟩, ⟨nofun, trivial, by decide⟩, ⟨nofun, trivial, by decide⟩,
      ⟨nofun, collected, by decide⟩, ⟨nofun, trivial, by decide⟩, ⟨nofun, trivial, by decide⟩,
      ⟨nofun, trivial, by decide⟩, ⟨nofun, trivial, by decide⟩, trivial⟩
  exact ⟨by decide, steady, countsAgree_run {} 4 0 0 letterAndParcel (by decide) steady, by decide⟩

/-- A batch that is let go of because what follows from its answer is lost is resolved, and not counted. -/
example :
    let w := (opening { addresses := { cooldownSeconds := twoTo 63 } } 4 0).run
      [.submit letter, .tick, .sendEnded 0 (.ok { sessionFailure := some 421 }), .collect 0]
    w.office.verdict? (.ticket 0) = some (.error .cancelled) ∧ w.office.dailyTotals.1 = ⟨0, 0⟩ := by
  decide

end World

end Postroom
