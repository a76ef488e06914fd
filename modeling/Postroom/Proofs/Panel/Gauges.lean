import Postroom.Proofs.Desk.Counts
import Postroom.Proofs.Retries.Tries
import Postroom.Proofs.Waits.Bench

/-!
# What the metrics repeat of an office

The metrics repeat what an office knows by other means: how deep its lanes are, how many attempts are in flight, how
many retries were put to sleep, and how its batches ended. Each of these is shown by a call of its own, beside the
change that it shows and under a condition of its own. A panel has both sides, what is shown and what it is shown of,
and each operation is what it does to the panel: both sides stay the same, and the retries that are counted are those
that fall asleep.

- `Gauges`: what the metrics show. `Panel`: the gauges of an office, and what they are gauges of.
- `Panel.Current`, `Panel.Tallied`: what is shown of the lanes and the attempts is so, and what is shown of the ends.
- `Panel.Keeps`: from one panel to the next this stays so, with a number of retries in between. `Panel.Follows`: with
  some retries, which are all that falls asleep apart from tasks that wait for resources.
- `Office.follows_fail` and the like: ends, lanes, sleep and starts, each with the retries that it schedules.
- `Ticking.Serves.follows`: the turns of a tick.
-/

namespace Postroom

/-- What the metrics show of an office. -/
structure Gauges where
  depths : PerLane Nat
  inFlight : Int
  completed : Nat
  failed : Nat
  retried : Nat

/-- The count of the batches that ended well, or of those that did not. -/
def Gauges.ended (g : Gauges) (well : Bool) : Nat := if well then g.completed else g.failed

namespace Metrics

def gauges (m : Metrics) : Gauges := ⟨m.depths, m.inFlight, m.completed, m.failed, m.retried⟩

theorem gauges_labelFor (m : Metrics) (domain : String) : (m.labelFor domain).2.gauges = m.gauges := by
  unfold labelFor
  split
  · rfl
  · split <;> rfl

theorem gauges_delivered (m : Metrics) (domain : String) (n : Nat) : (m.delivered domain n).gauges = m.gauges := by
  unfold delivered
  split
  · rfl
  · exact gauges_labelFor m domain

theorem gauges_recipientFailed (m : Metrics) (domain : String) (code : Nat) :
    (m.recipientFailed domain code).gauges = m.gauges := gauges_labelFor m domain

theorem gauges_sessionFailed (m : Metrics) (domain : String) (code : Nat) :
    (m.sessionFailed domain code).gauges = m.gauges := gauges_labelFor m domain

/-- No gauge shows how many recipients failed. -/
theorem gauges_failures {α : Type} (domain : String) (code : α → Nat) (rs : List α) (m : Metrics) :
    (rs.foldl (fun m r => m.recipientFailed domain (code r)) m).gauges = m.gauges := by
  induction rs generalizing m with
  | nil => rfl
  | cons r rs ih => exact (ih _).trans (gauges_recipientFailed m domain (code r))

/-- Where a batch ends, one more is shown to have ended in its way. -/
theorem ended_batchEnded (m : Metrics) (t : TrafficClass) (completed well : Bool) :
    (m.batchEnded t completed).gauges.ended well = m.gauges.ended well + if completed = well then 1 else 0 := by
  cases completed <;> cases well <;> rfl

end Metrics

/-- What is shown of an office, and what it is shown of. -/
structure Panel where
  lanes : Lanes
  inFlight : PerLane Nat
  timers : Timers
  /-- How each batch has ended, if it has, by ticket. -/
  verdicts : List (Option Verdict)
  gauges : Gauges

namespace Panel

variable {lossless : Prop} {j k : Nat} {p q r : Panel} {ns ms ts us : Multiset Task}

/-- The lanes are as deep as is shown, and as many attempts are in flight. -/
structure Current (p : Panel) : Prop where
  sound : p.lanes.Sound
  depths : ∀ l, p.gauges.depths.get l = p.lanes.size l
  inFlight : p.gauges.inFlight = sumOf p.inFlight.toList

/-- As many batches have ended well as is shown, and as many have not. -/
def Tallied (p : Panel) : Prop := ∀ well, p.gauges.ended well = p.verdicts.countP (endedAs well)

/-- The tasks that sleep. -/
def asleep (p : Panel) : Multiset Task := ↑(p.timers.sleepers.map (·.task))

/-- From `p` to `q`, what is shown stays true, and `k` retries are counted. The ends stay as they are shown where no
batch is let go of. -/
structure Keeps (lossless : Prop) (k : Nat) (p q : Panel) : Prop where
  current : p.Current → q.Current
  tallied : lossless → p.Tallied → q.Tallied
  retried : q.gauges.retried = p.gauges.retried + k

/-- From `p` to `q`, what is shown stays true, and the retries `ts` are counted. They fall asleep, unless the timers are
closed, and besides them only `ns` do. -/
structure Follows (lossless : Prop) (ns ts : Multiset Task) (p q : Panel) : Prop extends
    Keeps lossless ts.card p q where
  closed : q.timers.closed = p.timers.closed
  asleep : q.asleep = p.asleep + ns + if p.timers.closed then 0 else ts

theorem asleep_add (p : Panel) (s : Sleeper) :
    asleep { p with timers := p.timers.add s } = p.asleep + {s.task} := by
  rw [asleep, asleep, Timers.add, List.map_append, ← Multiset.coe_add]
  rfl

namespace Keeps

theorem refl (p : Panel) : Keeps lossless 0 p p := ⟨id, fun _ => id, rfl⟩

theorem trans (h : Keeps lossless j p q) (g : Keeps lossless k q r) : Keeps lossless (j + k) p r where
  current := g.current ∘ h.current
  tallied kept := g.tallied kept ∘ h.tallied kept
  retried := by rw [g.retried, h.retried, Nat.add_assoc]

/-- Where more has to be kept, no less is kept. -/
theorem mono {lossless' : Prop} (h : Keeps lossless k p q) (stronger : lossless' → lossless) :
    Keeps lossless' k p q := ⟨h.current, h.tallied ∘ stronger, h.retried⟩

/-- Where the timers stay as they are, no retry is scheduled. -/
theorem awake (h : Keeps lossless 0 p q) (timers : q.timers = p.timers) : Follows lossless 0 0 p q where
  toKeeps := h
  closed := congrArg Timers.closed timers
  asleep := by rw [ite_self, add_zero, add_zero, Panel.asleep, timers, Panel.asleep]

end Keeps

namespace Follows

theorem refl (p : Panel) : Follows lossless 0 0 p p := (Keeps.refl p).awake rfl

theorem of_eq (h : q = p) : Follows lossless 0 0 p q := by
  rw [h]
  exact refl p

theorem trans (h : Follows lossless ns ts p q) (g : Follows lossless ms us q r) :
    Follows lossless (ns + ms) (ts + us) p r where
  toKeeps := Multiset.card_add ts us ▸ h.toKeeps.trans g.toKeeps
  closed := g.closed.trans h.closed
  asleep := by
    rw [g.asleep, h.asleep, h.closed]
    split
    · ac_rfl
    · ac_rfl

/-- What comes before without a retry does not matter. -/
theorem before (h : Follows lossless 0 0 p q) (g : Follows lossless ns ts q r) : Follows lossless ns ts p r := by
  have both := h.trans g
  rwa [zero_add, zero_add] at both

/-- What comes behind without a retry does not matter. -/
theorem behind (h : Follows lossless ns ts p q) (g : Follows lossless 0 0 q r) : Follows lossless ns ts p r := by
  have both := h.trans g
  rwa [add_zero, add_zero] at both

/-- Where batches are let go of, only their ends change. -/
theorem of_lost (lost : ¬ lossless) (h : q = { p with verdicts := q.verdicts }) : Follows lossless 0 0 p q := by
  rw [h]
  refine Keeps.awake ⟨fun current => ?_, fun kept => absurd kept lost, rfl⟩ rfl
  exact ⟨current.sound, current.depths, current.inFlight⟩

end Follows

/-- Where a lane changes, to show its depth is enough. -/
theorem Current.publish (h : p.Current) {lanes : Lanes} {l : Lane} (sound : lanes.Sound)
    (others : ∀ l', l ≠ l' → lanes.line l' = p.lanes.line l') : Current { p with
      lanes := lanes
      gauges := { p.gauges with depths := p.gauges.depths.set l (lanes.size l) } } where
  sound := sound
  depths l' := by
    show (p.gauges.depths.set l (lanes.size l)).get l' = lanes.size l'
    rw [PerLane.get_set]
    split
    · next same => rw [same]
    · next other => rw [h.depths l', Lanes.size, Lanes.size, others l' other]
  inFlight := h.inFlight

end Panel

/-- What the sum over the lanes becomes where the value of one lane changes. -/
theorem PerLane.sumOf_modify (p : PerLane Nat) (l : Lane) (f : Nat → Nat) :
    sumOf (p.modify l f).toList + p.get l = sumOf p.toList + f (p.get l) := by
  cases l <;> simp [toList, Lane.serviceOrder, modify, set, get] <;> omega

/-- A lane from which nothing is taken stays as deep as it is. -/
theorem Lanes.Sound.size_withdraw {q : Lanes} (h : q.Sound) {f : Task → Bool} {l : Lane}
    (untaken : ∀ t ∈ (q.withdraw f).1, t.lane ≠ l) : (q.withdraw f).2.size l = q.size l := by
  have none : (q.line l).tasks.filter f = [] := by
    rw [List.eq_nil_iff_forall_not_mem]
    intro t ht
    have taken : t ∈ (q.withdraw f).1 := by
      refine List.mem_flatMap.2 ⟨l, Lane.mem_serviceOrder l, ?_⟩
      rw [Line.tasks_withdraw_fst]
      exact ht
    exact untaken t taken (h.mem_line (List.mem_filter.1 ht).1)
  rw [size, size, line_withdraw, Line.withdraw, none]
  rfl

namespace Office

open Panel

/-- The panel of an office. -/
def panel (o : Office) : Panel where
  lanes := o.lanes
  inFlight := o.inFlight
  timers := o.timers
  verdicts := o.ledger.accounts.map (·.verdict)
  gauges := o.metrics.gauges

variable {lossless : Prop} {o o' : Office} {t : Task}

/-! ### Operations away from the panel -/

theorem panel_attemptStarted (t : Task) : (o.attemptStarted t).panel = o.panel := by
  unfold attemptStarted
  split <;> rfl

theorem panel_acquire? {p : Permit} (h : o.acquire? t = some (p, o')) : o'.panel = o.panel := by
  obtain ⟨_, _, h⟩ := Option.bind_eq_some_iff.1 h
  obtain ⟨_, _, h⟩ := Option.bind_eq_some_iff.1 h
  cases h
  rfl

/-! ### How batches end -/

theorem follows_conclude (t : Task) (v : Verdict) : Follows lossless 0 0 o.panel (o.conclude t v).panel := by
  unfold conclude
  dsimp only
  split
  · next unended =>
    have isOpen : o.panel.verdicts[t.ticket]?.any (·.isNone) := (isOpen_desk o t.ticket).trans unended
    refine Keeps.awake ⟨fun current => ?_, fun _ tallied well => ?_, ?_⟩ rfl
    · cases v <;> exact ⟨current.sound, current.depths, current.inFlight⟩
    · show (o.metrics.batchEnded t.traffic v.toBool).gauges.ended well =
        ((o.ledger.resolve t.ticket v).accounts.map (·.verdict)).countP (endedAs well)
      rw [Metrics.ended_batchEnded, verdicts_resolve]
      exact (congrArg (· + _) (tallied well)).trans (countP_modify isOpen v well).symm
    · cases v <;> rfl
  · exact .of_eq rfl

theorem follows_fail (t : Task) (cause : Fault) : Follows lossless 0 0 o.panel (o.fail t cause).panel :=
  follows_conclude t _

theorem follows_complete (t : Task) : Follows lossless 0 0 o.panel (o.complete t).panel := follows_conclude t _

theorem follows_failAll (ts : List Task) (cause : Fault) :
    Follows lossless 0 0 o.panel (o.failAll ts cause).panel := by
  induction ts generalizing o with
  | nil => exact .refl _
  | cons t ts ih => exact (follows_fail t cause).before (ih (o := o.fail t cause))

theorem follows_dropAll (lost : ¬ lossless) (ts : List Task) :
    Follows lossless 0 0 o.panel (ts.foldl drop o).panel := by
  refine .of_lost lost ?_
  rw [foldl_drop]
  rfl

theorem follows_drop (lost : ¬ lossless) (t : Task) : Follows lossless 0 0 o.panel (o.drop t).panel :=
  follows_dropAll lost [t]

/-! ### The lanes -/

theorem follows_offer (t : Task) : Follows lossless 0 0 o.panel (o.offer t).panel := by
  refine Keeps.awake ⟨fun current => ?_, fun _ h => h, rfl⟩ rfl
  refine current.publish (current.sound.offer { t with enqueuedAt := o.now }) fun l other => ?_
  exact (PerLane.get_modify ..).trans (if_neg other)

theorem follows_poll? {l : Lane} {excluded : List Domain} (h : o.poll? l excluded = some (t, o')) :
    Follows lossless 0 0 o.panel o'.panel := by
  obtain ⟨⟨u, lanes⟩, polled, he⟩ := Option.map_eq_some_iff.1 h
  cases he
  refine Keeps.awake ⟨fun current => ?_, fun _ h => h, rfl⟩ rfl
  refine current.publish (current.sound.poll? polled) fun l' other => ?_
  obtain ⟨⟨_, line⟩, -, taken⟩ := Option.map_eq_some_iff.1 polled
  cases taken
  exact (Lanes.line_set o.lanes l l' line).trans (if_neg other)

theorem follows_nextTask? {bulk : BulkBudget} {n : Nat} {excluded : List Domain}
    (h : o.nextTask? bulk n excluded = some (t, o')) : Follows lossless 0 0 o.panel o'.panel := by
  obtain ⟨l, -, hl⟩ := List.exists_of_findSome?_eq_some h
  split at hl
  · exact follows_poll? hl
  · cases hl

/-- To show the depths of some lanes changes nothing else. -/
theorem publishDepths_eq (ls : List Lane) (o : Office) : ls.foldl publishDepth o =
    { o with metrics := { o.metrics with
      depths := ls.foldl (fun d l => d.set l (o.lanes.size l)) o.metrics.depths } } := by
  induction ls generalizing o with
  | nil => rfl
  | cons l ls ih => exact ih (o.publishDepth l)

theorem get_setAll (size : Lane → Nat) (ls : List Lane) (d : PerLane Nat) (l : Lane) :
    (ls.foldl (fun d l => d.set l (size l)) d).get l = if l ∈ ls then size l else d.get l := by
  induction ls generalizing d with
  | nil => rfl
  | cons l' ls ih =>
    rw [List.foldl_cons, ih, PerLane.get_set]
    by_cases here : l' = l
    · simp [here]
    · simp [here, Ne.symm here]

theorem follows_withdraw (f : Task → Bool) : Follows lossless 0 0 o.panel (o.withdraw f).2.panel := by
  simp only [withdraw, publishDepths_eq]
  refine Keeps.awake ⟨fun current => ⟨current.sound.withdraw f, fun l => ?_, current.inFlight⟩, fun _ h => h, rfl⟩ rfl
  refine (get_setAll ..).trans ?_
  split
  · rfl
  · next untouched =>
    -- its depth is not shown anew, as nothing was taken from it
    refine (current.depths l).trans (current.sound.size_withdraw fun t ht here => untouched ?_).symm
    exact List.mem_filter.2 ⟨Lane.mem_serviceOrder l, List.any_eq_true.2 ⟨t, ht, decide_eq_true here⟩⟩

theorem follows_abortRun (t : Task) (cause : Fault) :
    Follows lossless 0 0 o.panel (o.abortRun t cause).2.panel := by
  unfold abortRun
  split
  · exact .refl _
  · next u _ =>
    split
    · exact .refl _
    · next registry _ =>
      exact (follows_withdraw (o := { o with registry := registry }) (·.ownedBy u)).before (follows_failAll _ _)

theorem follows_abortAndFail (t : Task) (cause : Fault) :
    Follows lossless 0 0 o.panel (o.abortAndFail t cause).panel :=
  (follows_abortRun t cause).before (follows_fail t _)

theorem follows_requeue (t : Task) : Follows lossless 0 0 o.panel (o.requeue t).panel := by
  unfold requeue
  split
  · exact follows_offer t
  · exact follows_fail t _

theorem follows_emptyLanes : Follows lossless 0 0 o.panel o.emptyLanes.2.panel :=
  (follows_withdraw fun _ => true).before (follows_failAll _ _)

/-! ### Sleep -/

theorem follows_sleep (delay : Nat) (t : Task) :
    Follows lossless (if o.timers.closed then 0 else {t}) 0 o.panel (o.sleep delay t).panel := by
  unfold sleep
  split
  · exact follows_fail t _
  · refine ⟨⟨fun current => ⟨current.sound, current.depths, current.inFlight⟩, fun _ h => h, rfl⟩, rfl, ?_⟩
    exact (asleep_add o.panel _).trans (by rw [ite_self, add_zero])

/-- A retry is counted where it is scheduled, whether it falls asleep or not. -/
theorem follows_scheduleRetry (t : Task) (kept : List Recipient) :
    Follows lossless 0 {({ t with recipients := kept } : Task).next} o.panel (o.scheduleRetry t kept).panel := by
  let retry := t.retry (kept.map fun r => { r with retries := r.retries + 1 })
  let p : Office := { o with
    waits := o.waits.clear t.id
    metrics := o.metrics.retryScheduled retry.lane }
  unfold scheduleRetry sleep
  dsimp only
  split
  · next closed =>
    have counted : Follows lossless 0 {retry} o.panel p.panel := by
      refine ⟨⟨fun current => ⟨current.sound, current.depths, current.inFlight⟩, fun _ h => h, rfl⟩, rfl, ?_⟩
      rw [if_pos (show o.panel.timers.closed from closed), add_zero, add_zero]
      rfl
    exact counted.behind (follows_fail (o := p) retry _)
  · next running =>
    refine ⟨⟨fun current => ⟨current.sound, current.depths, current.inFlight⟩, fun _ h => h, rfl⟩, rfl, ?_⟩
    rw [if_neg (show ¬ o.panel.timers.closed from running), add_zero]
    exact asleep_add o.panel _

/-- The timers without the sleeper with a number, if its time has come. -/
def roused (o : Office) (n : Nat) : Timers :=
  match o.timers.take? n with
  | some (s, timers) => if s.due ≤ o.clock.uptime then timers else o.timers
  | none => o.timers

theorem follows_wake (n : Nat) :
    Follows lossless 0 0 { o.panel with timers := o.roused n } (o.wake n).panel := by
  unfold wake roused
  cases o.timers.take? n with
  | none => exact .refl _
  | some taken =>
    obtain ⟨s, timers⟩ := taken
    dsimp only
    split
    · exact follows_requeue (o := { o with timers := timers }) s.task
    · exact .refl _

theorem follows_closeTimers :
    Follows lossless 0 0 { o.panel with timers := o.timers.close.2 } o.closeTimers.panel :=
  follows_failAll (o := { o with timers := o.timers.close.2 }) _ _

/-! ### Starts -/

theorem follows_countStart (l : Lane) : Follows lossless 0 0 o.panel (o.countStart l).panel := by
  refine Keeps.awake ⟨fun current => ⟨current.sound, current.depths, ?_⟩, fun _ h => h, rfl⟩ rfl
  have one := PerLane.sumOf_modify o.inFlight l (· + 1)
  have shown : o.metrics.inFlight = sumOf o.inFlight.toList := current.inFlight
  show o.metrics.inFlight + 1 = sumOf (o.inFlight.modify l (· + 1)).toList
  omega

/-- One attempt less is shown only where one was in flight. -/
theorem follows_countEnd (l : Lane) : Follows lossless 0 0 o.panel (o.countEnd l).panel := by
  unfold countEnd
  split
  · exact .refl _
  · next some =>
    refine Keeps.awake ⟨fun current => ⟨current.sound, current.depths, ?_⟩, fun _ h => h, rfl⟩ rfl
    have one := PerLane.sumOf_modify o.inFlight l (· - 1)
    have shown : o.metrics.inFlight = sumOf o.inFlight.toList := current.inFlight
    show o.metrics.inFlight - 1 = sumOf (o.inFlight.modify l (· - 1)).toList
    omega

/-- A task that gets no permit waits asleep, or is retried where its wait has lasted too long and it has a retry
left. -/
theorem follows_shortage {s : Shortage} (h : o.shortage t = (s, o')) :
    Follows lossless (match s with | .requeued _ => if o.timers.closed then 0 else {t} | _ => 0)
      (match s with | .retried => {t.next} | _ => 0) o.panel o'.panel := by
  unfold shortage at h
  dsimp only at h
  split at h
  · cases h
    exact follows_sleep (o := (o.waitSince t).2.draw.2) _ t
  · split at h
    · cases h
      exact follows_scheduleRetry (o := { (o.waitSince t).2 with waits := (o.waitSince t).2.waits.clear t.id }) t _
    · cases h
      exact .of_eq rfl

theorem follows_execute (o : Office) (t : Task) :
    Follows lossless ↑((o.shelved? t).map (·.task)).toList (if o.escalates t then {t.next} else 0) o.panel
      (o.execute t).2.panel := by
  rcases acquired : o.acquire? t with _ | ⟨permit, o'⟩
  · simp only [execute_eq, escalates, shelved?, acquired]
    rcases hs : o.shortage t with ⟨s, p⟩
    have short : Follows lossless _ _ o.panel p.panel := follows_shortage hs
    cases s with
    | requeued delay =>
      refine Eq.mp (congrArg (Follows lossless · _ _ _) ?_) short
      dsimp only
      split <;> rfl
    | retried => exact short
    | expired u => exact short
  · have taken := panel_acquire? acquired
    have started : Follows lossless 0 0 o'.panel (o'.countStart t.lane).panel := follows_countStart t.lane
    rw [taken] at started
    simp only [execute_eq, escalates, shelved?, acquired]
    cases (o'.countStart t.lane).workers.start (o'.countStart t.lane).nextNumber with
    | error cause =>
      have back : Follows lossless 0 0 _ ((o'.countStart t.lane).countEnd t.lane).panel := follows_countEnd t.lane
      exact (started.before back).before
        (follows_fail (o := ((o'.countStart t.lane).countEnd t.lane).releasePermit permit) t cause)
    | ok workers =>
      refine started.before (.of_eq ?_)
      exact panel_attemptStarted t

end Office

namespace Ticking.Serves

open Panel Office

/-- In the turns of a tick, tasks fall asleep that wait for resources, and each task is retried that has waited too
long. -/
theorem follows {lossless : Prop} {o o' : Office} {ps : List (Office × Task)} (serves : Serves o ps o') :
    Follows lossless ↑((ps.filterMap fun p => p.1.shelved? p.2).map (·.task))
      ↑((ps.filter fun p => p.1.escalates p.2).map (·.2.next)) o.panel o'.panel := by
  induction serves with
  | done => exact .refl _
  | drop next _ _ ih => exact ((follows_nextTask? next).before (follows_fail _ _)).before ih
  | @execute o p o'' bulk n excluded t ps next _ _ ih =>
    have executed : Follows lossless _ _ o.panel (p.execute t).2.panel :=
      (follows_nextTask? next).before (follows_execute p t)
    have both := executed.trans ih
    refine Eq.mp (congrArg₂ (Follows lossless · · _ _) ?_ ?_) both
    · rw [List.filterMap_cons]
      cases p.shelved? t <;> rfl
    · rw [List.filter_cons]
      cases p.escalates t <;> rfl

end Ticking.Serves

end Postroom
