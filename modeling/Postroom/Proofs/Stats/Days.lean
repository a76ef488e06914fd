import Mathlib.Data.List.Nodup
import Postroom.Count
import Postroom.Stats.Daily

/-!
# Days and what was recorded on them

The counts forget old days whenever they are touched, so what they store depends on when they were looked at. What
they answer does not: it is a function of what was recorded, as the days that are forgotten too early for one answer are
too old for every later one. In the first six days of the calendar no call has a result, as the oldest day that would
be kept lies before the calendar; nothing is recorded then.

- `Daily.record`, `Daily.count_totals`: what is recorded, and the totals as a sum over days.
- `Daily.chronicle`: the days of the week that ends today on which something was recorded, read off the recordings.
- `Daily.Chronicled`: days that say what was recorded from some day on, kept by recording and by forgetting.
- `Daily.Call`, `Daily.answers`: calls in any order, and what they answer, if they do. `Daily.reference`: the same
  without a memory.
- `Daily.Faithful`: what the counts know. `Daily.answersRecorded`: answers and reference agree where the clock is not
  set back.
-/

namespace Postroom

/-- The count of the batches that ended well, or of those that did not. -/
def DayCounts.count (c : DayCounts) (well : Bool) : Nat := if well then c.completed else c.failed

/-- The counts with one batch more. -/
def DayCounts.tally (c : DayCounts) (well : Bool) : DayCounts :=
  if well then { c with completed := c.completed + 1 } else { c with failed := c.failed + 1 }

namespace Daily

/-- A batch is counted. -/
def record (d : Daily) (now : Int) (well : Bool) : Daily :=
  if well then d.recordCompleted now else d.recordFailed now

theorem record_eq (d : Daily) (now : Int) (well : Bool) : d.record now well = d.update now (·.tally well) := by
  cases well <;> rfl

/-- One of the two counts, over all days. -/
def sum (d : Daily) (well : Bool) : Nat := sumOf (d.days.map (·.2.count well))

theorem count_totals (d : Daily) (now : Int) (well : Bool) :
    (d.totals now).count well = (d.prune now).sum well := by
  have added : ∀ (es : List (Int × DayCounts)) (acc : DayCounts),
      (es.foldl (fun acc e => acc.add e.2) acc).count well =
        acc.count well + sumOf (es.map (·.2.count well)) := by
    intro es
    induction es with
    | nil => exact fun acc => rfl
    | cons e es ih =>
      intro acc
      rw [List.foldl_cons, ih, List.map_cons, sumOf_cons, ← Nat.add_assoc]
      cases well <;> rfl
  refine (added (d.history now) {}).trans ?_
  cases well <;> exact Nat.zero_add _

/-! ### What was recorded -/

/-- The counts of a day among batches that were counted, each with its day and how it ended. -/
def countsOn (rs : List (Int × Bool)) (day : Int) : DayCounts := ⟨rs.count (day, true), rs.count (day, false)⟩

/-- The days that are kept on a day, oldest first. -/
def week (today : Int) : List Int := (List.range 7).map fun k : Nat => today - 6 + k

/-- What was recorded in the week that ends today, without days on which nothing was. -/
def chronicle (rs : List (Int × Bool)) (today : Int) : List (Int × DayCounts) :=
  ((week today).filter fun day => day ∈ rs.map Prod.fst).map fun day => (day, countsOn rs day)

/-- The sum of the counts of some days. -/
def total (es : List (Int × DayCounts)) : DayCounts :=
  ⟨sumOf (es.map (·.2.completed)), sumOf (es.map (·.2.failed))⟩

theorem mem_week {today day : Int} : day ∈ week today ↔ today - 6 ≤ day ∧ day ≤ today := by
  rw [week, List.mem_map]
  constructor
  · rintro ⟨k, hk, rfl⟩
    have := List.mem_range.1 hk
    omega
  · intro inside
    refine ⟨(day - (today - 6)).toNat, List.mem_range.2 ?_, ?_⟩ <;> omega

theorem sorted_week (today : Int) : (week today).Pairwise (· < ·) := by
  refine List.pairwise_map.2 (List.pairwise_lt_range.imp fun earlier => ?_)
  omega

/-- What was recorded on other days does not count. -/
theorem countsOn_append (rs : List (Int × Bool)) (day day' : Int) (well : Bool) :
    countsOn (rs ++ [(day, well)]) day' =
      if day' = day then (countsOn rs day').tally well else countsOn rs day' := by
  by_cases same : day' = day
  · subst same
    cases well <;> simp [countsOn, DayCounts.tally]
  · simp [countsOn, same, Ne.symm same]

theorem countsOn_of_notMem {rs : List (Int × Bool)} {day : Int} (none : day ∉ rs.map Prod.fst) :
    countsOn rs day = {} := by
  have absent : ∀ well, (day, well) ∉ rs := fun well listed => none (List.mem_map_of_mem listed)
  rw [countsOn, List.count_eq_zero_of_not_mem (absent true), List.count_eq_zero_of_not_mem (absent false)]

/-! ### What is stored -/

/-- The days are in order, and say what was recorded from the day `first` on. -/
structure Chronicled (rs : List (Int × Bool)) (first : Int) (es : List (Int × DayCounts)) : Prop where
  sorted : es.Pairwise fun a b => a.1 < b.1
  listed : ∀ e, e ∈ es ↔ first ≤ e.1 ∧ e.1 ∈ rs.map Prod.fst ∧ e.2 = countsOn rs e.1

/-- Among days in order, a change touches one day, and makes one where there was none. -/
theorem mem_change_iff {day : Int} {f : DayCounts → DayCounts} {es : List (Int × DayCounts)}
    (sorted : es.Pairwise fun a b => a.1 < b.1) (x : Int × DayCounts) :
    x ∈ change day f es ↔ (x ∈ es ∧ x.1 ≠ day) ∨
      (x.1 = day ∧ ((∃ c, (day, c) ∈ es ∧ x.2 = f c) ∨ (day ∉ es.map Prod.fst ∧ x.2 = f {}))) := by
  obtain ⟨d, c⟩ := x
  induction es with
  | nil => simp [change]
  | cons e es ih =>
    obtain ⟨first, rest⟩ := List.pairwise_cons.1 sorted
    obtain ⟨a, b⟩ := e
    have ih := ih rest
    rw [change]
    grind

theorem mem_change {day : Int} {f : DayCounts → DayCounts} {es : List (Int × DayCounts)}
    {e : Int × DayCounts} (h : e ∈ change day f es) : e.1 = day ∨ e ∈ es := by
  induction es with
  | nil => exact .inl (List.mem_singleton.1 h ▸ rfl)
  | cons d es ih =>
    rw [change] at h
    split at h
    · rcases List.mem_cons.1 h with rfl | h
      · exact .inl rfl
      · exact .inr (List.mem_cons_of_mem _ h)
    · split at h
      · rcases List.mem_cons.1 h with rfl | h
        · exact .inl rfl
        · exact .inr h
      · rcases List.mem_cons.1 h with rfl | h
        · exact .inr (List.mem_cons_self ..)
        · exact (ih h).imp_right (List.mem_cons_of_mem _)

theorem sorted_change {day : Int} {f : DayCounts → DayCounts} {es : List (Int × DayCounts)}
    (sorted : es.Pairwise fun a b => a.1 < b.1) : (change day f es).Pairwise fun a b => a.1 < b.1 := by
  induction es with
  | nil => exact List.pairwise_singleton ..
  | cons e es ih =>
    obtain ⟨first, rest⟩ := List.pairwise_cons.1 sorted
    rw [change]
    split
    · next same => exact List.pairwise_cons.2 ⟨same ▸ first, rest⟩
    · split
      · next before =>
        refine List.pairwise_cons.2 ⟨fun x hx => ?_, sorted⟩
        rcases List.mem_cons.1 hx with rfl | hx
        · exact before
        · exact Int.lt_trans before (first x hx)
      · refine List.pairwise_cons.2 ⟨fun x hx => ?_, ih rest⟩
        rcases mem_change hx with same | hx
        · omega
        · exact first x hx

namespace Chronicled

variable {rs : List (Int × Bool)} {first day now : Int} {es : List (Int × DayCounts)}

theorem empty (first : Int) : Chronicled [] first [] where
  sorted := .nil
  listed e := by simp

/-- To forget old days moves the first day on. -/
theorem forget (stored : Chronicled rs first es) (oldest : Int) :
    Chronicled rs (max first oldest) (es.filter fun e => oldest ≤ e.1) where
  sorted := stored.sorted.filter _
  listed e := by
    rw [List.mem_filter, stored.listed, decide_eq_true_iff, Int.max_le]
    tauto

/-- What is recorded from the first day on is stored. -/
theorem record (stored : Chronicled rs first es) (kept : first ≤ day) (well : Bool) :
    Chronicled (rs ++ [(day, well)]) first (change day (·.tally well) es) where
  sorted := sorted_change stored.sorted
  listed e := by
    have stored? : ∀ c, (day, c) ∈ es ↔ day ∈ rs.map Prod.fst ∧ c = countsOn rs day := fun c => by
      rw [stored.listed]
      exact and_iff_right kept
    have listed? : day ∈ es.map Prod.fst ↔ day ∈ rs.map Prod.fst := by
      refine ⟨fun listed => ?_, fun recorded => List.mem_map_of_mem ((stored? _).2 ⟨recorded, rfl⟩)⟩
      obtain ⟨⟨_, c⟩, he, same⟩ := List.mem_map.1 listed
      exact ((stored? c).1 (same ▸ he)).1
    rw [mem_change_iff stored.sorted, countsOn_append, List.map_append, List.mem_append, listed?]
    by_cases same : e.1 = day
    · -- the day itself, on which something may have been recorded before
      by_cases before : day ∈ rs.map Prod.fst
      · simp [same, stored?, before, kept]
      · simp [same, stored?, before, kept, countsOn_of_notMem before]
    · simp [same, stored.listed]

/-- Once older days are forgotten, what is stored is what was recorded in the week that ends today. -/
theorem eq_chronicle {today : Int} (stored : Chronicled rs (today - 6) es) (past : ∀ r ∈ rs, r.1 ≤ today) :
    es = chronicle rs today := by
  have sorted : (chronicle rs today).Pairwise fun a b => a.1 < b.1 :=
    List.pairwise_map.2 ((sorted_week today).filter _)
  have distinct : ∀ {l : List (Int × DayCounts)}, l.Pairwise (fun a b => a.1 < b.1) → l.Nodup :=
    fun sorted => sorted.imp fun earlier same => Int.ne_of_lt earlier (congrArg Prod.fst same)
  refine List.Perm.eq_of_pairwise (fun a b _ _ earlier later => ?_) stored.sorted sorted ?_
  · exact absurd (Int.lt_trans earlier later) (Int.lt_irrefl _)
  refine (List.perm_ext_iff_of_nodup (distinct stored.sorted) (distinct sorted)).2 fun e => ?_
  have past : e.1 ∈ rs.map Prod.fst → e.1 ≤ today := fun listed => by
    obtain ⟨r, hr, same⟩ := List.mem_map.1 listed
    exact same ▸ past r hr
  rw [stored.listed]
  constructor
  · rintro ⟨recent, recorded, counts⟩
    refine List.mem_map.2 ⟨e.1, List.mem_filter.2 ⟨mem_week.2 ⟨recent, past recorded⟩, decide_eq_true recorded⟩, ?_⟩
    rw [← counts]
  · intro listed
    obtain ⟨day, inside, rfl⟩ := List.mem_map.1 listed
    obtain ⟨inside, recorded⟩ := List.mem_filter.1 inside
    exact ⟨(mem_week.1 inside).1, of_decide_eq_true recorded, rfl⟩

end Chronicled

/-! ### Calls -/

/-- A call on the counts. -/
inductive Call where
  | record (well : Bool)
  | totals
  | history
  deriving DecidableEq

/-- What a call answers. -/
inductive Answer where
  | done
  | totals (counts : DayCounts)
  | history (days : List (Int × DayCounts))
  deriving DecidableEq

/-- What a call at a time answers where the calendar can hold the oldest day. -/
def answer (d : Daily) (now : Int) : Call → Answer
  | .record _ => .done
  | .totals => .totals (d.totals now)
  | .history => .history (d.history now)

/-- The counts after a call at such a time. Reading forgets old days, too, as it does in `Office.dailyTotals` and
`Office.dailyHistory`. -/
def afterCall (d : Daily) (now : Int) : Call → Daily
  | .record well => d.record now well
  | .totals | .history => d.prune now

/-- What a call at any time answers, and the counts after it; nothing where it has no result. -/
def call? (d : Daily) (now : Int) : Call → Option (Answer × Daily)
  | .record true => (d.recordCompleted? now).map fun d => (.done, d)
  | .record false => (d.recordFailed? now).map fun d => (.done, d)
  | .totals => (d.totals? now).map fun r => (.totals r.1, r.2)
  | .history => (d.history? now).map fun r => (.history r.1, r.2)

theorem call?_eq (d : Daily) (now : Int) (c : Call) :
    d.call? now c = if Reaches now then some (d.answer now c, d.afterCall now c) else none := by
  have split {α : Type} (a : α) (f : α → Answer × Daily) :
      Option.map f (if Reaches now then some a else none) = if Reaches now then some (f a) else none := by
    split <;> rfl
  match c with
  | .record true => exact split ..
  | .record false => exact split ..
  | .totals => exact split ..
  | .history => exact split ..

/-- What calls one after the other answer, each at its time. A call without a result leaves the counts alone. -/
def answers : Daily → List (Int × Call) → List (Option Answer)
  | _, [] => []
  | d, (now, c) :: cs =>
    match d.call? now c with
    | some (a, d) => some a :: answers d cs
    | none => none :: answers d cs

/-- The counts after calls. -/
def afterCalls (d : Daily) (cs : List (Int × Call)) : Daily :=
  cs.foldl (fun d c => ((d.call? c.1 c.2).map Prod.snd).getD d) d

/-- What a call at a time records, if it has a result. -/
def noted (now : Int) : Call → List (Int × Bool)
  | .record well => if Reaches now then [(Calendar.dayOf now, well)] else []
  | .totals | .history => []

/-- What calls record. -/
def recorded (cs : List (Int × Call)) : List (Int × Bool) := cs.flatMap fun c => noted c.1 c.2

/-- What a call answers on a day, according to all that was recorded before. -/
def answerOf (rs : List (Int × Bool)) (today : Int) : Call → Answer
  | .record _ => .done
  | .totals => .totals (total (chronicle rs today))
  | .history => .history (chronicle rs today)

/-- What calls answer according to all that was recorded before each of them. -/
def reference : List (Int × Bool) → List (Int × Call) → List (Option Answer)
  | _, [] => []
  | rs, (now, c) :: cs =>
    (if Reaches now then some (answerOf rs (Calendar.dayOf now) c) else none) :: reference (rs ++ noted now c) cs

theorem totals_eq_total (d : Daily) (now : Int) : d.totals now = total (d.history now) := by
  have completed := count_totals d now true
  have failed := count_totals d now false
  rw [show d.totals now = ⟨(d.totals now).completed, (d.totals now).failed⟩ from rfl]
  exact congrArg₂ DayCounts.mk completed failed

/-- Until `last`, the counts have all that was recorded from a day on that will be kept longest. -/
structure Faithful (d : Daily) (rs : List (Int × Bool)) (last : Int) : Prop where
  stored : ∃ first ≤ Calendar.dayOf last - 6, Chronicled rs first d.days
  past : ∀ r ∈ rs, r.1 ≤ Calendar.dayOf last

theorem dayOf_mono {time time' : Int} (later : time ≤ time') : Calendar.dayOf time ≤ Calendar.dayOf time' := by
  unfold Calendar.dayOf Calendar.msPerDay
  rw [Int.fdiv_eq_ediv_of_nonneg _ (by decide), Int.fdiv_eq_ediv_of_nonneg _ (by decide)]
  exact Int.ediv_le_ediv (by decide) later

namespace Faithful

variable {d : Daily} {rs : List (Int × Bool)} {last now : Int}

theorem empty (last : Int) : Faithful {} [] last where
  stored := ⟨_, Int.le_refl _, .empty _⟩
  past _ listed := by cases listed

/-- Days that are old now were forgotten no earlier than now. -/
theorem later (faithful : d.Faithful rs last) (forward : last ≤ now) : d.Faithful rs now where
  stored := by
    obtain ⟨first, early, stored⟩ := faithful.stored
    exact ⟨first, Int.le_trans early (Int.sub_le_sub_right (dayOf_mono forward) 6), stored⟩
  past r hr := Int.le_trans (faithful.past r hr) (dayOf_mono forward)

theorem days_prune (faithful : d.Faithful rs now) : Chronicled rs (Calendar.dayOf now - 6) (d.prune now).days := by
  obtain ⟨first, early, stored⟩ := faithful.stored
  have forgotten := stored.forget (Calendar.dayOf now - 6)
  rwa [Int.max_eq_right early] at forgotten

theorem history_eq (faithful : d.Faithful rs now) : d.history now = chronicle rs (Calendar.dayOf now) :=
  faithful.days_prune.eq_chronicle faithful.past

theorem totals_eq (faithful : d.Faithful rs now) : d.totals now = total (chronicle rs (Calendar.dayOf now)) := by
  rw [totals_eq_total, faithful.history_eq]

theorem answer_eq (faithful : d.Faithful rs now) (c : Call) : d.answer now c = answerOf rs (Calendar.dayOf now) c := by
  cases c with
  | record => rfl
  | totals => exact congrArg Answer.totals faithful.totals_eq
  | history => exact congrArg Answer.history faithful.history_eq

theorem afterCall (faithful : d.Faithful rs now) (reaches : Reaches now) (c : Call) :
    (d.afterCall now c).Faithful (rs ++ noted now c) now := by
  have pruned := faithful.days_prune
  have read : (d.prune now).Faithful (rs ++ []) now := by
    rw [List.append_nil]
    exact ⟨⟨_, Int.le_refl _, pruned⟩, faithful.past⟩
  cases c with
  | record well =>
    rw [noted, if_pos reaches]
    refine ⟨⟨_, Int.le_refl _, ?_⟩, fun r hr => ?_⟩
    · show Chronicled _ _ (d.record now well).days
      rw [record_eq]
      exact pruned.record (Int.sub_le_self _ (by decide)) well
    · rcases List.mem_append.1 hr with hr | hr
      · exact faithful.past r hr
      · obtain rfl := List.mem_singleton.1 hr
        exact Int.le_refl _
  | totals => exact read
  | history => exact read

/-- A call without a result records nothing. -/
theorem noted_of_not_reaches (short : ¬ Reaches now) (c : Call) : noted now c = [] := by
  cases c with
  | record well => exact if_neg short
  | totals => rfl
  | history => rfl

/-- The counts know what was recorded also after a call without a result. -/
theorem call (faithful : d.Faithful rs now) (c : Call) :
    (((d.call? now c).map Prod.snd).getD d).Faithful (rs ++ noted now c) now := by
  rw [call?_eq]
  by_cases reaches : Reaches now
  · rw [if_pos reaches]
    exact faithful.afterCall reaches c
  · rw [if_neg reaches, noted_of_not_reaches reaches, List.append_nil]
    exact faithful

/-- Calls one after the other are answered by all that was recorded before each of them. -/
theorem answers_eq (faithful : d.Faithful rs last) {cs : List (Int × Call)} (later : ∀ c ∈ cs, last ≤ c.1)
    (forward : cs.Pairwise fun a b => a.1 ≤ b.1) : d.answers cs = reference rs cs := by
  induction cs generalizing d rs last with
  | nil => rfl
  | cons c cs ih =>
    obtain ⟨first, rest⟩ := List.pairwise_cons.1 forward
    have here := faithful.later (later c List.mem_cons_self)
    have after := here.call c.2
    rw [call?_eq] at after
    rw [answers, reference, call?_eq]
    by_cases reaches : Reaches c.1
    · rw [if_pos reaches] at after
      rw [if_pos reaches, if_pos reaches, here.answer_eq]
      exact congrArg _ (ih after first rest)
    · rw [if_neg reaches] at after
      rw [if_neg reaches, if_neg reaches]
      exact congrArg _ (ih after first rest)

theorem afterCalls (faithful : d.Faithful rs last) {cs : List (Int × Call)} (later : ∀ c ∈ cs, last ≤ c.1)
    (forward : cs.Pairwise fun a b => a.1 ≤ b.1) (ended : ∀ c ∈ cs, c.1 ≤ now) (before : last ≤ now) :
    (d.afterCalls cs).Faithful (rs ++ recorded cs) now := by
  induction cs generalizing d rs last with
  | nil =>
    rw [recorded, List.flatMap_nil, List.append_nil]
    exact faithful.later before
  | cons c cs ih =>
    obtain ⟨first, rest⟩ := List.pairwise_cons.1 forward
    have here := (faithful.later (later c List.mem_cons_self)).call c.2
    rw [recorded, List.flatMap_cons, ← List.append_assoc]
    exact ih here first rest (fun k hk => ended k (List.mem_cons_of_mem c hk)) (ended c List.mem_cons_self)

end Faithful

/-- There is a time before all calls, and before any other time. -/
theorem exists_before {cs : List (Int × Call)} (forward : cs.Pairwise fun a b => a.1 ≤ b.1) (now : Int) :
    ∃ first ≤ now, ∀ c ∈ cs, first ≤ c.1 := by
  cases cs with
  | nil => exact ⟨now, Int.le_refl _, fun _ listed => by cases listed⟩
  | cons c cs =>
    refine ⟨min now c.1, Int.min_le_left .., fun k hk => Int.le_trans (Int.min_le_right ..) ?_⟩
    rcases List.mem_cons.1 hk with rfl | hk
    · exact Int.le_refl _
    · exact (List.pairwise_cons.1 forward).1 k hk

theorem faithful_afterCalls {cs : List (Int × Call)} {now : Int} (forward : cs.Pairwise fun a b => a.1 ≤ b.1)
    (ended : ∀ c ∈ cs, c.1 ≤ now) : (afterCalls {} cs).Faithful (recorded cs) now := by
  obtain ⟨first, early, before⟩ := exists_before forward now
  exact (Faithful.empty first).afterCalls before forward ended early

theorem history?_eq (d : Daily) (now : Int) :
    (d.history? now).map Prod.fst = if Reaches now then some (d.history now) else none := by
  unfold history?
  split <;> rfl

theorem totals?_eq (d : Daily) (now : Int) :
    (d.totals? now).map Prod.fst = if Reaches now then some (d.totals now) else none := by
  unfold totals?
  split <;> rfl

/-- Under a clock that is not set back, a call answers exactly where the calendar can hold the oldest day that is kept,
and every answer is that of all recordings before it. At every such moment the history is what was recorded in the week
that ends today, the totals are its sum, and neither depends on when the counts were read before. -/
theorem answersRecorded (cs : List (Int × Call)) (forward : cs.Pairwise fun a b => a.1 ≤ b.1) :
    answers {} cs = reference [] cs ∧ ∀ now, (∀ c ∈ cs, c.1 ≤ now) →
      ((afterCalls {} cs).history? now).map Prod.fst =
        (if Reaches now then some (chronicle (recorded cs) (Calendar.dayOf now)) else none) ∧
      ((afterCalls {} cs).totals? now).map Prod.fst =
        (if Reaches now then some (total (chronicle (recorded cs) (Calendar.dayOf now))) else none) ∧
      ∀ cs' : List (Int × Call), cs'.Pairwise (fun a b => a.1 ≤ b.1) → (∀ c ∈ cs', c.1 ≤ now) →
        recorded cs' = recorded cs →
          ((afterCalls {} cs').history? now).map Prod.fst = ((afterCalls {} cs).history? now).map Prod.fst ∧
          ((afterCalls {} cs').totals? now).map Prod.fst = ((afterCalls {} cs).totals? now).map Prod.fst := by
  refine ⟨?_, fun now ended => ?_⟩
  · obtain ⟨first, -, before⟩ := exists_before forward 0
    exact (Faithful.empty first).answers_eq before forward
  have here := faithful_afterCalls forward ended
  simp only [history?_eq, totals?_eq]
  rw [here.history_eq, here.totals_eq]
  refine ⟨rfl, rfl, fun cs' forward' ended' same => ?_⟩
  have there := faithful_afterCalls forward' ended'
  rw [same] at there
  rw [there.history_eq, there.totals_eq]
  exact ⟨rfl, rfl⟩

/-- On the first day of the calendar a call has no result. -/
theorem answers_firstDay :
    answers {} [(Calendar.firstInstant, .record true), (Calendar.firstInstant, .history)] = [none, none] := by decide

/-- Two batches on the first day, a look two days later, and another batch. -/
def lookedAt : List (Int × Call) :=
  [(0, .record true), (1000, .record false), (200000000, .totals), (520000000, .record true)]

/-- On the seventh day all is still known, and on the eighth the first day is not; the look in between makes no
difference to either. -/
theorem answersRecorded_lookedAt :
    lookedAt.Pairwise (fun a b => a.1 ≤ b.1) ∧
      answers {} lookedAt = [some .done, some .done, some (.totals ⟨1, 1⟩), some .done] ∧
      ((afterCalls {} lookedAt).history? 604799999).map Prod.fst = some [(0, ⟨1, 1⟩), (6, ⟨1, 0⟩)] ∧
      ((afterCalls {} lookedAt).history? 604800000).map Prod.fst = some [(6, ⟨1, 0⟩)] := by
  have forward : lookedAt.Pairwise fun a b => a.1 ≤ b.1 := by decide
  obtain ⟨told, now⟩ := answersRecorded lookedAt forward
  refine ⟨forward, told.trans (by decide), (now _ (by decide)).1.trans (by decide),
    (now _ (by decide)).1.trans (by decide)⟩

end Daily

end Postroom
