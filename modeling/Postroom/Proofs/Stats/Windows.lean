import Mathlib.Data.List.Dedup
import Mathlib.Data.List.Nodup
import Mathlib.Data.String.Basic
import Postroom.Proofs.Tables
import Postroom.Stats.DomainWindow

/-!
# Windows and what was recorded in them

Old samples go at three places: where their domain records again, where a new domain comes in, and at every look. What
is stored therefore depends on all calls, but what a look tells does not: whatever has gone was too old already for the
oldest time that any later look can ask for. This needs a clock that is not set back, and a calendar that reaches back
as far as the horizon and the window do; where it does not, a call has no answer.

- `DomainWindow.since`, `DomainWindow.recordsOf`: the samples from a time on, and those of one domain.
- `DomainWindow.stored`: the samples that are kept of a domain; after each operation by `DomainWindow.stored_prune`,
  `DomainWindow.stored_record_self` and `DomainWindow.stored_record_other`.
- `DomainActivity.Sums`, `DomainWindow.Tells`: a row, and all rows, read off the recordings.
- `DomainWindow.Call`, `DomainWindow.afterCalls`: calls in any order. `DomainWindow.Faithful`: what the window knows
  after them.
- `DomainWindow.tells_recorded`: what a look tells is what was recorded.
-/

namespace Postroom

/-- More attempts come first, then the name. -/
def DomainActivity.Ahead (a b : DomainActivity) : Prop :=
  b.attempts < a.attempts ∨ a.attempts = b.attempts ∧ a.domain.name < b.domain.name

/-- The row says what some samples add up to. -/
structure DomainActivity.Sums (row : DomainActivity) (samples : List Sample) : Prop where
  attempts : row.attempts = samples.length
  delivered : row.delivered = sumOf (samples.map (·.delivered))
  failed : row.failed = sumOf (samples.map (·.failed))
  mean : sumOf (samples.map (·.latency)) < twoTo 64 →
    row.meanLatency = sumOf (samples.map (·.latency)) / samples.length

theorem Domain.le_iff {a b : Domain} : a.le b ↔ a.name ≤ b.name := by
  rw [Domain.le, bne_iff_ne]
  exact compare_le_iff_le

namespace DomainWindow

theorem sums_activity (d : Domain) (samples : List Sample) : (activity d samples).Sums samples where
  attempts := rfl
  delivered := rfl
  failed := rfl
  mean fits := congrArg (· / samples.length) (Nat.mod_eq_of_lt fits)

/-! ### Samples in order -/

/-- The samples that are no older than `first`. -/
def since (first : Int) (samples : List Sample) : List Sample := samples.filter (first ≤ ·.time)

theorem mem_since {first : Int} {samples : List Sample} {s : Sample} :
    s ∈ since first samples ↔ s ∈ samples ∧ first ≤ s.time := by
  rw [since, List.mem_filter, decide_eq_true_iff]

theorem since_append (first : Int) (samples samples' : List Sample) :
    since first (samples ++ samples') = since first samples ++ since first samples' := List.filter_append ..

/-- Once old samples have gone, to ask for later ones is to ask for them among all. -/
theorem since_since {first first' : Int} (later : first ≤ first') (samples : List Sample) :
    since first' (since first samples) = since first' samples := by
  unfold since
  rw [List.filter_filter]
  congr 1
  funext s
  grind

theorem sorted_since {first : Int} {samples : List Sample} (sorted : samples.Pairwise (·.time ≤ ·.time)) :
    (since first samples).Pairwise (·.time ≤ ·.time) := sorted.filter _

/-- Of samples in order, those at the front that are old are all that are. -/
theorem recent_eq_since {samples : List Sample} (sorted : samples.Pairwise (·.time ≤ ·.time)) (cutoff : Int) :
    recent cutoff samples = since cutoff samples := by
  induction samples with
  | nil => rfl
  | cons s samples ih =>
    obtain ⟨first, rest⟩ := List.pairwise_cons.1 sorted
    by_cases old : s.time < cutoff
    · rw [recent, List.dropWhile_cons_of_pos (by simpa using old), since, List.filter_cons_of_neg (by simpa using old)]
      exact ih rest
    · have all : ∀ s' ∈ s :: samples, cutoff ≤ s'.time := fun s' listed => by
        rcases List.mem_cons.1 listed with rfl | listed
        · exact Int.not_lt.1 old
        · exact Int.le_trans (Int.not_lt.1 old) (first s' listed)
      rw [recent, List.dropWhile_cons_of_neg (by simpa using old), since, List.filter_eq_self.2]
      exact fun s' listed => decide_eq_true (all s' listed)

/-! ### What is stored of a domain -/

variable {w : DomainWindow} {d d' : Domain} {s : Sample} {cutoff now window : Int}

/-- The samples that are kept of a domain, none where it is not known. -/
def stored (w : DomainWindow) (d : Domain) : List Sample := (w.samples.find? d).getD []

theorem stored_of_mem (distinct : w.samples.Distinct) {e : Domain × List Sample} (he : e ∈ w.samples.entries) :
    w.stored e.1 = e.2 := by
  rw [stored, Table.find?_of_mem distinct he, Option.getD_some]

/-- A domain with samples has an entry. -/
theorem mem_of_stored (known : w.stored d ≠ []) : (d, w.stored d) ∈ w.samples.entries := by
  rcases found : w.samples.entries.find? fun e => e.1 = d with - | e
  · exact absurd (by rw [stored, Table.find?, found]; rfl) known
  · have same : e.1 = d := by simpa using List.find?_some found
    rw [stored, Table.find?, found, ← same]
    exact List.mem_of_find?_eq_some found

theorem mem_entries_prune {e : Domain × List Sample} :
    e ∈ (w.prune cutoff).samples.entries ↔
      e.2 ≠ [] ∧ ∃ old ∈ w.samples.entries, (old.1, recent cutoff old.2) = e := by
  rw [prune, List.mem_filter, List.mem_map, and_comm]
  simp

theorem distinct_prune (distinct : w.samples.Distinct) : (w.prune cutoff).samples.Distinct := by
  refine List.Nodup.sublist (List.filter_sublist.map Prod.fst) ?_
  rw [List.map_map]
  exact distinct

theorem stored_prune (distinct : w.samples.Distinct) (cutoff : Int) (d : Domain) :
    (w.prune cutoff).stored d = recent cutoff (w.stored d) := by
  by_cases none : recent cutoff (w.stored d) = []
  · -- an entry would be that of the domain before, which has lost all its samples
    rw [none]
    by_contra known
    obtain ⟨-, old, listed, same⟩ := mem_entries_prune.1 (mem_of_stored known)
    obtain ⟨rfl, samples⟩ := Prod.mk.inj same
    rw [← stored_of_mem distinct listed, none] at samples
    exact known samples.symm
  · have known : w.stored d ≠ [] := fun empty => none (by rw [empty]; rfl)
    exact stored_of_mem (distinct_prune distinct) (mem_entries_prune.2 ⟨none, _, mem_of_stored known, rfl⟩)

theorem distinct_record (distinct : w.samples.Distinct) : (w.record d s).samples.Distinct := by
  unfold record
  refine Table.distinct_insert ?_ ..
  split
  · exact distinct
  · exact distinct_prune distinct

/-- What is kept of the domain that records. -/
theorem stored_record_self (w : DomainWindow) (d : Domain) (s : Sample) (distinct : w.samples.Distinct) :
    (w.record d s).stored d = recent (s.time - w.horizon) (w.stored d ++ [s]) := by
  simp only [record, stored, Table.find?_modify, if_true, Option.getD_some]
  split
  · rfl
  · next new =>
    have unknown : w.stored d = [] := by rw [stored, Table.find?_eq_none_of_not_contains new]; rfl
    have pruned := stored_prune distinct (s.time - w.horizon) d
    rw [unknown] at pruned
    rw [show ((w.prune _).samples.find? d).getD [] = (w.prune _).stored d from rfl, pruned,
      show (w.samples.find? d).getD [] = w.stored d from rfl, unknown]
    rfl

/-- What is kept of the others, which lose their old samples if the domain is new. -/
theorem stored_record_other (distinct : w.samples.Distinct) (other : d ≠ d') :
    (w.record d s).stored d' = w.stored d' ∨
      (w.record d s).stored d' = recent (s.time - w.horizon) (w.stored d') := by
  rw [← stored_prune distinct]
  simp only [record, stored, Table.find?_modify, if_neg other]
  split
  · exact .inl rfl
  · exact .inr rfl

/-! ### Rows -/

theorem busier_iff {a b : DomainActivity} :
    busier a b ↔ b.attempts < a.attempts ∨ a.attempts = b.attempts ∧ a.domain.name ≤ b.domain.name := by
  rw [busier, Bool.or_eq_true, Bool.and_eq_true, decide_eq_true_iff, decide_eq_true_iff, Domain.le_iff]

/-- The rows are in the order of their attempts, and where these are equal in that of their domains. -/
theorem sorted_rows (w : DomainWindow) (now window : Int) :
    (w.rows now window).Pairwise fun a b =>
      b.attempts < a.attempts ∨ a.attempts = b.attempts ∧ a.domain.name ≤ b.domain.name := by
  refine (List.pairwise_mergeSort (fun a b c => ?_) (fun a b => ?_) _).imp busier_iff.1
  · rw [busier_iff, busier_iff, busier_iff]
    rintro (more | ⟨same, before⟩) (more' | ⟨same', before'⟩)
    · exact .inl (Nat.lt_trans more' more)
    · exact .inl (same' ▸ more)
    · exact .inl (same ▸ more')
    · exact .inr ⟨same.trans same', before.trans before'⟩
  · rw [Bool.or_eq_true, busier_iff, busier_iff]
    rcases Nat.lt_trichotomy a.attempts b.attempts with less | same | more
    · exact .inr (.inl less)
    · exact (le_total a.domain.name b.domain.name).imp (fun before => .inr ⟨same, before⟩) fun before =>
        .inr ⟨same.symm, before⟩
    · exact .inl (.inl more)

/-- A domain has a row if it has samples in the window. -/
theorem told_iff {inside : List Sample} {row : DomainActivity} :
    (if inside.isEmpty then none else some (activity d inside)) = some row ↔
      inside ≠ [] ∧ row = activity d inside := by
  cases inside with
  | nil => exact ⟨(fun told => absurd told.symm (Option.some_ne_none row)), fun told => absurd rfl told.1⟩
  | cons s samples =>
    refine ⟨fun told => ⟨List.cons_ne_nil s samples, (Option.some.inj told).symm⟩, fun told => ?_⟩
    rw [told.2]
    rfl

/-- The rows are those of the domains with samples in the window. -/
theorem mem_rows (distinct : w.samples.Distinct) (now window : Int) {row : DomainActivity} :
    row ∈ w.rows now window ↔ ∃ d, since (now - min window w.horizon) (w.stored d) ≠ [] ∧
      row = activity d (since (now - min window w.horizon) (w.stored d)) := by
  rw [rows, List.mem_mergeSort, List.mem_filterMap]
  constructor
  · rintro ⟨e, he, told⟩
    refine ⟨e.1, ?_⟩
    rw [stored_of_mem distinct he]
    exact told_iff.1 told
  · rintro ⟨d, some, rfl⟩
    exact ⟨(d, w.stored d), mem_of_stored fun none => some (by rw [none]; rfl), told_iff.2 ⟨some, rfl⟩⟩

theorem nodup_rows (distinct : w.samples.Distinct) (now window : Int) :
    ((w.rows now window).map (·.domain)).Nodup := by
  refine ((List.mergeSort_perm _ _).map _).nodup_iff.2 (List.pairwise_map.2 ?_)
  refine (List.pairwise_map.1 distinct).filterMap _ fun e e' other row told row' told' => ?_
  rw [(told_iff.1 told).2, (told_iff.1 told').2]
  exact other

/-! ### What was recorded -/

variable {rs rs' : List (Domain × Sample)} {last : Int}

/-- What was recorded of a domain, among all that was. -/
def recordsOf (d : Domain) (rs : List (Domain × Sample)) : List Sample := (rs.filter (·.1 = d)).map Prod.snd

/-- The domains with recordings from a time on. -/
def domainsSince (first : Int) (rs : List (Domain × Sample)) : List Domain :=
  ((rs.filter (first ≤ ·.2.time)).map Prod.fst).dedup

theorem recordsOf_append (d : Domain) (rs rs' : List (Domain × Sample)) :
    recordsOf d (rs ++ rs') = recordsOf d rs ++ recordsOf d rs' := by
  rw [recordsOf, List.filter_append, List.map_append]
  rfl

theorem mem_recordsOf : s ∈ recordsOf d rs ↔ (d, s) ∈ rs := by
  rw [recordsOf, List.mem_map]
  constructor
  · rintro ⟨r, hr, rfl⟩
    obtain ⟨listed, same⟩ := List.mem_filter.1 hr
    rwa [← of_decide_eq_true same]
  · exact fun listed => ⟨(d, s), List.mem_filter.2 ⟨listed, decide_eq_true rfl⟩, rfl⟩

theorem since_recordsOf_ne_nil {first : Int} :
    since first (recordsOf d rs) ≠ [] ↔ ∃ s, (d, s) ∈ rs ∧ first ≤ s.time := by
  simp only [← mem_recordsOf, ← mem_since]
  exact ⟨List.exists_mem_of_ne_nil _, fun ⟨_, listed⟩ => List.ne_nil_of_mem listed⟩

theorem mem_domainsSince {first : Int} : d ∈ domainsSince first rs ↔ since first (recordsOf d rs) ≠ [] := by
  rw [domainsSince, List.mem_dedup, List.mem_map, since_recordsOf_ne_nil]
  constructor
  · rintro ⟨r, hr, rfl⟩
    obtain ⟨listed, recent⟩ := List.mem_filter.1 hr
    exact ⟨r.2, listed, of_decide_eq_true recent⟩
  · rintro ⟨s, listed, recent⟩
    exact ⟨(d, s), List.mem_filter.2 ⟨listed, decide_eq_true recent⟩, rfl⟩

theorem nodup_domainsSince {first : Int} : (domainsSince first rs).Nodup := List.nodup_dedup _

/-- The rows say what was recorded from `first` on: one for each domain of which something was, with what its recordings
from then on add up to, in the order of the attempts and then of the domains. -/
structure Tells (rs : List (Domain × Sample)) (first : Int) (rows : List DomainActivity) : Prop where
  sorted : rows.Pairwise DomainActivity.Ahead
  once : (rows.map (·.domain)).Nodup
  listed : ∀ d, d ∈ rows.map (·.domain) ↔ ∃ s, (d, s) ∈ rs ∧ first ≤ s.time
  sums : ∀ row ∈ rows, row.Sums (since first (recordsOf row.domain rs))

/-- Until `last`, the window has of each domain what was recorded from a time on that is always in the horizon. -/
structure Faithful (w : DomainWindow) (rs : List (Domain × Sample)) (last : Int) : Prop where
  distinct : w.samples.Distinct
  sorted : rs.Pairwise fun a b => a.2.time ≤ b.2.time
  past : ∀ r ∈ rs, r.2.time ≤ last
  stored : ∀ d, ∃ first ≤ last - w.horizon, w.stored d = since first (recordsOf d rs)

namespace Faithful

theorem empty (horizon last : Int) : Faithful { horizon := horizon } [] last where
  distinct := Table.distinct_empty
  sorted := .nil
  past _ listed := by cases listed
  stored _ := ⟨_, Int.le_refl _, rfl⟩

/-- What is old now was dropped no earlier than now. -/
theorem later (faithful : w.Faithful rs last) (forward : last ≤ now) : w.Faithful rs now where
  distinct := faithful.distinct
  sorted := faithful.sorted
  past r hr := Int.le_trans (faithful.past r hr) forward
  stored d := by
    obtain ⟨first, early, stored⟩ := faithful.stored d
    exact ⟨first, Int.le_trans early (Int.sub_le_sub_right forward _), stored⟩

theorem sorted_recordsOf (faithful : w.Faithful rs now) (d : Domain) :
    (recordsOf d rs).Pairwise (·.time ≤ ·.time) := List.pairwise_map.2 (faithful.sorted.filter _)

/-- To ask for samples in the horizon is to ask for what was recorded. -/
theorem since_stored (faithful : w.Faithful rs now) {first : Int} (inside : now - w.horizon ≤ first) (d : Domain) :
    since first (w.stored d) = since first (recordsOf d rs) := by
  obtain ⟨kept, early, stored⟩ := faithful.stored d
  rw [stored, since_since (Int.le_trans early inside)]

theorem recent_stored (faithful : w.Faithful rs now) (d : Domain) :
    recent (now - w.horizon) (w.stored d) = since (now - w.horizon) (recordsOf d rs) := by
  obtain ⟨kept, early, stored⟩ := faithful.stored d
  rw [recent_eq_since (by rw [stored]; exact sorted_since (faithful.sorted_recordsOf d)),
    faithful.since_stored (Int.le_refl _)]

theorem prune (faithful : w.Faithful rs now) : (w.prune (now - w.horizon)).Faithful rs now where
  distinct := distinct_prune faithful.distinct
  sorted := faithful.sorted
  past := faithful.past
  stored d := ⟨now - w.horizon, Int.le_refl _, by rw [stored_prune faithful.distinct, faithful.recent_stored]⟩

theorem record (faithful : w.Faithful rs s.time) (d : Domain) : (w.record d s).Faithful (rs ++ [(d, s)]) s.time where
  distinct := distinct_record faithful.distinct
  sorted := List.pairwise_append.2 ⟨faithful.sorted, List.pairwise_singleton .., fun r hr r' hr' => by
    rw [List.mem_singleton.1 hr']
    exact faithful.past r hr⟩
  past r hr := by
    rcases List.mem_append.1 hr with hr | hr
    · exact faithful.past r hr
    · exact Int.le_of_eq (congrArg (·.2.time) (List.mem_singleton.1 hr))
  stored d' := by
    rw [show (w.record d s).horizon = w.horizon from by unfold DomainWindow.record; split <;> rfl, recordsOf_append]
    by_cases same : d = d'
    · subst same
      have new : recordsOf d [(d, s)] = [s] := by simp [recordsOf]
      refine ⟨s.time - w.horizon, Int.le_refl _, ?_⟩
      rw [stored_record_self w d s faithful.distinct, new, recent_eq_since, since_append, since_append,
        faithful.since_stored (Int.le_refl _)]
      obtain ⟨kept, -, stored⟩ := faithful.stored d
      rw [stored]
      refine List.pairwise_append.2 ⟨sorted_since (faithful.sorted_recordsOf d), List.pairwise_singleton .., ?_⟩
      intro s' hs' s'' hs''
      rw [List.mem_singleton.1 hs'']
      exact faithful.past _ (mem_recordsOf.1 (mem_since.1 hs').1)
    · have none : recordsOf d' [(d, s)] = [] := by simp [recordsOf, same]
      rw [none, List.append_nil]
      rcases stored_record_other (s := s) faithful.distinct same with unchanged | dropped
      · rw [unchanged]
        exact faithful.stored d'
      · exact ⟨_, Int.le_refl _, by rw [dropped, faithful.recent_stored]⟩

theorem snapshot (faithful : w.Faithful rs now) (window : Int) : (w.snapshot now window).2.Faithful rs now := by
  show (if Calendar.Holds (now - w.horizon) then w.prune (now - w.horizon) else w).Faithful rs now
  split
  · exact faithful.prune
  · exact faithful

/-- The rows of a look are read off what was recorded in the window. -/
theorem mem_rows (faithful : w.Faithful rs now) {row : DomainActivity} :
    row ∈ (w.prune (now - w.horizon)).rows now window ↔
      since (now - min window w.horizon) (recordsOf row.domain rs) ≠ [] ∧
        row = activity row.domain (since (now - min window w.horizon) (recordsOf row.domain rs)) := by
  have stored (d) : since (now - min window w.horizon) ((w.prune (now - w.horizon)).stored d) =
      since (now - min window w.horizon) (recordsOf d rs) :=
    faithful.prune.since_stored (Int.sub_le_sub_left (Int.min_le_right ..) _) d
  rw [DomainWindow.mem_rows faithful.prune.distinct]
  simp only [show (w.prune (now - w.horizon)).horizon = w.horizon from rfl, stored]
  constructor
  · rintro ⟨d, some, told⟩
    obtain rfl : row.domain = d := congrArg (·.domain) told
    exact ⟨some, told⟩
  · exact fun told => ⟨_, told⟩

theorem tells (faithful : w.Faithful rs now) (window : Int) :
    Tells rs (now - min window w.horizon) ((w.prune (now - w.horizon)).rows now window) := by
  have once := nodup_rows faithful.prune.distinct now window
  refine ⟨?_, once, fun d => ?_, fun row listed => ?_⟩
  · refine ((sorted_rows _ now window).and (List.pairwise_map.1 once)).imp fun ⟨before, other⟩ => ?_
    refine before.imp_right fun ⟨same, before⟩ => ⟨same, lt_of_le_of_ne before fun name => other ?_⟩
    exact congrArg Domain.mk name
  · rw [← since_recordsOf_ne_nil, List.mem_map]
    constructor
    · rintro ⟨row, listed, rfl⟩
      exact (faithful.mem_rows.1 listed).1
    · exact fun some =>
        ⟨activity d (since (now - min window w.horizon) (recordsOf d rs)), faithful.mem_rows.2 ⟨some, rfl⟩, rfl⟩
  · rw [(faithful.mem_rows.1 listed).2]
    exact sums_activity ..

/-- What is kept at a look is a domain for each that has recordings in the horizon. -/
theorem trackedDomains_prune (faithful : w.Faithful rs now) :
    (w.prune (now - w.horizon)).trackedDomains = (domainsSince (now - w.horizon) rs).length := by
  have keys : ((w.prune (now - w.horizon)).samples.keys).Perm (domainsSince (now - w.horizon) rs) := by
    refine (List.perm_ext_iff_of_nodup faithful.prune.distinct nodup_domainsSince).2 fun d => ?_
    rw [mem_domainsSince, ← faithful.recent_stored, ← stored_prune faithful.distinct, Table.keys, List.mem_map]
    constructor
    · rintro ⟨e, listed, rfl⟩
      rw [stored_of_mem faithful.prune.distinct listed]
      exact (mem_entries_prune.1 listed).1
    · exact fun known => ⟨_, mem_of_stored known, rfl⟩
  exact (List.length_map _).symm.trans keys.length_eq

end Faithful

/-! ### Calls -/

/-- A call on the window. -/
inductive Call where
  | record (d : Domain) (delivered failed latency : Nat)
  | snapshot (window : Int)
  deriving DecidableEq

/-- The window after a call at a time. A recording that would end outside the calendar leaves it as it is. -/
def afterCall (w : DomainWindow) (now : Int) : Call → DomainWindow
  | .record d delivered failed latency => (w.record? d ⟨now, delivered, failed, latency⟩).getD w
  | .snapshot window => (w.snapshot now window).2

/-- The window after calls, each at its time. -/
def afterCalls (w : DomainWindow) (cs : List (Int × Call)) : DomainWindow :=
  cs.foldl (fun w c => w.afterCall c.1 c.2) w

/-- What a call at a time records under a horizon. -/
def noted (horizon now : Int) : Call → List (Domain × Sample)
  | .record d delivered failed latency =>
    if Calendar.Holds (now - horizon) then [(d, ⟨now, delivered, failed, latency⟩)] else []
  | .snapshot _ => []

/-- What calls record under a horizon. -/
def recorded (horizon : Int) (cs : List (Int × Call)) : List (Domain × Sample) :=
  cs.flatMap fun c => noted horizon c.1 c.2

theorem horizon_afterCall (w : DomainWindow) (now : Int) (c : Call) : (w.afterCall now c).horizon = w.horizon := by
  cases c with
  | record d delivered failed latency =>
    simp only [afterCall, record?]
    split
    · show (w.record d _).horizon = w.horizon
      unfold record
      split <;> rfl
    · rfl
  | snapshot window =>
    show (if Calendar.Holds (now - w.horizon) then w.prune (now - w.horizon) else w).horizon = w.horizon
    split <;> rfl

theorem horizon_afterCalls (w : DomainWindow) (cs : List (Int × Call)) : (w.afterCalls cs).horizon = w.horizon := by
  induction cs generalizing w with
  | nil => rfl
  | cons c cs ih => exact (ih _).trans (horizon_afterCall ..)

namespace Faithful

theorem afterCall (faithful : w.Faithful rs now) (c : Call) :
    (w.afterCall now c).Faithful (rs ++ noted w.horizon now c) now := by
  cases c with
  | record d delivered failed latency =>
    simp only [DomainWindow.afterCall, record?, noted]
    split
    · exact faithful.record (s := ⟨now, delivered, failed, latency⟩) d
    · rw [List.append_nil]
      exact faithful
  | snapshot window =>
    rw [noted, List.append_nil]
    exact faithful.snapshot window

theorem afterCalls (faithful : w.Faithful rs last) {cs : List (Int × Call)} (later : ∀ c ∈ cs, last ≤ c.1)
    (forward : cs.Pairwise fun a b => a.1 ≤ b.1) (ended : ∀ c ∈ cs, c.1 ≤ now) (before : last ≤ now) :
    (w.afterCalls cs).Faithful (rs ++ recorded w.horizon cs) now := by
  induction cs generalizing w rs last with
  | nil =>
    rw [recorded, List.flatMap_nil, List.append_nil]
    exact faithful.later before
  | cons c cs ih =>
    obtain ⟨first, rest⟩ := List.pairwise_cons.1 forward
    have here := (faithful.later (later c List.mem_cons_self)).afterCall c.2
    have there := ih here first rest (fun k hk => ended k (List.mem_cons_of_mem c hk)) (ended c List.mem_cons_self)
    rw [horizon_afterCall, List.append_assoc] at there
    exact there

end Faithful

/-- The window after calls under a clock that is not set back knows what they recorded. -/
theorem faithful_afterCalls (horizon : Int) {cs : List (Int × Call)} (forward : cs.Pairwise fun a b => a.1 ≤ b.1)
    (ended : ∀ c ∈ cs, c.1 ≤ now) :
    (afterCalls { horizon := horizon } cs).Faithful (recorded horizon cs) now := by
  cases cs with
  | nil => exact Faithful.empty horizon now
  | cons c cs =>
    refine (Faithful.empty horizon c.1).afterCalls (fun k hk => ?_) forward ended (ended c List.mem_cons_self)
    rcases List.mem_cons.1 hk with rfl | hk
    · exact Int.le_refl _
    · exact (List.pairwise_cons.1 forward).1 k hk

theorem snapshot_rows_iff {rows : List DomainActivity} :
    (w.snapshot now window).1 = some rows ↔
      (Calendar.Holds (now - w.horizon) ∧ Calendar.Holds (now - min window w.horizon)) ∧
        rows = (w.prune (now - w.horizon)).rows now window := by
  unfold snapshot
  by_cases reaches : Calendar.Holds (now - w.horizon)
  · by_cases inside : Calendar.Holds (now - min window w.horizon)
    · simp [reaches, inside, eq_comm]
    · simp [inside]
  · simp [reaches]

/-- Rows in order are equal if they are the same. -/
theorem eq_of_ahead {rows rows' : List DomainActivity} (sorted : rows.Pairwise DomainActivity.Ahead)
    (sorted' : rows'.Pairwise DomainActivity.Ahead) (same : ∀ row, row ∈ rows ↔ row ∈ rows') : rows = rows' := by
  have asymm : ∀ {a b : DomainActivity}, a.Ahead b → ¬ b.Ahead a := by
    rintro a b (more | ⟨level, before⟩) (more' | ⟨level', before'⟩)
    · exact Nat.lt_asymm more more'
    · exact Nat.ne_of_lt more level'
    · exact Nat.ne_of_lt more' level
    · exact lt_asymm before before'
  have distinct {rows : List DomainActivity} (sorted : rows.Pairwise DomainActivity.Ahead) : rows.Nodup := by
    refine sorted.imp fun {a b} ahead level => ?_
    subst level
    exact asymm ahead ahead
  refine List.Perm.eq_of_pairwise (fun a b _ _ ahead behind => absurd behind (asymm ahead)) sorted sorted' ?_
  exact (List.perm_ext_iff_of_nodup (distinct sorted) (distinct sorted')).2 same

namespace Faithful

variable {w' : DomainWindow}

/-- The row of a domain depends on its own recordings only. -/
theorem mem_rows_of_same (faithful : w.Faithful rs now) (faithful' : w'.Faithful rs' now)
    (level : w'.horizon = w.horizon) {row : DomainActivity}
    (same : recordsOf row.domain rs' = recordsOf row.domain rs) :
    row ∈ (w'.prune (now - w'.horizon)).rows now window ↔ row ∈ (w.prune (now - w.horizon)).rows now window := by
  rw [faithful'.mem_rows, faithful.mem_rows, level, same]

theorem snapshot_of_same (faithful : w.Faithful rs now) (faithful' : w'.Faithful rs' now)
    (level : w'.horizon = w.horizon) (same : ∀ d, recordsOf d rs' = recordsOf d rs) :
    (w'.snapshot now window).1 = (w.snapshot now window).1 := by
  have rows := eq_of_ahead (faithful'.tells window).sorted (faithful.tells window).sorted fun row =>
    faithful.mem_rows_of_same faithful' level (same row.domain)
  refine Option.ext fun told => ?_
  rw [snapshot_rows_iff, snapshot_rows_iff, rows, level]

end Faithful

/-- What the window answers at a time where it has all that was recorded. -/
structure Answers (w : DomainWindow) (rs : List (Domain × Sample)) (now : Int) : Prop where
  /-- What is recorded is taken where the calendar reaches back as far as the horizon. -/
  taken : ∀ d s, s.time = now → ((w.record? d s).isSome ↔ Calendar.Holds (now - w.horizon))
  /-- There are rows where it reaches back as far as the window, too. -/
  told : ∀ window, (w.snapshot now window).1.isSome ↔
    Calendar.Holds (now - w.horizon) ∧ Calendar.Holds (now - min window w.horizon)
  /-- The rows say what was recorded in the window. -/
  rows : ∀ window rows, (w.snapshot now window).1 = some rows → Tells rs (now - min window w.horizon) rows
  /-- After a look the domains that are kept are those with recordings in the horizon. -/
  tracked : ∀ window, Calendar.Holds (now - w.horizon) →
    (w.snapshot now window).2.trackedDomains = (domainsSince (now - w.horizon) rs).length

/-- Under a clock that is not set back, a look tells what was recorded in its window, whatever calls there were before,
and has rows wherever the calendar reaches back far enough. The row of a domain depends on the recordings of this domain
only, and all rows together on those of every domain, in whichever order and between whichever looks they came. -/
theorem tells_recorded (horizon : Int) {cs : List (Int × Call)} (forward : cs.Pairwise fun a b => a.1 ≤ b.1) {now : Int}
    (ended : ∀ c ∈ cs, c.1 ≤ now) :
    (afterCalls { horizon := horizon } cs).horizon = horizon ∧
      (afterCalls { horizon := horizon } cs).Answers (recorded horizon cs) now ∧
      ∀ cs' : List (Int × Call), cs'.Pairwise (fun a b => a.1 ≤ b.1) → (∀ c ∈ cs', c.1 ≤ now) → ∀ window,
        (∀ rows rows', ((afterCalls { horizon := horizon } cs).snapshot now window).1 = some rows →
          ((afterCalls { horizon := horizon } cs').snapshot now window).1 = some rows' →
          ∀ d, recordsOf d (recorded horizon cs') = recordsOf d (recorded horizon cs) →
            ∀ row, row.domain = d → (row ∈ rows' ↔ row ∈ rows)) ∧
        ((∀ d, recordsOf d (recorded horizon cs') = recordsOf d (recorded horizon cs)) →
          ((afterCalls { horizon := horizon } cs').snapshot now window).1 =
            ((afterCalls { horizon := horizon } cs).snapshot now window).1) := by
  have kept (cs) : (afterCalls { horizon := horizon } cs).horizon = horizon := horizon_afterCalls ..
  have here := faithful_afterCalls horizon forward ended
  refine ⟨kept cs, ⟨fun d s same => ?_, fun window => ?_, fun window rows told => ?_, fun window reaches => ?_⟩,
    fun cs' forward' ended' window => ?_⟩
  · rw [record?, same]
    split
    · next reaches => exact ⟨fun _ => reaches, fun _ => rfl⟩
    · next short => exact ⟨(fun none => absurd none Bool.false_ne_true), fun reaches => absurd reaches short⟩
  · rw [Option.isSome_iff_exists]
    simp only [snapshot_rows_iff, exists_eq_right]
  · obtain ⟨-, rfl⟩ := snapshot_rows_iff.1 told
    exact here.tells window
  · refine Eq.trans ?_ here.trackedDomains_prune
    show (if Calendar.Holds _ then _ else _ : DomainWindow).trackedDomains = _
    rw [if_pos reaches]
  · have there := faithful_afterCalls horizon forward' ended'
    have level := (kept cs').trans (kept cs).symm
    constructor
    · rintro rows rows' told told' d same row rfl
      obtain ⟨-, rfl⟩ := snapshot_rows_iff.1 told
      obtain ⟨-, rfl⟩ := snapshot_rows_iff.1 told'
      exact here.mem_rows_of_same there level same
    · exact here.snapshot_of_same there level

/-- Two domains record within a second, with a look in between, and the first one again after it. -/
def attempted : List (Int × Call) :=
  [(0, .record ⟨"a.org"⟩ 1 0 30), (600, .record ⟨"b.org"⟩ 0 2 50), (1001, .snapshot 100),
    (1500, .record ⟨"b.org"⟩ 1 1 71)]

/-- A second and a half later one domain is left of the two, with both attempts in a window as long as the horizon and
one in a shorter window. -/
theorem tells_recorded_attempted :
    attempted.Pairwise (fun a b => a.1 ≤ b.1) ∧ (∀ c ∈ attempted, c.1 ≤ 1600) ∧
      ((afterCalls { horizon := 1000 } attempted).snapshot 1600 1000).1 = some [⟨⟨"b.org"⟩, 2, 1, 3, 60⟩] ∧
      ((afterCalls { horizon := 1000 } attempted).snapshot 1600 500).1 = some [⟨⟨"b.org"⟩, 1, 1, 1, 71⟩] ∧
      ((afterCalls { horizon := 1000 } attempted).snapshot 1600 500).2.trackedDomains = 1 := by
  have forward : attempted.Pairwise fun a b => a.1 ≤ b.1 := by decide
  have ended : ∀ c ∈ attempted, c.1 ≤ 1600 := by decide
  have known := (tells_recorded 1000 forward ended).2.1
  have tracked := known.tracked 500 (by decide)
  exact ⟨forward, ended, by decide +kernel, by decide +kernel, tracked.trans (by decide +kernel)⟩

/-- A horizon of some 285000 years reaches back further than the calendar, and then nothing is ever recorded. -/
example : (record? { horizon := 9000000000000000 } ⟨"a.org"⟩ ⟨1709294400000, 1, 0, 10⟩).isNone := by decide

end DomainWindow

end Postroom
