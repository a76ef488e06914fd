import Mathlib.Data.List.Induction
import Mathlib.Data.List.Nodup
import Postroom.Metrics
import Postroom.Proofs.Tables

/-!
# The labels of domains

Three of the instruments count by domain, and share the labels: the first of them to name a domain claims a label for
it, if there is one left. So which label a domain has depends on all that was counted before, by whichever instrument.
Afterwards it never changes: a domain with a label of its own is remembered, and where one had to go without, all
labels are taken.

- `Metrics.Event`, `Metrics.run`: what is counted, and the metrics after it. `Metrics.Recording`: what is counted under
  a domain.
- `Metrics.claimants`: the domains that claim a label, in the order in which they are first named.
- `Metrics.tracked_run`: the first of them have labels. `Metrics.labelOf_append`: no label changes.
- `Metrics.counts_run`, `Metrics.total_run`: each series, and each instrument, has what was recorded.
  `Metrics.shownTotal_run`: what is shown adds up to as much, in words of 64 bits.
- `Metrics.labelled_run`: all of this about the metrics after any events.
-/

namespace Postroom

/-- The instruments that count by domain. -/
def Instrument.byDomain : Instrument → Bool
  | recipientsDelivered | recipientsFailed | sessionFailures => true
  | batches | retries | inFlight => false

namespace Metrics

/-! ### What is counted -/

/-- Something that is counted. -/
inductive Event where
  | batchEnded (t : TrafficClass) (completed : Bool)
  | delivered (domain : String) (n : Nat)
  | recipientFailed (domain : String) (code : Nat)
  | sessionFailed (domain : String) (code : Nat)
  | retryScheduled (lane : Lane)
  | stepTook (step : String) (ms : Float)
  | attemptStarted
  | attemptFinished
  | depth (lane : Lane) (n : Nat)

/-- The metrics after an event. -/
def after (m : Metrics) : Event → Metrics
  | .batchEnded t completed => m.batchEnded t completed
  | .delivered domain n => m.delivered domain n
  | .recipientFailed domain code => m.recipientFailed domain code
  | .sessionFailed domain code => m.sessionFailed domain code
  | .retryScheduled lane => m.retryScheduled lane
  | .stepTook step ms => m.stepTook step ms
  | .attemptStarted => m.attemptStarted
  | .attemptFinished => m.attemptFinished
  | .depth lane n => m.setDepth lane n

/-- The metrics under some settings after events. -/
def run (c : LabelConfig) (es : List Event) : Metrics := es.foldl after { labels := c }

/-- An amount that is counted under a domain. -/
structure Recording where
  instrument : Instrument
  domain : String
  /-- The reply code, where it is a label, too. -/
  code : Option Nat
  amount : Nat

/-- The labels of a recording, if its domain has this one. -/
def Recording.labels (r : Recording) (label : String) : List (String × String) :=
  match r.code with
  | none => [("domain", label)]
  | some code => [("code", toString code), ("domain", label)]

/-- The series of a recording, if its domain has this label. -/
def Recording.series (r : Recording) (label : String) : Series := ⟨r.instrument, r.labels label⟩

/-- What an event records under a domain. Where nobody was delivered, nothing is. -/
def Event.recording? : Event → Option Recording
  | .delivered domain n => if n = 0 then none else some ⟨.recipientsDelivered, domain, none, n⟩
  | .recipientFailed domain code => some ⟨.recipientsFailed, domain, some code, 1⟩
  | .sessionFailed domain code => some ⟨.sessionFailures, domain, some code, 1⟩
  | _ => none

/-- What events record. -/
def recordings (es : List Event) : List Recording := es.filterMap Event.recording?

variable {m : Metrics} {c : LabelConfig} {e : Event} {es : List Event} {r : Recording} {d : String}

/-- A recording adds its amount, under the label that the domain has by then. -/
theorem after_of_recording (h : e.recording? = some r) :
    m.after e = (m.labelFor r.domain).2.add r.instrument (r.labels (m.labelFor r.domain).1) r.amount := by
  cases e with
  | delivered domain n =>
    rw [Event.recording?] at h
    split at h
    · cases h
    · next some =>
      cases h
      rw [after, delivered, if_neg some]
      rfl
  | recipientFailed domain code => cases h; rfl
  | sessionFailed domain code => cases h; rfl
  | _ => cases h

/-- Where nothing is recorded under a domain, the labels stay, and only other instruments count. -/
theorem after_of_no_recording (h : e.recording? = none) :
    (m.after e).labels = m.labels ∧ (m.after e).tracked = m.tracked ∧
      ((m.after e).counts = m.counts ∨ ∃ i labels n, i.byDomain = false ∧
        (m.after e).counts = m.counts.modify ⟨i, labels⟩ 0 (· + n)) := by
  cases e with
  | delivered domain n =>
    have none : n = 0 := by
      by_contra some
      rw [Event.recording?, if_neg some] at h
      cases h
    rw [after, delivered, if_pos none]
    exact ⟨rfl, rfl, .inl rfl⟩
  | batchEnded t completed =>
    cases completed <;> exact ⟨rfl, rfl, .inr ⟨.batches, _, 1, rfl, rfl⟩⟩
  | recipientFailed domain code => cases h
  | sessionFailed domain code => cases h
  | retryScheduled lane => exact ⟨rfl, rfl, .inr ⟨.retries, _, 1, rfl, rfl⟩⟩
  | stepTook step ms => exact ⟨rfl, rfl, .inl rfl⟩
  | attemptStarted => exact ⟨rfl, rfl, .inr ⟨.inFlight, _, 1, rfl, rfl⟩⟩
  | attemptFinished => exact ⟨rfl, rfl, .inr ⟨.inFlight, _, -1, rfl, rfl⟩⟩
  | depth lane n => exact ⟨rfl, rfl, .inl rfl⟩

theorem byDomain_of_recording (h : e.recording? = some r) : r.instrument.byDomain := by
  cases e with
  | delivered domain n =>
    rw [Event.recording?] at h
    split at h <;> cases h
    rfl
  | recipientFailed domain code => cases h; rfl
  | sessionFailed domain code => cases h; rfl
  | _ => cases h

/-! ### Claims -/

theorem labels_labelFor (m : Metrics) (d : String) : (m.labelFor d).2.labels = m.labels := by
  unfold labelFor
  split
  · rfl
  · split <;> rfl

theorem counts_labelFor (m : Metrics) (d : String) : (m.labelFor d).2.counts = m.counts := by
  unfold labelFor
  split
  · rfl
  · split <;> rfl

/-- A domain claims a label unless it has one or none is left. -/
theorem tracked_labelFor (m : Metrics) (d : String) :
    (m.labelFor d).2.tracked =
      if d ∉ m.labels.priority ∧ d ∉ m.tracked ∧ m.tracked.length < m.labels.cardinality then m.tracked ++ [d]
      else m.tracked := by
  unfold labelFor
  by_cases known : d ∈ m.labels.priority ∨ d ∈ m.tracked
  · rw [if_pos (by simpa using known), if_neg (by tauto)]
  · rw [if_neg (by simpa using known)]
    by_cases left : m.tracked.length < m.labels.cardinality
    · rw [if_pos left, if_pos (by tauto)]
    · rw [if_neg left, if_neg (by tauto)]

/-- A domain goes by its own name if it is of high priority or has a label once it has asked for one. -/
theorem label_labelFor (m : Metrics) (d : String) :
    (m.labelFor d).1 =
      if d ∈ m.labels.priority ∨ d ∈ (m.labelFor d).2.tracked then d else otherDomain := by
  rw [tracked_labelFor]
  unfold labelFor
  by_cases known : d ∈ m.labels.priority ∨ d ∈ m.tracked
  · rw [if_pos (by simpa using known)]
    split <;> grind
  · rw [if_neg (by simpa using known)]
    split <;> grind

/-- The domain that claims a label by an event. -/
def claim? (c : LabelConfig) (e : Event) : Option String :=
  (e.recording?.map (·.domain)).filter fun d => d ∉ c.priority

/-- The domains that claim a label, in the order in which they are first named. -/
def claimants (c : LabelConfig) (es : List Event) : List String := (es.filterMap (claim? c)).eraseDups

/-- The label of a domain that was named in some events. -/
def labelOf (c : LabelConfig) (es : List Event) (d : String) : String :=
  if d ∈ c.priority ∨ d ∈ (claimants c es).take c.cardinality then d else otherDomain

theorem claim?_eq_some_iff : claim? c e = some d ↔ d ∉ c.priority ∧ ∃ r, e.recording? = some r ∧ r.domain = d := by
  rw [claim?, Option.filter_eq_some_iff, Option.map_eq_some_iff, decide_eq_true_iff, and_comm]

theorem mem_claimants : d ∈ claimants c es ↔ d ∉ c.priority ∧ ∃ r ∈ recordings es, r.domain = d := by
  simp only [claimants, List.mem_eraseDups, List.mem_filterMap, claim?_eq_some_iff, recordings]
  grind

theorem claimants_append (c : LabelConfig) (es es' : List Event) : claimants c es <+: claimants c (es ++ es') := by
  rw [claimants, claimants, List.filterMap_append, List.eraseDups_append]
  exact List.prefix_append ..

theorem eraseDups_concat (ds : List String) (d : String) :
    (ds ++ [d]).eraseDups = if d ∈ ds then ds.eraseDups else ds.eraseDups ++ [d] := by
  rw [List.eraseDups_append, List.removeAll]
  split
  · next known =>
    rw [List.filter_cons_of_neg (by simpa using known), List.filter_nil, List.eraseDups_nil, List.append_nil]
  · next new =>
    rw [List.filter_cons_of_pos (by simpa using new), List.filter_nil, List.eraseDups_cons, List.filter_nil,
      List.eraseDups_nil]

theorem claimants_of_no_claim (h : claim? c e = none) (es : List Event) : claimants c (es ++ [e]) = claimants c es := by
  simp [claimants, h]

/-- Only the first claim of a domain counts. -/
theorem claimants_of_claim (h : claim? c e = some d) (es : List Event) :
    claimants c (es ++ [e]) = if d ∈ claimants c es then claimants c es else claimants c es ++ [d] := by
  have named : (es ++ [e]).filterMap (claim? c) = es.filterMap (claim? c) ++ [d] := by simp [h]
  simp only [claimants, named, eraseDups_concat, List.mem_eraseDups]

theorem nodup_claimants (c : LabelConfig) (es : List Event) : (claimants c es).Nodup := by
  induction es using List.reverseRecOn with
  | nil => exact List.nodup_nil
  | append_singleton es e ih =>
    rcases h : claim? c e with - | d
    · rwa [claimants_of_no_claim h]
    · rw [claimants_of_claim h]
      split
      · exact ih
      · next new => exact List.nodup_append_comm.1 (List.nodup_cons.2 ⟨new, ih⟩)

/-- The first so many domains stay the first. -/
theorem mem_take_append {n : Nat} {ds ds' : List String} (named : d ∈ ds) :
    d ∈ (ds ++ ds').take n ↔ d ∈ ds.take n := by
  rcases Nat.le_total n ds.length with enough | short
  · rw [List.take_append_of_le_length enough]
  · rw [List.take_of_length_le short, List.take_append, List.take_of_length_le short, List.mem_append]
    exact iff_of_true (.inl named) named

/-- One more domain has a label if it is new and there is one left. -/
theorem take_claim (n : Nat) (ds : List String) (d : String) :
    (if d ∈ ds then ds else ds ++ [d]).take n =
      if d ∉ ds.take n ∧ (ds.take n).length < n then ds.take n ++ [d] else ds.take n := by
  by_cases left : ds.length < n
  · have all : ds.take n = ds := List.take_of_length_le (Nat.le_of_lt left)
    rw [all]
    by_cases known : d ∈ ds
    · rw [if_pos known, if_neg (fun new => new.1 known), all]
    · rw [if_neg known, if_pos ⟨known, left⟩, List.take_of_length_le]
      rw [List.length_append]
      exact left
  · have full : ¬ (d ∉ ds.take n ∧ (ds.take n).length < n) := fun new =>
      Nat.ne_of_lt new.2 (List.length_take_of_le (Nat.not_lt.1 left))
    rw [if_neg full]
    split
    · rfl
    · exact List.take_append_of_le_length (Nat.not_lt.1 left)

/-- Once a domain is named, its label does not change. -/
theorem labelOf_append (named : r ∈ recordings es) (es' : List Event) :
    labelOf c (es ++ es') r.domain = labelOf c es r.domain := by
  rw [labelOf, labelOf]
  by_cases high : r.domain ∈ c.priority
  · rw [if_pos (.inl high), if_pos (.inl high)]
  · obtain ⟨more, split⟩ := claimants_append c es es'
    simp only [← split, mem_take_append (mem_claimants.2 ⟨high, r, named, rfl⟩)]

/-! ### Labels after events -/

theorem run_snoc (c : LabelConfig) (es : List Event) (e : Event) : run c (es ++ [e]) = (run c es).after e :=
  List.foldl_append ..

theorem labels_run (c : LabelConfig) (es : List Event) : (run c es).labels = c := by
  induction es using List.reverseRecOn with
  | nil => rfl
  | append_singleton es e ih =>
    rw [run_snoc]
    rcases h : e.recording? with - | r
    · exact (after_of_no_recording h).1.trans ih
    · rw [after_of_recording h]
      exact (labels_labelFor ..).trans ih

theorem recordings_snoc (es : List Event) (e : Event) :
    recordings (es ++ [e]) = recordings es ++ e.recording?.toList := by
  rw [recordings, List.filterMap_append]
  cases h : e.recording? <;> simp [recordings, h]

/-- The first domains that claim a label have one. -/
theorem tracked_run (c : LabelConfig) (es : List Event) :
    (run c es).tracked = (claimants c es).take c.cardinality := by
  induction es using List.reverseRecOn with
  | nil => rw [claimants, List.filterMap_nil, List.eraseDups_nil, List.take_nil]; rfl
  | append_singleton es e ih =>
    rw [run_snoc]
    rcases h : e.recording? with - | r
    · rw [claimants_of_no_claim (by rw [claim?, h]; rfl), ← ih]
      exact (after_of_no_recording h).2.1
    · rw [after_of_recording h]
      show ((run c es).labelFor r.domain).2.tracked = _
      rw [tracked_labelFor, labels_run, ih]
      by_cases high : r.domain ∈ c.priority
      · rw [if_neg fun claims => claims.1 high, claimants_of_no_claim]
        rw [claim?, h, Option.map_some, Option.filter_some_neg (by simpa using high)]
      · rw [claimants_of_claim (claim?_eq_some_iff.2 ⟨high, r, h, rfl⟩)]
        rw [take_claim]
        simp only [high, not_false_iff, true_and]

theorem mem_tracked_run : d ∈ (run c es).tracked ↔ d ∈ (claimants c es).take c.cardinality := by rw [tracked_run]

/-- A domain that is named by an event is counted under the label that it has afterwards. -/
theorem label_of_recording (h : e.recording? = some r) (es : List Event) :
    ((run c es).labelFor r.domain).1 = labelOf c (es ++ [e]) r.domain := by
  have tracked := tracked_run c (es ++ [e])
  rw [run_snoc, after_of_recording h] at tracked
  rw [label_labelFor, labels_run, labelOf, ← tracked]
  rfl

/-- A domain that was named has this label from then on. -/
theorem label_run (named : r ∈ recordings es) : ((run c es).labelFor r.domain).1 = labelOf c es r.domain := by
  have h : (Event.recipientFailed r.domain 0).recording? = some ⟨.recipientsFailed, r.domain, some 0, 1⟩ := rfl
  exact (label_of_recording h es).trans (labelOf_append named [_])

/-! ### Counts -/

/-- What was recorded in a series, by the labels that the domains have in the end. -/
def booked (c : LabelConfig) (es : List Event) (s : Series) : Nat :=
  sumOf (((recordings es).filter fun r => r.series (labelOf c es r.domain) = s).map (·.amount))

theorem booked_of_no_recording (h : e.recording? = none) (es : List Event) (s : Series) :
    booked c (es ++ [e]) s = booked c es s := by
  rw [booked, booked, recordings_snoc, h, Option.toList_none, List.append_nil]
  congr 2
  exact List.filter_congr fun r named => by rw [labelOf_append named]

/-- A recording is in the series of its domain's label, and all the earlier ones stay where they are. -/
theorem booked_of_recording (h : e.recording? = some r) (es : List Event) (s : Series) :
    booked c (es ++ [e]) s =
      booked c es s + if r.series ((run c es).labelFor r.domain).1 = s then r.amount else 0 := by
  rw [booked, booked, recordings_snoc, h, Option.toList_some, List.filter_append, List.map_append, sumOf_append,
    label_of_recording h]
  congr 1
  · congr 2
    exact List.filter_congr fun r named => by rw [labelOf_append named]
  · by_cases same : r.series (labelOf c (es ++ [e]) r.domain) = s <;> simp [same]

/-- The count of a series is what was recorded in it. -/
theorem counts_run (c : LabelConfig) (es : List Event) {s : Series} (named : s.instrument.byDomain) :
    ((run c es).counts.find? s).getD 0 = booked c es s := by
  induction es using List.reverseRecOn with
  | nil => rfl
  | append_singleton es e ih =>
    rw [run_snoc]
    rcases h : e.recording? with - | r
    · rw [booked_of_no_recording h, ← ih]
      obtain ⟨-, -, same | ⟨i, labels, n, other, changed⟩⟩ := after_of_no_recording (m := run c es) h
      · rw [same]
      · rw [changed, Table.find?_modify, if_neg]
        rintro rfl
        exact absurd named (by simp [other])
    · rw [booked_of_recording h, after_of_recording h, Int.natCast_add, ← ih]
      show ((((run c es).labelFor r.domain).2.counts.modify _ 0 _).find? s).getD 0 = _
      rw [Table.find?_modify, counts_labelFor]
      show (if r.series _ = s then _ else _ : Option Int).getD 0 = _
      split
      · next same => rw [← same]; rfl
      · exact (Int.add_zero _).symm

theorem distinct_run (c : LabelConfig) (es : List Event) : (run c es).counts.Distinct := by
  induction es using List.reverseRecOn with
  | nil => exact Table.distinct_empty
  | append_singleton es e ih =>
    rw [run_snoc]
    rcases h : e.recording? with - | r
    · obtain ⟨-, -, same | ⟨i, labels, n, other, changed⟩⟩ := after_of_no_recording (m := run c es) h
      · rwa [same]
      · rw [changed]
        exact Table.distinct_insert ih ..
    · rw [after_of_recording h]
      refine Table.distinct_insert ?_ ..
      rwa [counts_labelFor]

/-- What the counts of an instrument add up to. -/
def total (i : Instrument) (counts : Table Series Int) : Nat :=
  sumOf ((counts.entries.filter (·.1.instrument = i)).map (·.2.toNat))

/-- What they add up to as they are shown. -/
def shownTotal (i : Instrument) (counts : Table Series Int) : Nat :=
  sumOf ((counts.entries.filter (·.1.instrument = i)).map fun e => (shownCount i e.2).toNat)

/-- What was recorded by an instrument. -/
def recorded (i : Instrument) (es : List Event) : Nat :=
  sumOf (((recordings es).filter (·.instrument = i)).map (·.amount))

/-- What is added to a count is added to the total of its instrument. -/
theorem total_modify (i : Instrument) (counts : Table Series Int) (s : Series) (n : Int) :
    total i (counts.modify s 0 (· + n)) + (if s.instrument = i then ((counts.find? s).getD 0).toNat else 0) =
      total i counts + if s.instrument = i then ((counts.find? s).getD 0 + n).toNat else 0 := by
  have sum := counts.sumOf_map_insert (fun e => if e.1.instrument = i then e.2.toNat else 0) s
    ((counts.find? s).getD 0 + n)
  simp only [total, sumOf_filter_map, decide_eq_true_iff, Table.modify]
  rw [← sum]
  congr 1
  cases counts.find? s with
  | none => simp
  | some old => rfl

/-- Under all labels together an instrument has counted what was recorded. -/
theorem total_run (c : LabelConfig) (es : List Event) {i : Instrument} (named : i.byDomain) :
    total i (run c es).counts = recorded i es := by
  induction es using List.reverseRecOn with
  | nil => rfl
  | append_singleton es e ih =>
    rw [run_snoc, recorded, recordings_snoc]
    rcases h : e.recording? with - | r
    · rw [Option.toList_none, List.append_nil]
      refine Eq.trans ?_ ih
      obtain ⟨-, -, same | ⟨j, labels, n, other, changed⟩⟩ := after_of_no_recording (m := run c es) h
      · rw [same]
      · have apart : j ≠ i := fun same => by simp [same, named] at other
        have sum := total_modify i (run c es).counts ⟨j, labels⟩ n
        simp only [apart, if_false, Nat.add_zero] at sum
        rw [changed, sum]
    · rw [after_of_recording h, Option.toList_some, List.filter_append, List.map_append, sumOf_append]
      have sum := total_modify i (run c es).counts (r.series ((run c es).labelFor r.domain).1) r.amount
      rw [counts_run c es (byDomain_of_recording h), ih, recorded] at sum
      show total i (((run c es).labelFor r.domain).2.counts.modify (r.series _) 0 (· + (r.amount : Int))) = _
      rw [counts_labelFor]
      by_cases same : r.instrument = i
      · simp [same, Recording.series] at sum ⊢
        omega
      · simpa [same, Recording.series] using sum

/-- A count is shown as a word. -/
theorem shownTotal_eq (c : LabelConfig) (es : List Event) {i : Instrument} (named : i.byDomain) :
    shownTotal i (run c es).counts =
      sumOf (((run c es).counts.entries.filter (·.1.instrument = i)).map fun e => e.2.toNat % twoTo 64) := by
  rw [shownTotal]
  congr 1
  refine List.map_congr_left fun e listed => ?_
  obtain ⟨entered, same⟩ := List.mem_filter.1 listed
  have ofInstrument : e.1.instrument = i := of_decide_eq_true same
  have count : e.2 = booked c es e.1 := by
    rw [← counts_run c es (ofInstrument.symm ▸ named), Table.find?_of_mem (distinct_run c es) entered]
    rfl
  have apart : i ≠ .inFlight := fun same => by simp [same, Instrument.byDomain] at named
  rw [shownCount, if_neg apart, count]
  rfl

/-- What is shown adds up to what was recorded, in words of 64 bits. -/
theorem shownTotal_run (c : LabelConfig) (es : List Event) {i : Instrument} (named : i.byDomain) :
    shownTotal i (run c es).counts % twoTo 64 = recorded i es % twoTo 64 := by
  rw [← total_run c es named, shownTotal_eq c es named, total]
  exact sumOf_map_mod ..

/-- As long as all that was recorded fits into a word, it is what is shown. -/
theorem shownTotal_of_fits (c : LabelConfig) (es : List Event) {i : Instrument} (named : i.byDomain)
    (fits : recorded i es < twoTo 64) : shownTotal i (run c es).counts = recorded i es := by
  have less : shownTotal i (run c es).counts ≤ recorded i es := by
    rw [← total_run c es named, shownTotal_eq c es named, total]
    exact sumOf_map_le (fun e => Nat.mod_le ..) _
  have word := shownTotal_run c es named
  rwa [Nat.mod_eq_of_lt fits, Nat.mod_eq_of_lt (Nat.lt_of_le_of_lt less fits)] at word

/-! ### All together -/

/-- What metrics say of the domains after some events. -/
structure Labelled (c : LabelConfig) (es : List Event) (m : Metrics) : Prop where
  /-- Where a domain was recorded, it has the label under which that was done, and no other. -/
  kept : ∀ es₁ e es₂ r, es = es₁ ++ e :: es₂ → e.recording? = some r →
    (m.labelFor r.domain).1 = ((run c es₁).labelFor r.domain).1
  /-- This is its own name, or the one that all the others share. -/
  named : ∀ d, (m.labelFor d).1 = d ∨ (m.labelFor d).1 = otherDomain
  /-- Domains of high priority have their own, and claim none. -/
  high : ∀ d ∈ c.priority, (m.labelFor d).1 = d ∧ d ∉ m.tracked
  /-- Of the others, the first that were recorded have their own, -/
  first : m.tracked = (claimants c es).take c.cardinality
  /-- each once, and no more than there may be, -/
  bounded : m.tracked.Nodup ∧ m.tracked.length ≤ c.cardinality
  /-- and whoever else was recorded has none. -/
  rest : ∀ r ∈ recordings es, r.domain ∉ c.priority → r.domain ∉ m.tracked → (m.labelFor r.domain).1 = otherDomain
  /-- To deliver to nobody is no recording. -/
  nobody : ∀ d, m.after (.delivered d 0) = m
  /-- A series has what was recorded for domains with its label. -/
  series : ∀ s : Series, s.instrument.byDomain → (m.counts.find? s).getD 0 =
    (sumOf (((recordings es).filter fun r => r.series (m.labelFor r.domain).1 = s).map (·.amount)) : Int)
  /-- All series of an instrument together have what it recorded, -/
  total : ∀ i : Instrument, i.byDomain → total i m.counts = recorded i es
  /-- and show it, as words, -/
  shown : ∀ i : Instrument, i.byDomain → shownTotal i m.counts % twoTo 64 = recorded i es % twoTo 64
  /-- which is all of it unless it is more than a word can hold. -/
  whole : ∀ i : Instrument, i.byDomain → recorded i es < twoTo 64 → shownTotal i m.counts = recorded i es

/-- Under any settings and after any events, a domain is counted under one label for ever, its own if it is of high
priority or among the first that are recorded, and no recording is lost. -/
theorem labelled_run (c : LabelConfig) (es : List Event) : Labelled c es (run c es) where
  kept es₁ e es₂ r split h := by
    have before : r ∈ recordings (es₁ ++ [e]) := by simp [recordings_snoc, h]
    have now : r ∈ recordings es := List.mem_filterMap.2 ⟨e, by simp [split], h⟩
    rw [label_run now, label_of_recording h, ← labelOf_append before es₂, split, List.append_assoc]
    rfl
  named d := by
    rw [label_labelFor]
    split
    · exact .inl rfl
    · exact .inr rfl
  high d high := by
    rw [label_labelFor, labels_run, if_pos (.inl high), mem_tracked_run]
    exact ⟨rfl, fun listed => (mem_claimants.1 (List.mem_of_mem_take listed)).1 high⟩
  first := tracked_run c es
  bounded := by
    rw [tracked_run]
    exact ⟨(nodup_claimants c es).sublist (List.take_sublist ..), List.length_take_le ..⟩
  rest r named low other := by
    rw [label_run named, labelOf, if_neg]
    rw [mem_tracked_run] at other
    exact fun known => known.elim low other
  nobody d := rfl
  series s named := by
    rw [counts_run c es named, booked]
    congr 3
    exact List.filter_congr fun r named => by rw [label_run named]
  total i named := total_run c es named
  shown i named := shownTotal_run c es named
  whole i named fits := shownTotal_of_fits c es named fits

/-- One label, and a domain of high priority that needs none: to deliver to nobody claims nothing, so the other domain
has the label and the first one has to do without. -/
example : let es : List Event := [.delivered "a.org" 0, .sessionFailed "vip.org" 421, .recipientFailed "b.org" 550,
      .delivered "a.org" 3, .delivered "b.org" 2]
    let m := run { cardinality := 1, priority := ["vip.org"] } es
    m.tracked = ["b.org"] ∧ m.counts.entries.map (fun e => (e.1.labels.map Prod.snd, e.2)) =
      [(["421", "vip.org"], 1), (["550", "b.org"], 1), (["other"], 3), (["b.org"], 2)] := by decide +kernel

end Metrics

end Postroom
