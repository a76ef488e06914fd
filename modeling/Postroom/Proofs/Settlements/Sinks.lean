import Mathlib.Data.List.Induction
import Postroom.Proofs.Custody.Recipients
import Postroom.Proofs.Runs.Aborts
import Postroom.Proofs.Settlements.Written

/-!
# Sinks and final results agree

Whatever happens, the results that the sink of a batch has kept are, in order, the final results of the batch and
then what is written of its settlement under way. Only where that settlement was cut off does the sink keep more
than what is final, and the batch then has ended with a fault.

- `Custody.Summed`: the result of a batch that ended well lists its final results.
- `World.agrees_run`: what the sink has kept after a history.
- `World.SinkAgrees`, `World.sinkAgrees_run`: what this means for the handles.
-/

namespace Postroom

namespace Custody

/-- The result of a batch that ended well lists its final results. -/
def Summed (c : Custody) : Prop :=
  ∀ n r, c.ledger.verdict? n = some (.ok r) → r.recipients = c.ledger.settledOf n

theorem Summed.change {R : Task → Outcome → Prop} {c d : Custody} (h : Change R c d) (owned : Owned c)
    (hc : Summed c) : Summed d := by
  intro n r ended
  cases h with
  | move m => exact hc n r ended
  | enter s nonempty =>
    rw [Ledger.verdict?_enter] at ended
    rw [Ledger.settledOf_enter]
    exact hc n r ended
  | @settle g e l k L s =>
    rw [Ledger.verdict?_settle] at ended
    have other : s.task.ticket ≠ n := by
      rintro rfl
      have unended := (Ledger.isOpen_iff.1 owned.of_live.1).2
      rw [show Holding.task (.settlement s) = s.task from rfl, ended] at unended
      cases unended
    rw [Ledger.settledOf_settle_of_ne _ _ other]
    exact hc n r ended
  | complete t done =>
    rw [Ledger.complete, Ledger.settledOf_resolve]
    rw [Ledger.complete, Ledger.verdict?_resolve] at ended
    split at ended
    · next same =>
      cases ended
      rw [← same.1]
      rfl
    · exact hc n r ended
  | fail t cause =>
    rw [Ledger.settledOf_resolve]
    rw [Ledger.verdict?_resolve] at ended
    split at ended
    · cases ended
    · exact hc n r ended

theorem Summed.leads {R : Task → Outcome → Prop} {c d : Custody} (h : Leads R c d) (owned : Owned c)
    (hc : Summed c) : Summed d :=
  owned.keeps (fun _ _ step owned hc => hc.change step owned) h hc

end Custody

namespace Office

theorem isPersistence_ownFault (t : Task) (message : String) :
    (ownFault t (.persistence message)).isPersistence := by
  unfold ownFault
  split
  · exact Fault.isPersistence_abortedBy _ _
  · rfl

theorem verdict?_recordRefused {o : Office} {k : Nat} {s : Settlement} (message : String)
    (found : o.settlement? k = some s) (unended : o.ledger.isOpen s.task.ticket) :
    (o.recordRefused k message).ledger.verdict? s.task.ticket =
      some (.error (ownFault s.task (.persistence message))) := by
  have ended := verdict?_abortAndFail (o := o.removeSettlement k) (t := s.task) (.persistence message) unended
  unfold recordRefused
  rw [found]
  dsimp only
  split
  · rw [ledger_attemptFinished]
    exact ended
  · exact ended

end Office

namespace World

open Office

variable {w : World} {h : Happening} {n : Nat}

/-- A batch of which the settlement is cut off ends with a fault. -/
theorem verdict?_of_cutsOff (regular : w.custody.Regular) (owned : w.custody.Owned) {y : Settlement}
    (hy : y ∈ w.office.settlements) (cuts : CutsOff h y) :
    ∃ cause, (w.after h).office.ledger.verdict? y.task.ticket = some (.error cause) := by
  have unended : w.office.ledger.isOpen y.task.ticket :=
    isOpen_of_live owned (x := .settlement y) (mem_holdings_settlement.2 hy)
  rcases cuts with ⟨message, rfl⟩ | ⟨abandons, background⟩
  · have found : w.office.settlement? y.number = some y :=
      Numbered.find?_of_mem (nodup_settlements regular) hy
    exact ⟨_, verdict?_recordRefused message found unended⟩
  · obtain ⟨numbers, rfl, listed⟩ := Happening.abandons_iff.1 abandons
    refine ⟨.cancelled, verdict?_abandon (List.mem_append_right _ ?_) unended⟩
    exact List.mem_map_of_mem (List.mem_filter.2 ⟨hy, by rw [decide_eq_true listed, background]; rfl⟩)

/-- Nothing is kept, and nothing becomes final, when a settlement is cut off. -/
theorem quiet_of_cutsOff {y : Settlement} (cuts : CutsOff h y) :
    w.accepts h = none ∧ w.settles? h = none := by
  rcases cuts with ⟨message, rfl⟩ | ⟨abandons, -⟩
  · exact ⟨rfl, rfl⟩
  · obtain ⟨numbers, rfl, -⟩ := Happening.abandons_iff.1 abandons
    exact ⟨rfl, rfl⟩

/-! ### Histories -/

/-- Along a history, the settlement `y` of the batch `n` was cut off; what was written of it the sink has kept
beyond the final results, and the batch has ended with a fault. -/
def BrokenOff (start : World) (hs : List Happening) (n : Nat) : Prop :=
  ∃ ks h js y, hs = ks ++ h :: js ∧ (start.run ks).heldOf n = [.settlement y] ∧ CutsOff h y ∧
    start.recordsOf hs n = (start.run hs).office.ledger.settledOf n ++ y.written ∧
    ∃ cause, (start.run hs).office.ledger.verdict? n = some (.error cause)

variable {start : World}

/-- After every history, the sink of a batch has kept the final results and what is written of the settlement
under way, or that was cut off. -/
theorem agrees_run (regular : start.custody.Regular) (owned : start.custody.Owned)
    (none : start.office.ledger.settledOf n = [] ∧ start.writtenOf n = []) (hs : List Happening)
    (sink : (start.run hs).HasSink n) :
    start.recordsOf hs n = (start.run hs).office.ledger.settledOf n ++ (start.run hs).writtenOf n ∨
      BrokenOff start hs n := by
  induction hs using List.reverseRecOn with
  | nil =>
    refine .inl ?_
    rw [run_nil, none.1, none.2]
    rfl
  | append_singleton hs h ih =>
    have regular' := regular_run regular hs
    have owned' := owned_run regular owned hs
    have last : start.run (hs ++ [h]) = (start.run hs).after h := run_append start hs [h]
    have one : (start.run hs).recordsOf [h] n = keptFor n ((start.run hs).accepts h) := List.append_nil _
    rw [last] at sink
    rcases ih (sink.of_after owned') with agrees | ⟨ks, k, js, y, rfl, held, cuts, kept, cause, ended⟩
    · by_cases whole : ∀ y ∈ (start.run hs).settling n, ¬ CutsOff h y
      · refine .inl ?_
        rw [recordsOf_append, one, last, settledOf_after owned', agrees, List.append_assoc, List.append_assoc,
          writtenOf_after regular' owned' sink whole]
      · obtain ⟨y, cut⟩ := not_forall.1 whole
        obtain ⟨hy, cuts⟩ := Classical.not_imp.1 cut
        obtain ⟨listed, rfl⟩ := mem_settling.1 hy
        have cuts := not_not.1 cuts
        obtain ⟨accepts, settles⟩ := quiet_of_cutsOff cuts
        obtain ⟨cause, ended⟩ := verdict?_of_cutsOff regular' owned' listed cuts
        refine .inr ⟨hs, h, [], y, rfl, ?_, cuts, ?_, cause, ?_⟩
        · exact heldOf_of_live owned' (x := .settlement y) (mem_holdings_settlement.2 listed)
        · rw [recordsOf_append, one, last, settledOf_after owned', agrees, accepts, settles,
            writtenOf_of_mem owned' listed]
          simp only [keptFor, finalFor, List.append_nil]
        · rw [last]
          exact ended
    · obtain ⟨accepts, settles⟩ := quiet_of_ended owned' ended h
      refine .inr ⟨ks, k, js ++ [h], y, ?_, held, cuts, ?_, cause, ?_⟩
      · rw [List.append_assoc]
        rfl
      · rw [recordsOf_append, one, last, settledOf_after owned', kept, accepts, settles, List.append_nil,
          List.append_nil]
      · rw [last]
        exact verdict?_after regular' h ended

/-- Once a batch has ended, its records and its final results stay as they are. -/
theorem still_run (regular : w.custody.Regular) (owned : w.custody.Owned) {v : Verdict}
    (ended : w.office.ledger.verdict? n = some v) (hs : List Happening) : w.recordsOf hs n = [] ∧
      (w.run hs).office.ledger.settledOf n = w.office.ledger.settledOf n ∧
      (w.run hs).office.ledger.verdict? n = some v := by
  induction hs generalizing w with
  | nil => exact ⟨rfl, rfl, ended⟩
  | cons h hs ih =>
    obtain ⟨accepts, settles⟩ := quiet_of_ended owned ended h
    obtain ⟨records, settled, verdict⟩ := ih (regular_after regular h) (owned_after regular owned h)
      (verdict?_after regular h ended)
    refine ⟨?_, ?_, verdict⟩
    · rw [recordsOf, accepts, records, List.append_nil]
    · rw [run_cons, settled, settledOf_after owned, settles, List.append_nil]

/-- A settlement that is left is an old one, perhaps with one more of its results written. -/
theorem old_of_pending (regular : w.custody.Regular) {y : Settlement} (hy : y ∈ w.pending h) :
    ∃ z ∈ w.office.settlements, z.number = y.number ∧ z.task = y.task ∧ z.purpose = y.purpose ∧
      z.results = y.results := by
  have same : y ∈ w.office.settlements → ∃ z ∈ w.office.settlements, z.number = y.number ∧ z.task = y.task ∧
      z.purpose = y.purpose ∧ z.results = y.results := fun hy => ⟨y, hy, rfl, rfl, rfl, rfl⟩
  cases h with
  | recordAccepted k =>
    simp only [pending, Office.advanced] at hy
    split at hy
    · exact same (List.mem_filter.1 hy).1
    · next r left _ next =>
      obtain ⟨s, found, split⟩ := Option.map_eq_some_iff.1 next
      obtain ⟨z, hz, rfl⟩ := List.mem_map.1 hy
      by_cases it : z.number = k
      · rw [if_pos it]
        obtain rfl := eq_of_settlement? regular found z hz it
        refine ⟨z, hz, rfl, rfl, rfl, ?_⟩
        simp only [Settlement.results, split, List.append_assoc, List.singleton_append]
      · rw [if_neg it]
        exact ⟨z, hz, rfl, rfl, rfl, rfl⟩
    · exact same hy
  | recordRefused k message => exact same (List.mem_filter.1 hy).1
  | abandon numbers => exact same (List.mem_filter.1 hy).1
  | _ => exact same hy

/-- A settlement records what was brought when it began. -/
theorem brought_run (regular : start.custody.Regular) (none : start.office.settlements = [])
    (hs : List Happening) : ∀ y ∈ (start.run hs).office.settlements, ∃ ks h js z, hs = ks ++ h :: js ∧
      (start.run ks).brings? h = some z ∧ z.number = y.number ∧ z.task = y.task ∧ z.purpose = y.purpose ∧
      z.left = y.results := by
  induction hs using List.reverseRecOn with
  | nil =>
    intro y hy
    rw [run_nil, none] at hy
    cases hy
  | append_singleton hs h ih =>
    intro y hy
    rw [run_append, run_cons, run_nil, settlements_after, List.mem_append] at hy
    rcases hy with old | begun
    · obtain ⟨y', hy', number, task, purpose, results⟩ := old_of_pending (regular_run regular hs) old
      obtain ⟨ks, k, js, z, rfl, brings, number', task', purpose', left⟩ := ih y' hy'
      refine ⟨ks, k, js ++ [h], z, ?_, brings, number'.trans number, task'.trans task,
        purpose'.trans purpose, left.trans results⟩
      rw [List.append_assoc]
      rfl
    · obtain ⟨brings, -⟩ := Option.filter_eq_some_iff.1 (Option.mem_toList.1 begun)
      refine ⟨hs, h, [], y, rfl, brings, rfl, rfl, rfl, ?_⟩
      rw [Settlement.results, (brings?_cases brings).1]
      rfl

/-! ### What it means for the handles -/

/-- The results of the batch of a handle that its sink keeps along a history. -/
def recordsFor (start : World) (hs : List Happening) : Handle → List RecipientResult
  | .ticket n => start.recordsOf hs n
  | .ready _ => []

/-- What the sinks of the batches admitted along a history have kept. -/
structure SinkAgrees (start : World) (hs : List Happening) : Prop where
  /-- No result of a batch is final before its sink has kept it. -/
  settled : ∀ s n, (s, .ticket n) ∈ start.admitted hs → s.sink.isSome →
    (start.run hs).office.ledger.settledOf n <+: start.recordsOf hs n
  /-- Until a batch ends, its sink has kept its final results and then what is written of its one live task. -/
  unresolved : ∀ s n, (s, .ticket n) ∈ start.admitted hs → s.sink.isSome →
    (start.run hs).office.verdict? (.ticket n) = none → ∃ x, (start.run hs).heldOf n = [x] ∧
      start.recordsOf hs n = (start.run hs).office.ledger.settledOf n ++ x.written
  /-- What is written of a settlement is the beginning of the results that were brought when it began. -/
  brought : ∀ y ∈ (start.run hs).office.settlements, ∃ ks h js z, hs = ks ++ h :: js ∧
    (start.run ks).brings? h = some z ∧ z.number = y.number ∧ z.task = y.task ∧ z.purpose = y.purpose ∧
    y.written <+: z.left
  /-- The sink of a batch that ends well has kept the results that it ends with, in their order. -/
  completed : ∀ s handle r, (s, handle) ∈ start.admitted hs → s.sink.isSome →
    (start.run hs).office.verdict? handle = some (.ok r) → start.recordsFor hs handle = r.recipients
  /-- The sink of a batch that ends with a fault has kept its final results, or beyond these what was written of
  a settlement that was cut off. -/
  failed : ∀ s n cause, (s, .ticket n) ∈ start.admitted hs → s.sink.isSome →
    (start.run hs).office.verdict? (.ticket n) = some (.error cause) →
      start.recordsOf hs n = (start.run hs).office.ledger.settledOf n ∨
      ∃ ks h js y, hs = ks ++ h :: js ∧ (start.run ks).heldOf n = [.settlement y] ∧ CutsOff h y ∧
        start.recordsOf hs n = (start.run hs).office.ledger.settledOf n ++ y.written
  /-- When a sink refuses a result, no more is kept of the batch and nothing of the settlement becomes final. The
  batch ends because of that, and its run is ended. -/
  refused : ∀ ks k message js y, hs = ks ++ .recordRefused k message :: js →
    (start.run ks).office.settlement? k = some y →
      start.recordsOf hs y.task.ticket = start.recordsOf ks y.task.ticket ∧
      (start.run hs).office.ledger.settledOf y.task.ticket =
        (start.run ks).office.ledger.settledOf y.task.ticket ∧
      (∃ cause, (start.run hs).office.verdict? (.ticket y.task.ticket) = some (.error cause) ∧
        cause.isPersistence) ∧
      ∀ u, y.task.runner = some u →
        (start.run ks).aborts? (.recordRefused k message) = some (u, .persistence message) ∧
        ((start.run ks).after (.recordRefused k message)).office.registry.TurnedAway u

/-- What the refusal of a result means for all that follows. -/
theorem refused_run (regular : w.custody.Regular) (owned : w.custody.Owned) (message : String) {k : Nat}
    {y : Settlement} (found : w.office.settlement? k = some y) (js : List Happening) :
    w.recordsOf (.recordRefused k message :: js) y.task.ticket = [] ∧
      (w.run (.recordRefused k message :: js)).office.ledger.settledOf y.task.ticket =
        w.office.ledger.settledOf y.task.ticket ∧
      (w.run (.recordRefused k message :: js)).office.ledger.verdict? y.task.ticket =
        some (.error (ownFault y.task (.persistence message))) := by
  have unended : w.office.ledger.isOpen y.task.ticket := isOpen_of_live owned (x := .settlement y)
    (mem_holdings_settlement.2 (List.mem_of_find?_eq_some found))
  obtain ⟨records, settled, verdict⟩ := still_run (w := w.after (.recordRefused k message))
    (regular_after regular _) (owned_after regular owned _)
    (verdict?_recordRefused message found unended) js
  refine ⟨records, settled.trans ?_, verdict⟩
  rw [settledOf_after owned]
  exact List.append_nil _

/-- A refusal of the sink ends the run that owns the batch. -/
theorem turnedAway_of_refused {k : Nat} {y : Settlement} (message : String)
    (found : w.office.settlement? k = some y) {u : Runner} (run : y.task.runner = some u) :
    w.aborts? (.recordRefused k message) = some (u, .persistence message) ∧
      (w.after (.recordRefused k message)).office.registry.TurnedAway u := by
  have abort : w.aborts? (.recordRefused k message) = some (u, .persistence message) := by
    rw [aborts?, found, Option.bind_some, endedByRefusal, run]
    rfl
  refine ⟨abort, ?_⟩
  have tallies := (w.proceeds (.recordRefused k message)).tallies
  rw [noted_of_aborts? abort] at tallies
  exact .of_tallies tallies

section Opening

variable (config : Config) (workers : Nat) (wall : Calendar.Moment) (hs : List Happening)

theorem summed_run : ((opening config workers wall).run hs).custody.Summed :=
  Custody.Summed.leads (leads_run (regular_opening config workers wall) (along_of_forall fits_true _ hs))
    (owned_opening config workers wall) nofun

variable {config workers wall hs}

theorem agrees_of_admitted {s : Submission} (admitted : (s, .ticket n) ∈ (opening config workers wall).admitted hs)
    (sink : s.sink.isSome) : (opening config workers wall).recordsOf hs n =
        ((opening config workers wall).run hs).office.ledger.settledOf n ++
          ((opening config workers wall).run hs).writtenOf n ∨
      BrokenOff (opening config workers wall) hs n := by
  have regular := regular_opening config workers wall
  have owned := owned_opening config workers wall
  have known := mem_entered (entered_run regular owned hs).symm
  refine agrees_run regular owned ⟨rfl, rfl⟩ hs fun u entered => ?_
  rw [(known s n).1 admitted] at entered
  cases entered
  exact sink

end Opening

/-- After every history of a new office, the sinks and the final results agree. -/
theorem sinkAgrees_run (config : Config) (workers : Nat) (wall : Calendar.Moment) (hs : List Happening) :
    SinkAgrees (opening config workers wall) hs := by
  have regular₀ := regular_opening config workers wall
  have owned₀ := owned_opening config workers wall
  have owned := owned_run regular₀ owned₀ hs
  refine ⟨?_, ?_, ?_, ?_, ?_, ?_⟩
  · intro s n admitted sink
    rcases agrees_of_admitted admitted sink with same | ⟨ks, h, js, y, -, -, -, kept, -⟩
    · rw [same]
      exact List.prefix_append _ _
    · rw [kept]
      exact List.prefix_append _ _
  · intro s n admitted sink unended
    have single := singleOwner_of_owned owned (entered_run regular₀ owned₀ hs).symm
    obtain ⟨m, x, same, held, -⟩ := single.unresolved s _ admitted unended
    cases same
    refine ⟨x, held, ?_⟩
    rcases agrees_of_admitted admitted sink with same | ⟨ks, h, js, y, -, -, -, -, cause, ended⟩
    · rw [same, writtenOf_of_held held]
    · exact absurd (unended.symm.trans ended) nofun
  · intro y hy
    obtain ⟨ks, h, js, z, split, brings, number, task, purpose, left⟩ := brought_run regular₀ rfl hs y hy
    refine ⟨ks, h, js, z, split, brings, number, task, purpose, ?_⟩
    rw [left]
    exact List.prefix_append _ _
  · intro s handle r admitted sink ended
    cases handle with
    | ready v =>
      obtain ⟨-, rfl⟩ := ready_of_admitted admitted
      cases ended
      rfl
    | ticket n =>
      have none := writtenOf_of_ended (heldOf_of_ended owned ended)
      rcases agrees_of_admitted admitted sink with same | ⟨ks, h, js, y, -, -, -, -, cause, ended'⟩
      · rw [recordsFor, same, none, List.append_nil]
        exact (summed_run config workers wall hs n r ended).symm
      · cases Option.some.inj (Eq.trans (Eq.symm ended) ended')
  · intro s n cause admitted sink ended
    rcases agrees_of_admitted admitted sink with same | ⟨ks, h, js, y, split, held, cuts, kept, -⟩
    · rw [same, writtenOf_of_ended (heldOf_of_ended owned ended), List.append_nil]
      exact .inl rfl
    · exact .inr ⟨ks, h, js, y, split, held, cuts, kept⟩
  · rintro ks k message js y rfl found
    obtain ⟨records, settled, verdict⟩ := refused_run (regular_run regular₀ ks)
      (owned_run regular₀ owned₀ ks) message found js
    rw [← run_append] at settled verdict
    refine ⟨?_, settled, ⟨_, verdict, isPersistence_ownFault _ message⟩, fun u run => ?_⟩
    · rw [recordsOf_append, records, List.append_nil]
    · exact turnedAway_of_refused message found run

end World

end Postroom
