import Postroom.Proofs.Runs.UnderWay

/-!
# Records and final results

What the sinks have kept of a batch, beside what is final of it. The sink keeps the results of a settlement one
by one, and they become final all at once with the last of them. So what is kept and what is final of a batch
differ by what is written of its settlement under way, unless that settlement is cut off: because its sink
refuses a result, or because all that runs is let go of.

- `World.accepts`: the result that a sink keeps when something happens. `World.recordsOf`: those of a batch, along
  a history.
- `World.writtenOf`: what is written of the settlement under way of a batch.
- `World.CutsOff`: a settlement is cut off.
- `World.writtenOf_after`: what a happening does to all three.
-/

namespace Postroom

/-- The results of a live task that its sink has kept. -/
def Holding.written : Holding → List RecipientResult
  | .settlement s => s.written
  | _ => []

/-- A result that is kept, where it is one of the batch of a ticket. -/
def keptFor (n : Nat) : Option (Nat × RecipientResult) → List RecipientResult
  | some (m, r) => if m = n then [r] else []
  | none => []

namespace World

open Office

variable {w : World} {h : Happening} {n : Nat}

/-- The result that a sink keeps, with the ticket of its batch. -/
def accepts (w : World) : Happening → Option (Nat × RecipientResult)
  | .recordAccepted k => (w.office.settlement? k).bind fun s => s.left.head?.map (s.task.ticket, ·)
  | _ => none

/-- The results of a batch that its sink keeps along a history, in their order. -/
def recordsOf : World → List Happening → Nat → List RecipientResult
  | _, [], _ => []
  | w, h :: hs, n => keptFor n (w.accepts h) ++ recordsOf (w.after h) hs n

theorem recordsOf_append (w : World) (hs ks : List Happening) (n : Nat) :
    w.recordsOf (hs ++ ks) n = w.recordsOf hs n ++ (w.run hs).recordsOf ks n := by
  induction hs generalizing w with
  | nil => rfl
  | cons h hs ih =>
    rw [List.cons_append, recordsOf, recordsOf, ih, List.append_assoc]
    rfl

/-- The settlement under way of a batch, if it has one. -/
def settling (w : World) (n : Nat) : List Settlement :=
  w.office.settlements.filter fun s => s.task.ticket = n

/-- What is written of the settlement under way of a batch. -/
def writtenOf (w : World) (n : Nat) : List RecipientResult := (w.settling n).flatMap (·.written)

theorem mem_settling {s : Settlement} :
    s ∈ w.settling n ↔ s ∈ w.office.settlements ∧ s.task.ticket = n := by
  rw [settling, List.mem_filter, decide_eq_true_iff]

theorem settling_sublist (w : World) (n : Nat) :
    ((w.settling n).map Holding.settlement).Sublist (w.heldOf n) := by
  have held : (w.settling n).map Holding.settlement =
      (w.office.settlements.map Holding.settlement).filter fun x => x.task.ticket = n := by
    rw [settling, List.filter_map]
    rfl
  have part : (w.office.settlements.map Holding.settlement).Sublist w.holdings :=
    (List.sublist_append_right _ _).trans (List.sublist_append_right _ _)
  rw [held]
  exact part.filter _

/-- A settlement is the only one of its batch. -/
theorem settling_of_mem (owned : w.custody.Owned) {s : Settlement} (hs : s ∈ w.office.settlements) :
    w.settling s.task.ticket = [s] := by
  have held : w.heldOf s.task.ticket = [.settlement s] :=
    heldOf_of_live owned (mem_holdings_settlement.2 hs)
  have part := settling_sublist w s.task.ticket
  rw [held] at part
  have some : s ∈ w.settling s.task.ticket := mem_settling.2 ⟨hs, rfl⟩
  -- it is listed, and nothing beside it
  rcases List.sublist_singleton.1 part with none | one
  · rw [List.map_eq_nil_iff.1 none] at some
    cases some
  · obtain ⟨y, listed, same⟩ := List.map_eq_singleton_iff.1 one
    cases same
    exact listed

theorem writtenOf_of_mem (owned : w.custody.Owned) {s : Settlement} (hs : s ∈ w.office.settlements) :
    w.writtenOf s.task.ticket = s.written := by
  rw [writtenOf, settling_of_mem owned hs, List.flatMap_singleton]

/-- What is written of a batch is written of its live task. -/
theorem writtenOf_of_held {x : Holding} (held : w.heldOf n = [x]) : w.writtenOf n = x.written := by
  have part := settling_sublist w n
  rw [held] at part
  have listed : x ∈ w.heldOf n := held ▸ List.mem_singleton_self x
  obtain ⟨hx, ticket⟩ := mem_heldOf.1 listed
  rcases List.sublist_singleton.1 part with none | one
  · rw [writtenOf, List.map_eq_nil_iff.1 none]
    cases x with
    | settlement s =>
      have some : s ∈ w.settling n := mem_settling.2 ⟨mem_holdings_settlement.1 hx, ticket⟩
      rw [List.map_eq_nil_iff.1 none] at some
      cases some
    | _ => rfl
  · obtain ⟨y, settling, rfl⟩ := List.map_eq_singleton_iff.1 one
    rw [writtenOf, settling, List.flatMap_singleton]
    rfl

theorem writtenOf_of_ended (held : w.heldOf n = []) : w.writtenOf n = [] := by
  have part := settling_sublist w n
  rw [held] at part
  rw [writtenOf, List.map_eq_nil_iff.1 (List.sublist_nil.1 part)]
  rfl

/-! ### Where settlements come from -/

/-- A submission that is turned away into a settlement is entered. -/
theorem entered_of_turnedAway? {s : Submission} {z : Settlement}
    (away : w.office.turnedAway? s = some z) : (w.submit s).entered = w.entered ++ [s] := by
  unfold turnedAway? at away
  unfold submit
  rcases taken : w.office.submit s with ⟨answer, o⟩
  rw [taken] at away
  dsimp only at away ⊢
  split at away
  · rfl
  · cases away

/-- A settlement that is brought has nothing written, and comes from a live task or from a submission. -/
theorem brings?_cases {z : Settlement} (brings : w.brings? h = some z) : z.written = [] ∧
    ((∃ x ∈ w.holdings, x.task = z.task) ∨
      ∃ s, h = .submit s ∧ (w.after h).entered = w.entered ++ [s] ∧
        z.task = s.task w.office.ledger.accounts.length) := by
  cases h with
  | collect k =>
    obtain ⟨a, found, answered⟩ := Option.bind_eq_some_iff.1 brings
    have live := mem_holdings_attempt.2 (List.mem_of_find?_eq_some found)
    split at answered
    · split at answered
      · cases answered
      · cases answered
        exact ⟨rfl, .inl ⟨_, live, rfl⟩⟩
    · cases answered
  | beginExpiry k =>
    obtain ⟨fresh, e, he, task⟩ := gaveUp?_fresh brings
    exact ⟨fresh, .inl ⟨.expiry e, mem_holdings_expiry.2 he, task⟩⟩
  | submit s =>
    have entered : (w.submit s).entered = w.entered ++ [s] := entered_of_turnedAway? brings
    rcases w.office.submit_turnedAway? s with ⟨none, -⟩ | ⟨z', some, fresh, task, -⟩
    · rw [brings?, none] at brings
      cases brings
    · rw [brings?, some] at brings
      cases brings
      exact ⟨fresh, .inr ⟨s, rfl, entered, task⟩⟩
  | _ => cases brings

/-- What becomes final of a batch comes from a live task or from a submission. -/
theorem settles?_cases {z : Settlement} (settles : w.settles? h = some z) :
    (∃ x ∈ w.holdings, x.task = z.task) ∨
      ∃ s, h = .submit s ∧ (w.after h).entered = w.entered ++ [s] ∧
        z.task = s.task w.office.ledger.accounts.length := by
  by_cases recorded : ∃ k, h = .recordAccepted k
  · obtain ⟨k, rfl⟩ := recorded
    obtain ⟨s, found, last⟩ := Option.bind_eq_some_iff.1 settles
    split at last
    · cases last
      exact .inl ⟨.settlement s, mem_holdings_settlement.2 (List.mem_of_find?_eq_some found), rfl⟩
    · cases last
  · have brought : w.settles? h = (w.brings? h).filter fun s => !s.waits := by
      cases h with
      | recordAccepted k => exact absurd ⟨k, rfl⟩ recorded
      | _ => rfl
    rw [brought] at settles
    exact (brings?_cases (Option.filter_eq_some_iff.1 settles).1).2

/-! ### Batches with a sink -/

/-- Once the batch of a ticket is entered, it has a sink. -/
def HasSink (w : World) (n : Nat) : Prop := ∀ s, w.entered[n]? = some s → s.sink.isSome

/-- What was entered stays so. -/
theorem entered_mono (owned : w.custody.Owned) (h : Happening) {s : Submission}
    (entered : w.entered[n]? = some s) : (w.after h).entered[n]? = some s := by
  have listed : (s, n) ∈ w.entered.zipIdx := List.mem_zipIdx_iff_getElem?.2 entered
  have still : (s, n) ∈ (w.after h).entered.zipIdx := by
    rw [entered_after owned h]
    exact List.mem_append_left _ listed
  exact List.mem_zipIdx_iff_getElem?.1 still

theorem HasSink.of_after (owned : w.custody.Owned) (sink : (w.after h).HasSink n) : w.HasSink n :=
  fun s entered => sink s (entered_mono owned h entered)

theorem HasSink.of_live (owned : w.custody.Owned) (sink : w.HasSink n) {x : Holding} (hx : x ∈ w.holdings)
    (ticket : x.task.ticket = n) : x.task.batch.sink.isSome := by
  obtain ⟨s, entered, batch⟩ := owned.batch x (by rwa [custody_live, Multiset.mem_coe])
  rw [batch]
  exact sink s (ticket ▸ entered)

/-- Nothing but the keeping of a record makes a result of a batch with a sink final. -/
theorem finalFor_brings? (owned : w.custody.Owned) (sink : (w.after h).HasSink n) :
    finalFor n ((w.brings? h).filter fun s => !s.waits) = [] := by
  cases brings : (w.brings? h).filter fun s => !s.waits with
  | none => rfl
  | some z =>
    obtain ⟨brings, idle⟩ := Option.filter_eq_some_iff.1 brings
    obtain ⟨fresh, origin⟩ := brings?_cases brings
    by_cases same : z.task.ticket = n
    · have recorded : z.task.batch.sink.isSome := by
        rcases origin with ⟨x, hx, task⟩ | ⟨s, rfl, entered, task⟩
        · rw [← task]
          exact (sink.of_after owned).of_live owned hx (task ▸ same)
        · have length : w.entered.length = w.office.ledger.accounts.length := owned.entered
          have next : n = w.entered.length := by
            rw [length, ← same, task]
            rfl
          rw [task]
          refine sink s ?_
          rw [entered, next]
          exact List.getElem?_concat_length
      -- with a sink, only a settlement without results does not wait
      rw [Settlement.waits, recorded, Bool.true_and, Bool.not_not] at idle
      rw [finalFor, if_pos same, Settlement.results, fresh, List.isEmpty_iff.1 idle, List.append_nil]
    · exact if_neg same

/-! ### One happening -/

/-- A settlement is cut off: its sink refuses a result, or it is let go of. -/
def CutsOff (h : Happening) (y : Settlement) : Prop :=
  (∃ message, h = .recordRefused y.number message) ∨ h.abandons y.number ∧ isBackground y

/-- Of what is left, that which is written is what matters of the settlements: those that begin have nothing
written. -/
theorem writtenOf_after_eq (w : World) (h : Happening) (n : Nat) : (w.after h).writtenOf n =
    ((w.pending h).filter fun s => s.task.ticket = n).flatMap (·.written) := by
  have fresh : ((w.begins? h).toList.filter fun s => s.task.ticket = n).flatMap (·.written) = [] := by
    refine List.flatMap_eq_nil_iff.2 fun z hz => ?_
    have begun : w.begins? h = some z := Option.mem_toList.1 (List.mem_filter.1 hz).1
    exact (brings?_cases (Option.filter_eq_some_iff.1 begun).1).1
  rw [writtenOf, settling, settlements_after, List.filter_append, List.flatMap_append, fresh,
    List.append_nil]

/-- Settlements of other batches may go. -/
theorem writtenOf_filter {p : Settlement → Bool}
    (kept : ∀ y ∈ w.office.settlements, y.task.ticket = n → p y) :
    ((w.office.settlements.filter p).filter fun s => s.task.ticket = n).flatMap (·.written) =
      w.writtenOf n := by
  rw [writtenOf, settling, List.filter_filter]
  refine congrArg (List.flatMap _) (List.filter_congr fun y hy => ?_)
  by_cases same : y.task.ticket = n
  · rw [kept y hy same, Bool.and_true]
  · rw [decide_eq_false same, Bool.false_and]

/-- A settlement is the only thing with its number. -/
theorem eq_of_settlement? (regular : w.custody.Regular) {k : Nat} {s : Settlement}
    (found : w.office.settlement? k = some s) : ∀ y ∈ w.office.settlements, y.number = k → y = s := by
  intro y hy same
  have one := eq_settlement_of_found regular (mem_holdings_settlement.2 hy) (congrArg some same) found
  cases one
  rfl

/-- A settlement goes, with what is written of it. -/
theorem writtenOf_remove (regular : w.custody.Regular) (owned : w.custody.Owned) {k : Nat} {s : Settlement}
    (found : w.office.settlement? k = some s) :
    ((w.office.settlements.filter (·.number ≠ k)).filter fun y => y.task.ticket = n).flatMap (·.written) =
      if s.task.ticket = n then [] else w.writtenOf n := by
  have hs := List.mem_of_find?_eq_some found
  have number : s.number = k := Numbered.number_of_found found
  by_cases same : s.task.ticket = n
  · subst same
    rw [if_pos rfl]
    refine List.flatMap_eq_nil_iff.2 fun y hy => ?_
    obtain ⟨left, ticket⟩ := List.mem_filter.1 hy
    obtain ⟨listed, other⟩ := List.mem_filter.1 left
    have one : y ∈ w.settling s.task.ticket := mem_settling.2 ⟨listed, of_decide_eq_true ticket⟩
    rw [settling_of_mem owned hs, List.mem_singleton] at one
    exact absurd (one ▸ number) (of_decide_eq_true other)
  · rw [if_neg same]
    refine writtenOf_filter (p := fun y => y.number ≠ k) fun y hy ticket => ?_
    refine decide_eq_true fun it => same ?_
    rw [← eq_of_settlement? regular found y hy it]
    exact ticket

/-- A settlement gets one more result written. -/
theorem writtenOf_write (regular : w.custody.Regular) (owned : w.custody.Owned) {k : Nat} {s : Settlement}
    (found : w.office.settlement? k = some s) (r : RecipientResult) (left : List RecipientResult) :
    ((w.office.settlements.map fun y =>
        if y.number = k then { y with written := y.written ++ [r], left := left } else y).filter
          fun y => y.task.ticket = n).flatMap (·.written) =
      w.writtenOf n ++ if s.task.ticket = n then [r] else [] := by
  have hs := List.mem_of_find?_eq_some found
  -- the change concerns no ticket
  have place : ((fun y : Settlement => decide (y.task.ticket = n)) ∘ fun y =>
      if y.number = k then { y with written := y.written ++ [r], left := left } else y) =
        fun y => decide (y.task.ticket = n) := by
    funext y
    dsimp only [Function.comp]
    split <;> rfl
  rw [List.filter_map, place]
  show ((w.settling n).map _).flatMap _ = _
  by_cases same : s.task.ticket = n
  · subst same
    rw [writtenOf_of_mem owned hs, settling_of_mem owned hs, List.map_singleton, List.flatMap_singleton,
      if_pos (Numbered.number_of_found found), if_pos rfl]
  · have still : (w.settling n).map (fun y =>
        if y.number = k then { y with written := y.written ++ [r], left := left } else y) =
          w.settling n := by
      refine (List.map_congr_left fun y hy => if_neg fun it => ?_).trans (List.map_id _)
      obtain ⟨listed, ticket⟩ := mem_settling.1 hy
      exact same (eq_of_settlement? regular found y listed it ▸ ticket)
    rw [still, if_neg same, List.append_nil]
    rfl

/-- The keeping of a result. -/
theorem writtenOf_recordAccepted (regular : w.custody.Regular) (owned : w.custody.Owned) (k n : Nat) :
    w.writtenOf n ++ keptFor n (w.accepts (.recordAccepted k)) =
      finalFor n (w.office.recorded? k) ++
        ((w.office.advanced k).filter fun s => s.task.ticket = n).flatMap (·.written) := by
  cases found : w.office.settlement? k with
  | none =>
    simp only [accepts, recorded?, advanced, found]
    exact List.append_nil _
  | some s =>
    rcases next : s.left with _ | ⟨r, _ | ⟨r', left⟩⟩
    · simp only [accepts, recorded?, advanced, found, Option.bind_some, Option.map_some, next]
      exact List.append_nil _
    · simp only [accepts, recorded?, advanced, found, Option.bind_some, Option.map_some, next,
        List.head?_cons, keptFor, finalFor, Settlement.results, writtenOf_remove regular owned found]
      by_cases same : s.task.ticket = n
      · subst same
        rw [writtenOf_of_mem owned (List.mem_of_find?_eq_some found), if_pos rfl, if_pos rfl, if_pos rfl,
          List.append_nil, List.append_nil]
      · rw [if_neg same, if_neg same, if_neg same, List.append_nil, List.nil_append]
    · simp only [accepts, recorded?, advanced, found, Option.bind_some, Option.map_some, next,
        List.head?_cons, keptFor, finalFor, List.nil_append]
      exact (writtenOf_write regular owned found r (r' :: left)).symm

/-- Along a happening that does not cut off the settlement of a batch with a sink, what is kept and what becomes
final of the batch account for what is written of it before and after. -/
theorem writtenOf_after (regular : w.custody.Regular) (owned : w.custody.Owned)
    (sink : (w.after h).HasSink n) (whole : ∀ y ∈ w.settling n, ¬ CutsOff h y) :
    w.writtenOf n ++ keptFor n (w.accepts h) =
      finalFor n (w.settles? h) ++ (w.after h).writtenOf n := by
  rw [writtenOf_after_eq]
  have still : w.pending h = w.office.settlements → w.accepts h = none →
      w.settles? h = (w.brings? h).filter (fun s => !s.waits) →
      w.writtenOf n ++ keptFor n (w.accepts h) = finalFor n (w.settles? h) ++
        ((w.pending h).filter fun s => s.task.ticket = n).flatMap (·.written) := by
    intro pending accepts settles
    rw [pending, accepts, settles, finalFor_brings? owned sink]
    exact List.append_nil _
  cases h with
  | recordAccepted k => exact writtenOf_recordAccepted regular owned k n
  | recordRefused k message =>
    refine Eq.trans (List.append_nil _) (writtenOf_filter (p := fun y => y.number ≠ k) ?_).symm
    intro y hy ticket
    refine decide_eq_true fun it => whole y (mem_settling.2 ⟨hy, ticket⟩) (.inl ⟨message, ?_⟩)
    rw [it]
  | abandon numbers =>
    refine Eq.trans (List.append_nil _)
      (writtenOf_filter (p := fun y => !(y.number ∈ numbers && isBackground y)) ?_).symm
    intro y hy ticket
    rw [Bool.not_eq_true', ← Bool.not_eq_true, Bool.and_eq_true]
    exact whole y (mem_settling.2 ⟨hy, ticket⟩) ∘ .inr
  | _ => exact still rfl rfl rfl

/-- A batch that has ended gets no more records and no more final results. -/
theorem quiet_of_ended (owned : w.custody.Owned) {v : Verdict}
    (ended : w.office.ledger.verdict? n = some v) (h : Happening) :
    keptFor n (w.accepts h) = [] ∧ finalFor n (w.settles? h) = [] := by
  -- nothing of it is live
  have other : ∀ x ∈ w.holdings, x.task.ticket ≠ n := by
    intro x hx ticket
    have unended := isOpen_of_live owned hx
    rw [ticket, Ledger.isOpen_iff, ended] at unended
    cases unended.2
  constructor
  · cases accepts : w.accepts h with
    | none => rfl
    | some p =>
      cases h with
      | recordAccepted k =>
        obtain ⟨s, found, kept⟩ := Option.bind_eq_some_iff.1 accepts
        obtain ⟨r, -, rfl⟩ := Option.map_eq_some_iff.1 kept
        exact if_neg (other _ (mem_holdings_settlement.2 (List.mem_of_find?_eq_some found)))
      | _ => cases accepts
  · cases settles : w.settles? h with
    | none => rfl
    | some z =>
      refine if_neg ?_
      rcases settles?_cases settles with ⟨x, hx, task⟩ | ⟨s, rfl, -, task⟩
      · rw [← task]
        exact other x hx
      · rw [task]
        exact (Ledger.lt_of_verdict? ended).ne'

end World

end Postroom
