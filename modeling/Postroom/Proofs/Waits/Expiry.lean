import Postroom.Proofs.Service.Order
import Postroom.Proofs.Settlements.Expiries
import Postroom.Proofs.Settlements.Sinks

/-!
# What is given up

A task whose wait for resources ran out, and which may not be retried any more, is given up. It stays among the
expiries until that is taken up; then all its recipients are to get their last word, as failed. Where the batch has a
sink, these results are recorded one by one, and all become final with the last of them; without a sink, they are
final at once. So every recipient is settled once, and the batch ends well with that, unless the sink refuses a result:
then nothing of it becomes final, and the batch ends with the fault.

- `World.Finalizes`: what makes the results of a live task final. `World.settledOf_of_others`: nothing else does.
- `Expiry.recorded`: how far the happenings of a history bring an expiry. `World.GivenUp`: what there is of it then.
- `World.givenUp_after`, `World.givenUp_run`: how far it has come after a happening, and after a history.
- `World.ended_of_refused`: what there is of it when its sink refuses.
-/

namespace Postroom

namespace World

open Office Custody

variable {w : World} {h : Happening} {x : Holding} {n : Nat}

/-! ### Results that become final -/

/-- The happening can make the results of a live task final. -/
inductive Finalizes : Happening → Holding → Prop where
  | attempt (a : Attempt) : Finalizes (.collect a.number) (.attempt a)
  | expiry (e : Expiry) : Finalizes (.beginExpiry e.number) (.expiry e)
  | settlement (s : Settlement) : Finalizes (.recordAccepted s.number) (.settlement s)

/-- Results that become final are those of a live task, or of a submission that is turned away. -/
theorem finalizes_of_settles? {z : Settlement} (settles : w.settles? h = some z) :
    z.task.ticket = w.office.ledger.accounts.length ∨ ∃ x ∈ w.holdings, x.task = z.task ∧ Finalizes h x := by
  cases h with
  | recordAccepted k =>
    obtain ⟨s, found, last⟩ := Option.bind_eq_some_iff.1 settles
    obtain rfl : s.number = k := Numbered.number_of_found found
    split at last
    · cases last
      exact .inr ⟨.settlement s, mem_holdings_settlement.2 (List.mem_of_find?_eq_some found), rfl, .settlement s⟩
    · cases last
  | collect k =>
    obtain ⟨a, found, answered⟩ := Option.bind_eq_some_iff.1 (Option.filter_eq_some_iff.1 settles).1
    obtain rfl : a.number = k := Numbered.number_of_found found
    split at answered
    · split at answered
      · cases answered
      · cases answered
        exact .inr ⟨.attempt a, mem_holdings_attempt.2 (List.mem_of_find?_eq_some found), rfl, .attempt a⟩
    · cases answered
  | beginExpiry k =>
    obtain ⟨e, found, rfl⟩ := Option.map_eq_some_iff.1 (Option.filter_eq_some_iff.1 settles).1
    obtain rfl : e.number = k := Numbered.number_of_found found
    exact .inr ⟨.expiry e, mem_holdings_expiry.2 (List.mem_of_find?_eq_some found), rfl, .expiry e⟩
  | submit s =>
    have away : w.office.turnedAway? s = some z := (Option.filter_eq_some_iff.1 settles).1
    unfold turnedAway? at away
    split at away
    · split at away
      · cases away
        exact .inl rfl
      · cases away
    · cases away
  | _ => cases settles

/-- Where none of a batch's results become final, the final ones stay. -/
theorem settledOf_of_none (owned : w.custody.Owned)
    (others : ∀ z, w.settles? h = some z → z.task.ticket ≠ n) :
    (w.after h).office.ledger.settledOf n = w.office.ledger.settledOf n := by
  rw [settledOf_after owned]
  cases settles : w.settles? h with
  | none => exact List.append_nil _
  | some z => rw [finalFor, if_neg (others z settles), List.append_nil]

/-- What does not finish a live task makes no result of its batch final. -/
theorem settledOf_of_others (owned : w.custody.Owned) (hx : x ∈ w.holdings) (others : ¬ Finalizes h x) :
    (w.after h).office.ledger.settledOf x.task.ticket = w.office.ledger.settledOf x.task.ticket := by
  refine settledOf_of_none owned fun z settles same => ?_
  rcases finalizes_of_settles? settles with fresh | ⟨y, hy, task, final⟩
  · exact absurd (inside_of_live owned hx) (by omega)
  · obtain rfl := eq_of_ticket owned hy hx ((congrArg Task.ticket task).trans same)
    exact others final

/-- The final results of a batch that has ended stay. -/
theorem settledOf_of_ended (owned : w.custody.Owned) {v : Verdict}
    (ended : w.office.ledger.verdict? n = some v) :
    (w.after h).office.ledger.settledOf n = w.office.ledger.settledOf n := by
  refine settledOf_of_none owned fun z settles same => ?_
  rcases finalizes_of_settles? settles with fresh | ⟨y, hy, task, -⟩
  · exact absurd (Ledger.lt_of_verdict? ended) (by omega)
  · have unended := (Ledger.isOpen_iff.1 (isOpen_of_live owned hy)).2
    rw [task, same, ended] at unended
    cases unended

theorem settledOf_run_of_ended (regular : w.custody.Regular) (owned : w.custody.Owned) {v : Verdict}
    (ended : w.office.ledger.verdict? n = some v) (hs : List Happening) :
    (w.run hs).office.ledger.settledOf n = w.office.ledger.settledOf n := by
  induction hs generalizing w with
  | nil => rfl
  | cons h hs ih =>
    exact (ih (regular_after regular h) (owned_after regular owned h) (verdict?_after regular h ended)).trans
      (settledOf_of_ended owned ended)

theorem config_after (regular : w.custody.Regular) (h : Happening) : (w.after h).office.config = w.office.config :=
  (leads_after (R := fun _ _ => True) regular (fits_true w h)).config

end World

/-! ### How far an expiry has come -/

namespace Expiry

/-- The last words for the recipients of what was given up. -/
def results (e : Expiry) (c : Config) : List RecipientResult := Office.expiryResults c.wait e.task

/-- Its settlement when `k` of these are recorded. -/
def settlement (e : Expiry) (c : Config) (k : Nat) : Settlement :=
  ⟨e.number, e.task, .expiry, (e.results c).take k, (e.results c).drop k⟩

/-- How many results are recorded when `h` has happened, or none as long as the expiry was not taken up. -/
def recorded (e : Expiry) : Option Nat → Happening → Option Nat
  | r, .beginExpiry n => if n = e.number then some (r.getD 0) else r
  | r, .recordAccepted n => if n = e.number then r.map (· + 1) else r
  | r, _ => r

/-- It is not let go of, and its sink does not refuse. -/
def Spares (e : Expiry) (h : Happening) : Prop :=
  h.abandons e.number = false ∧ ∀ message, h ≠ .recordRefused e.number message

variable {e : Expiry} {c : Config}

theorem length_results : (e.results c).length = e.task.recipients.length := List.length_map _

/-- The next result to be recorded. -/
theorem exists_next {k : Nat} (more : k < e.task.recipients.length) : ∃ r,
    (e.settlement c k).left = r :: (e.results c).drop (k + 1) ∧
      (e.settlement c k).written ++ [r] = (e.results c).take (k + 1) := by
  have inside : k < (e.results c).length := by rwa [length_results]
  exact ⟨(e.results c)[k], List.drop_eq_getElem_cons inside, List.take_concat_get' _ _ inside⟩

end Expiry

namespace Office

variable {o : Office} {t : Task}

/-- When results that leave nobody for a retry are final, the batch has ended well. -/
theorem ended_finishSettlement (purpose : Purpose) (whole : ∀ kept, purpose ≠ .attempt kept)
    (unended : o.ledger.isOpen t.ticket) (rs : List RecipientResult) :
    (o.finishSettlement t purpose rs).ledger.settledOf t.ticket = o.ledger.settledOf t.ticket ++ rs ∧
      (o.finishSettlement t purpose rs).ledger.verdict? t.ticket =
        some (.ok ⟨t.batch.root, t.domain, o.ledger.settledOf t.ticket ++ rs⟩) := by
  have settled : (o.ledger.settle t.ticket rs).settledOf t.ticket = o.ledger.settledOf t.ticket ++ rs :=
    Ledger.settledOf_settle _ _ _ (Ledger.lt_of_isOpen unended)
  have still : (o.ledger.settle t.ticket rs).isOpen t.ticket := by
    rw [Ledger.isOpen_settle]
    exact unended
  have ledger : (o.finishSettlement t purpose rs).ledger =
      (o.ledger.settle t.ticket rs).resolve t.ticket (.ok ((o.ledger.settle t.ticket rs).resultOf t)) := by
    cases purpose with
    | attempt kept => exact absurd rfl (whole kept)
    | expiry => exact ledger_conclude ..
    | unroutable => exact ledger_conclude ..
  rw [ledger, Ledger.settledOf_resolve, settled, Ledger.verdict?_resolve_of_isOpen _ _ _ still, Ledger.resultOf,
    settled]
  exact ⟨rfl, rfl⟩

end Office

namespace World

open Office Custody

variable {w : World} {h : Happening} {e : Expiry} {before : List RecipientResult} {r : Option Nat}

/-- How far what was given up has come, where `before` are the results of its batch that were final before. -/
inductive GivenUp (w : World) (e : Expiry) (before : List RecipientResult) : Option Nat → Prop where
  /-- It is not taken up yet. -/
  | waits (listed : e ∈ w.office.expiries) (settled : w.office.ledger.settledOf e.task.ticket = before) :
      GivenUp w e before none
  /-- Its sink has kept `k` of the results, and no other result has become final. -/
  | records {k : Nat} (sink : e.task.batch.sink.isSome) (more : k < e.task.recipients.length)
      (listed : e.settlement w.office.config k ∈ w.office.settlements)
      (settled : w.office.ledger.settledOf e.task.ticket = before) : GivenUp w e before (some k)
  /-- All results are final, and the batch has ended well. -/
  | final {k : Nat} (done : e.task.batch.sink = none ∨ e.task.recipients.length ≤ k)
      (settled : w.office.ledger.settledOf e.task.ticket = before ++ e.results w.office.config)
      (ended : w.office.ledger.verdict? e.task.ticket =
        some (.ok ⟨e.task.batch.root, e.task.domain, before ++ e.results w.office.config⟩)) :
      GivenUp w e before (some k)

/-- What was given up begins to be recorded when it is taken up, or is over at once. -/
theorem givenUp_beginExpiry (regular : w.custody.Regular) (owned : w.custody.Owned) (he : e ∈ w.office.expiries)
    (settled : w.office.ledger.settledOf e.task.ticket = before) :
    (w.after (.beginExpiry e.number)).GivenUp e before (some 0) := by
  have unended : w.office.ledger.isOpen e.task.ticket := isOpen_of_live owned (mem_holdings_expiry.2 he)
  have found : w.office.gaveUp? e.number = some (e.settlement w.office.config 0) := by
    rw [gaveUp?, Numbered.find?_of_mem (nodup_expiries regular) he]
    rfl
  have taken : w.office.beginExpiry e.number =
      if (e.settlement w.office.config 0).waits then
        { w.office with
          expiries := w.office.expiries.filter (·.number ≠ e.number)
          settlements := w.office.settlements ++ [e.settlement w.office.config 0] }
      else finishSettlement { w.office with expiries := w.office.expiries.filter (·.number ≠ e.number) }
        e.task .expiry (e.results w.office.config) := by
    rw [beginExpiry_eq, found]
    exact beginSettlement_eq (e.settlement w.office.config 0) rfl
  have config := config_after regular (.beginExpiry e.number)
  have after : (w.after (.beginExpiry e.number)).office = w.office.beginExpiry e.number := rfl
  by_cases waits : (e.settlement w.office.config 0).waits
  · rw [if_pos waits] at taken
    obtain ⟨sink, left⟩ := Bool.and_eq_true_iff.1 waits
    refine .records sink ?_ ?_ ?_
    · rw [← Expiry.length_results (c := w.office.config)]
      refine List.length_pos_of_ne_nil fun none => ?_
      rw [show (e.settlement w.office.config 0).left = e.results w.office.config from rfl, none] at left
      cases left
    · rw [config, after, taken]
      exact List.mem_append_right _ List.mem_cons_self
    · rw [after, taken]
      exact settled
  · rw [if_neg waits] at taken
    obtain ⟨final, ended⟩ := ended_finishSettlement .expiry (by rintro _ ⟨⟩)
      (o := { w.office with expiries := w.office.expiries.filter (·.number ≠ e.number) }) unended
      (e.results w.office.config)
    rw [← taken] at final ended
    rw [show Ledger.settledOf _ e.task.ticket = before from settled] at final ended
    refine .final ?_ ?_ ?_
    · rw [Bool.not_eq_true, Settlement.waits, Bool.and_eq_false_iff, Option.isSome_eq_false_iff,
        Option.isNone_iff_eq_none, Bool.not_eq_false', List.isEmpty_iff] at waits
      refine waits.imp_right fun none => ?_
      rw [← Expiry.length_results (c := w.office.config),
        show e.results w.office.config = [] from none]
      exact Nat.le_refl _
    · rw [config]
      exact final
    · rw [config]
      exact ended

/-- When the last result is recorded, it is over. -/
theorem givenUp_recordLast {k : Nat} (regular : w.custody.Regular) (owned : w.custody.Owned)
    (last : k + 1 = e.task.recipients.length)
    (listed : e.settlement w.office.config k ∈ w.office.settlements)
    (settled : w.office.ledger.settledOf e.task.ticket = before) :
    (w.after (.recordAccepted e.number)).GivenUp e before (some (k + 1)) := by
  have unended : w.office.ledger.isOpen e.task.ticket := isOpen_of_live owned (mem_holdings_settlement.2 listed)
  have found : w.office.settlement? e.number = some (e.settlement w.office.config k) :=
    Numbered.find?_of_mem (nodup_settlements regular) listed
  obtain ⟨r, left, written⟩ := Expiry.exists_next (c := w.office.config) (last.le : k < e.task.recipients.length)
  rw [List.drop_eq_nil_iff.2 (by rw [Expiry.length_results]; exact last.ge)] at left
  rw [List.take_of_length_le (by rw [Expiry.length_results]; exact last.ge)] at written
  have taken : w.office.recordAccepted e.number = (w.office.removeSettlement e.number).finishSettlement e.task
      .expiry (e.results w.office.config) := by
    rw [recordAccepted, found]
    dsimp only
    rw [left]
    exact congrArg ((w.office.removeSettlement e.number).finishSettlement e.task .expiry) written
  have same : (w.office.removeSettlement e.number).ledger.settledOf e.task.ticket = before := settled
  obtain ⟨final, ended⟩ :=
    ended_finishSettlement .expiry (by rintro _ ⟨⟩) (o := w.office.removeSettlement e.number) unended
      (e.results w.office.config)
  rw [← taken, same] at final ended
  refine .final (.inr last.ge) ?_ ?_
  · rw [config_after regular]
    exact final
  · rw [config_after regular]
    exact ended

/-- When a result is recorded that is not the last one, the next one is left. -/
theorem givenUp_recordNext {k : Nat} (regular : w.custody.Regular) (owned : w.custody.Owned)
    (sink : e.task.batch.sink.isSome) (more : k + 1 < e.task.recipients.length)
    (listed : e.settlement w.office.config k ∈ w.office.settlements)
    (settled : w.office.ledger.settledOf e.task.ticket = before) :
    (w.after (.recordAccepted e.number)).GivenUp e before (some (k + 1)) := by
  have found : w.office.settlement? e.number = some (e.settlement w.office.config k) :=
    Numbered.find?_of_mem (nodup_settlements regular) listed
  obtain ⟨r, left, written⟩ := Expiry.exists_next (c := w.office.config) (Nat.lt_of_succ_lt more)
  obtain ⟨r', rest, -⟩ := Expiry.exists_next (c := w.office.config) more
  have next : (e.settlement w.office.config (k + 1)).left = r' :: (e.results w.office.config).drop (k + 1 + 1) := rest
  have advanced : e.settlement w.office.config (k + 1) ∈ w.office.advanced e.number := by
    rw [advanced, found, Option.map_some, left]
    rw [show (e.results w.office.config).drop (k + 1) = _ from next]
    refine List.mem_map.2 ⟨_, listed, (if_pos rfl).trans ?_⟩
    rw [written, ← next]
    rfl
  have unsettled : w.settles? (.recordAccepted e.number) = none := by
    show w.office.recorded? e.number = none
    rw [recorded?, found, Option.bind_some, left, show (e.results w.office.config).drop (k + 1) = _ from next]
  refine .records sink more ?_ ?_
  · rw [config_after regular]
    show _ ∈ (w.office.recordAccepted e.number).settlements
    rw [settlements_recordAccepted]
    exact advanced
  · refine (settledOf_of_none owned fun z settles => ?_).trans settled
    rw [unsettled] at settles
    cases settles

/-- A settlement is left alone by all but the answers of its sink, and by letting go of it. -/
theorem settlement_kept {s : Settlement} (hs : s ∈ w.office.settlements) (accepted : h ≠ .recordAccepted s.number)
    (refused : ∀ message, h ≠ .recordRefused s.number message) (kept : h.abandons s.number = false) :
    s ∈ (w.after h).office.settlements := by
  by_cases other : h.number? = some s.number
  · cases h with
    | collect k =>
      rw [settlements_after]
      exact List.mem_append_left _ hs
    | recordAccepted k =>
      cases other
      exact absurd rfl accepted
    | recordRefused k message =>
      cases other
      exact absurd rfl (refused message)
    | _ => cases other
  · exact settlement_after hs other kept

/-- How far what was given up has come when something has happened. -/
theorem givenUp_after (regular : w.custody.Regular) (owned : w.custody.Owned) (spares : e.Spares h)
    (given : w.GivenUp e before r) : (w.after h).GivenUp e before (e.recorded r h) := by
  obtain ⟨kept, refused⟩ := spares
  have config := config_after regular h
  cases given with
  | waits listed settled =>
    by_cases taken : h = .beginExpiry e.number
    · subst taken
      have done := givenUp_beginExpiry regular owned listed settled
      rwa [Expiry.recorded, if_pos rfl]
    · have none : e.recorded none h = none := by
        unfold Expiry.recorded
        split
        · next k => exact if_neg fun same => taken (congrArg _ same)
        · exact ite_self _
        · rfl
      rw [none]
      refine .waits (expiry_kept listed taken kept) ?_
      refine (settledOf_of_others owned (x := .expiry e) (mem_holdings_expiry.2 listed) ?_).trans settled
      rintro ⟨⟩
      exact taken rfl
  | @records k sink more listed settled =>
    by_cases accepted : h = .recordAccepted e.number
    · subst accepted
      rw [Expiry.recorded, if_pos rfl]
      rcases Nat.lt_or_eq_of_le more with next | last
      · exact givenUp_recordNext regular owned sink next listed settled
      · exact givenUp_recordLast regular owned last listed settled
    · have same : e.recorded (some k) h = some k := by
        unfold Expiry.recorded
        split
        · exact ite_self _
        · next j => exact if_neg fun same => accepted (congrArg _ same)
        · rfl
      rw [same]
      refine .records sink more ?_ ?_
      · rw [config]
        exact settlement_kept listed accepted refused kept
      · refine (settledOf_of_others owned (mem_holdings_settlement.2 listed) ?_).trans settled
        rintro ⟨⟩
        exact accepted rfl
  | @final k done settled ended =>
    obtain ⟨j, recorded, more⟩ : ∃ j, e.recorded (some k) h = some j ∧ k ≤ j := by
      unfold Expiry.recorded
      split
      · exact ⟨k, ite_self _, le_refl k⟩
      · split
        · exact ⟨k + 1, rfl, Nat.le_succ k⟩
        · exact ⟨k, rfl, le_refl k⟩
      · exact ⟨k, rfl, le_refl k⟩
    rw [recorded]
    refine .final (done.imp_right fun all => all.trans more) ?_ ?_
    · rw [config]
      exact (settledOf_of_ended owned ended).trans settled
    · rw [config]
      exact verdict?_after regular h ended

/-- How far what was given up has come after a history in which it is not let go of and its sink refuses nothing. -/
theorem givenUp_run {hs : List Happening} (regular : w.custody.Regular) (owned : w.custody.Owned)
    (spares : ∀ h ∈ hs, e.Spares h) (given : w.GivenUp e before r) :
    (w.run hs).GivenUp e before (hs.foldl e.recorded r) := by
  induction hs generalizing w r with
  | nil => exact given
  | cons h hs ih =>
    exact ih (regular_after regular h) (owned_after regular owned h)
      (fun k hk => spares k (List.mem_cons_of_mem h hk))
      (givenUp_after regular owned (spares h List.mem_cons_self) given)

/-- Where the sink refuses a result of what was given up, the batch ends with that, and nothing has become final. -/
theorem ended_of_refused {k : Nat} (regular : w.custody.Regular) (owned : w.custody.Owned)
    (sink : e.task.batch.sink.isSome) (more : k < e.task.recipients.length) (given : w.GivenUp e before (some k))
    (message : String) (hs : List Happening) :
    ((w.after (.recordRefused e.number message)).run hs).office.ledger.verdict? e.task.ticket =
        some (.error (ownFault e.task (.persistence message))) ∧
      ((w.after (.recordRefused e.number message)).run hs).office.ledger.settledOf e.task.ticket = before := by
  have regular' := regular_after regular (.recordRefused e.number message)
  have owned' := owned_after regular owned (.recordRefused e.number message)
  cases given with
  | records _ _ listed settled =>
    have held := mem_holdings_settlement.2 listed
    have found : w.office.settlement? e.number = some (e.settlement w.office.config k) :=
      Numbered.find?_of_mem (nodup_settlements regular) listed
    have ended : (w.after (.recordRefused e.number message)).office.ledger.verdict? e.task.ticket =
        some (.error (ownFault e.task (.persistence message))) :=
      verdict?_recordRefused message found (isOpen_of_live owned held)
    refine ⟨verdict?_run regular' ended hs, ?_⟩
    rw [settledOf_run_of_ended regular' owned' ended]
    refine (settledOf_of_others owned held ?_).trans settled
    rintro ⟨⟩
  | final done settled ended =>
    rcases done with none | all
    · rw [none] at sink
      cases sink
    · omega

end World

end Postroom
