import Postroom.Proofs.Service.Order
import Postroom.Proofs.Settlements.Written
import Postroom.Proofs.Waits.Shortages

/-!
# Names

A batch goes by the name under which it was submitted, and its retries by names that are made from that one and their
number. All of them are names of one kind: nothing but its text tells the name of a retry from one that a submitter
chose. Where the names chosen are all different, the retries of two batches have different names, and a name stands for
two batches only where a submitter chose the name of another batch's retry. Where no submitter does that, a name stands
for one batch throughout a history, and so does what is kept by name: the record of the waits, and what the sinks keep.

- `BatchId.retry_inj`: the name of a retry says of which batch it is, and which retry of it.
- `Task.Named`: a task goes by the name that belongs to the number of its retries. `Custody.Named`: the invariant.
- `World.RetriesLive`, `World.origin_of_made`: the tasks that a happening makes, with what they are made from.
- `Submission.Bears`: the names of a batch and its retries. `exists_owner`: who bears a name.
- `World.KeepsNames`: a name stands for one batch in all that a happening does.
- `World.NamesApart`, `World.namesApart_run`: what the names chosen say of a history. `World.names_clash`: they have to
  be chosen apart from the retries.
-/

namespace Postroom

/-! ### The names of retries -/

/-- The digits with which a text ends, the last one first. -/
def lastDigits (text : List Char) : List Char := text.reverse.takeWhile Char.isDigit

/-- The number with which the name of a retry ends. -/
theorem lastDigits_retry (id : BatchId) (n : Nat) :
    lastDigits (id.retry n).text.toList = (Nat.toDigits 10 n).reverse := by
  have text : (id.retry n).text.toList = id.text.toList ++ "-retr".toList ++ 'y' :: Nat.toDigits 10 n := by
    rw [BatchId.retry, String.toList_append, String.toList_append, ← Nat.toList_repr]
    simp
  have digits : ∀ c ∈ (Nat.toDigits 10 n).reverse, c.isDigit = true := fun c hc =>
    Nat.isDigit_of_mem_toDigits (by decide) (by decide) (List.mem_reverse.1 hc)
  rw [lastDigits, text, List.reverse_append, List.reverse_cons, List.append_assoc,
    List.takeWhile_append_of_pos digits]
  simp

/-- The name of a retry says of which batch it is, and which retry of it. -/
theorem BatchId.retry_inj {a b : BatchId} {m n : Nat} : a.retry m = b.retry n ↔ a = b ∧ m = n := by
  refine ⟨fun same => ?_, fun ⟨same, number⟩ => same ▸ number ▸ rfl⟩
  obtain rfl : m = n := by
    have digits : lastDigits (a.retry m).text.toList = lastDigits (b.retry n).text.toList := by rw [same]
    rw [lastDigits_retry, lastDigits_retry, List.reverse_inj] at digits
    have numbers := congrArg (Nat.ofDigitChars 10 · 0) digits
    rwa [Nat.ofDigitChars_toDigits (by decide) (by decide),
      Nat.ofDigitChars_toDigits (by decide) (by decide)] at numbers
  have text : a.text ++ "-retry" ++ toString m = b.text ++ "-retry" ++ toString m := congrArg BatchId.text same
  rw [String.append_left_inj, String.append_left_inj] at text
  exact ⟨congrArg BatchId.mk text, rfl⟩

/-! ### The names of tasks -/

/-- A task goes by the name that belongs to the number of its retries, of which there are not too many. -/
structure Task.Named (most : Nat) (t : Task) : Prop where
  name : t.id = if t.retries = 0 then t.batch.root else t.batch.root.retry t.retries
  within : t.retries ≤ most

theorem Task.Named.retry {t : Task} {most : Nat} (left : t.retries < most) (recipients : List Recipient) :
    (t.retry recipients).Named most := ⟨rfl, left⟩

/-- The names of a batch and of its retries. -/
def Submission.Bears (most : Nat) (s : Submission) (id : BatchId) : Prop :=
  id = s.batchId ∨ ∃ k < most, id = s.batchId.retry (k + 1)

theorem Task.Named.bears {t : Task} {most : Nat} {s : Submission} (named : t.Named most) (batch : t.batch = s.batch) :
    s.Bears most t.id := by
  have root : t.batch.root = s.batchId := congrArg Batch.root batch
  rw [named.name, root]
  cases retries : t.retries with
  | zero => exact .inl (if_pos rfl)
  | succ k =>
    have within : k + 1 ≤ most := retries ▸ named.within
    exact .inr ⟨k, within, if_neg k.succ_ne_zero⟩

section Owner

variable {e : List Submission} {most i j : Nat} {s u : Submission}

/-- Where the names chosen are all different, a name is chosen in one place. -/
theorem eq_of_root (nodup : (e.map (·.batchId)).Nodup) (hs : e[i]? = some s) (hu : e[j]? = some u)
    (roots : s.batchId = u.batchId) : i = j := by
  obtain ⟨inside, -⟩ := List.getElem?_eq_some_iff.1 hs
  refine (List.getElem?_inj (by rwa [List.length_map]) nodup).1 ?_
  rw [List.getElem?_map, List.getElem?_map, hs, hu, Option.map_some, Option.map_some, roots]

/-- Where they are chosen apart from the retries, too, nothing bears the name of another batch. -/
theorem eq_of_bears (nodup : (e.map (·.batchId)).Nodup)
    (apart : ∀ s ∈ e, ∀ u ∈ e, ∀ k < most, s.batchId ≠ u.batchId.retry (k + 1)) (hs : e[i]? = some s)
    (hu : e[j]? = some u) {id : BatchId} (first : s.Bears most id) (second : u.Bears most id) : i = j := by
  have listed := apart s (List.mem_of_getElem? hs) u (List.mem_of_getElem? hu)
  have listed' := apart u (List.mem_of_getElem? hu) s (List.mem_of_getElem? hs)
  rcases first with root | ⟨k, within, name⟩ <;> rcases second with root' | ⟨k', within', name'⟩
  · exact eq_of_root nodup hs hu (root.symm.trans root')
  · exact absurd (root.symm.trans name') (listed k' within')
  · exact absurd (root'.symm.trans name) (listed' k within)
  · exact eq_of_root nodup hs hu (BatchId.retry_inj.1 (name.symm.trans name')).1

/-- Then a name says which batch bears it. -/
theorem exists_owner (nodup : (e.map (·.batchId)).Nodup)
    (apart : ∀ s ∈ e, ∀ u ∈ e, ∀ k < most, s.batchId ≠ u.batchId.retry (k + 1)) :
    ∃ owner : BatchId → Nat, ∀ i (s : Submission) id, e[i]? = some s → s.Bears most id → owner id = i := by
  classical
  let owner (id : BatchId) : Nat :=
    if h : ∃ i, ∃ s : Submission, e[i]? = some s ∧ s.Bears most id then h.choose else 0
  refine ⟨owner, fun i s id hs bears => ?_⟩
  have some : ∃ i, ∃ s : Submission, e[i]? = some s ∧ s.Bears most id := ⟨i, s, hs, bears⟩
  obtain ⟨u, hu, bears'⟩ := some.choose_spec
  exact (dif_pos some).trans (eq_of_bears nodup apart hu hs bears' bears)

end Owner

namespace Custody

/-- With settings `g`, every live task goes by its name. -/
structure Named (g : Config) (c : Custody) : Prop where
  config : c.config = g
  live : ∀ x ∈ c.live, x.task.Named g.retry.maxRetries

variable {R : Task → Outcome → Prop} {g : Config} {c d : Custody}

theorem named_move {n n' : Nat} {x y : Holding} (m : Move R g n x y n')
    (named : x.task.Named g.retry.maxRetries) : y.task.Named g.retry.maxRetries := by
  cases m with
  | retry t budget => exact .retry (of_decide_eq_true budget) _
  | queue t now => exact ⟨named.name, named.within⟩
  | _ => exact named

theorem Named.change (hc : Named g c) (h : Change R c d) : Named g d := by
  obtain ⟨rfl, live⟩ := hc
  cases h with
  | move m =>
    refine ⟨rfl, fun z hz => ?_⟩
    rcases Multiset.mem_cons.1 hz with rfl | hz
    · exact named_move m (live _ (Multiset.mem_cons_self ..))
    · exact live z (Multiset.mem_cons_of_mem hz)
  | enter s nonempty =>
    refine ⟨rfl, fun z hz => ?_⟩
    rcases Multiset.mem_cons.1 hz with rfl | hz
    · exact ⟨rfl, Nat.zero_le _⟩
    · exact live z hz
  | settle s =>
    refine ⟨rfl, fun z hz => ?_⟩
    rcases Multiset.mem_cons.1 hz with rfl | hz
    · have named := live (.settlement s) (Multiset.mem_cons_self ..)
      exact ⟨named.name, named.within⟩
    · exact live z (Multiset.mem_cons_of_mem hz)
  | complete | fail => exact ⟨rfl, fun z hz => live z (Multiset.mem_cons_of_mem hz)⟩

theorem Named.leads (hc : Named g c) (h : Leads R c d) : Named g d := h.keeps (fun _ _ step hc => hc.change step) hc

end Custody

namespace Bench

variable {ok ok' : Effect → Prop} {b c : Bench}

theorem Step.mono (less : ∀ e, ok e → ok' e) (step : Step ok b c) : Step ok' b c := by
  cases step with
  | poll t => exact .poll t
  | rouse s => exact .rouse s
  | bring t => exact .bring t
  | queue t now => exact .queue t now
  | shelve s permitted => exact .shelve s (less _ permitted)
  | nap s => exact .nap s
  | lack t now permitted => exact .lack t now (less _ permitted)
  | leave t permitted => exact .leave t (less _ permitted)
  | clearJob job permitted => exact .clearJob job (less _ permitted)
  | letGo t permitted => exact .letGo t (less _ permitted)

theorem Does.mono (less : ∀ e, ok e → ok' e) (does : Does ok b c) : Does ok' b c :=
  Relation.ReflTransGen.mono (fun _ _ step => step.mono less) _ _ does

end Bench

/-- The name under which a happening submits a batch. -/
def Happening.name? : Happening → Option BatchId
  | .submit s => some s.batchId
  | _ => none

/-- The names under which batches are submitted along a history, whether they are taken or not. -/
def namesGiven (hs : List Happening) : List BatchId := hs.filterMap (·.name?)

namespace World

open Bench Office Custody

variable {w : World} {h : Happening} {hs : List Happening} {g : Config}

/-! ### What is entered -/

/-- A happening enters what it submits, or nothing. -/
theorem entered_cases (w : World) (h : Happening) : (w.after h).entered = w.entered ∨
    ∃ s, h = .submit s ∧ (w.after h).entered = w.entered ++ [s] := by
  cases h with
  | submit s =>
    simp only [after, submit]
    split
    · exact .inr ⟨s, rfl, rfl⟩
    · exact .inl rfl
  | failOutside place cause =>
    simp only [after, useOutside]
    split <;> exact .inl rfl
  | dropOutside place =>
    simp only [after, useOutside]
    split <;> exact .inl rfl
  | _ => exact .inl rfl

/-- What is entered keeps its ticket. -/
theorem entered_of_run {i : Nat} {s : Submission} (hs : List Happening) (entered : w.entered[i]? = some s) :
    (w.run hs).entered[i]? = some s := by
  induction hs generalizing w with
  | nil => exact entered
  | cons h hs ih =>
    refine ih (w := w.after h) ?_
    rcases entered_cases w h with same | ⟨u, -, grown⟩
    · rwa [same]
    · obtain ⟨inside, -⟩ := List.getElem?_eq_some_iff.1 entered
      rwa [grown, List.getElem?_append_left inside]

/-- The names of the batches entered are names that were given. -/
theorem names_entered (w : World) (hs : List Happening) :
    ((w.run hs).entered.map (·.batchId)).Sublist (w.entered.map (·.batchId) ++ namesGiven hs) := by
  induction hs generalizing w with
  | nil => simp [namesGiven]
  | cons h hs ih =>
    refine (ih (w.after h)).trans ?_
    rcases entered_cases w h with same | ⟨s, rfl, grown⟩
    · rw [same]
      refine List.Sublist.append_left ?_ _
      rw [namesGiven, namesGiven, List.filterMap_cons]
      split
      · exact List.Sublist.refl _
      · exact List.sublist_cons_self ..
    · rw [grown, List.map_append, List.append_assoc]
      exact List.Sublist.refl _

/-! ### What is live and what is made -/

theorem named_run (config : Config) (workers : Nat) (wall : Calendar.Moment) (hs : List Happening) :
    ((opening config workers wall).run hs).custody.Named config := by
  have begun : (opening config workers wall).custody.Named config :=
    ⟨rfl, fun x hx => absurd hx (not_mem_live_opening config workers wall x)⟩
  exact begun.leads (leads_run (R := fun _ _ => True) (regular_opening config workers wall)
    (along_of_forall fits_true _ hs))

/-- What a settlement keeps for a retry may be retried. -/
theorem budget_of_settles? (regular : w.custody.Regular) {z : Settlement} (settles : w.settles? h = some z)
    (kept : z.purpose.kept ≠ []) : w.office.config.retry.hasBudget z.task.retries := by
  cases h with
  | recordAccepted k =>
    obtain ⟨s, found, last⟩ := Option.bind_eq_some_iff.1 settles
    split at last
    · cases last
      exact affordable_settlements regular s (List.mem_of_find?_eq_some found) kept
    · cases last
  | collect k =>
    obtain ⟨a, found, answered⟩ := Option.bind_eq_some_iff.1 (Option.filter_eq_some_iff.1 settles).1
    split at answered
    · split at answered
      · cases answered
      · cases answered
        exact Outcome.budget_of_kept kept
    · cases answered
  | beginExpiry k =>
    obtain ⟨e, -, rfl⟩ := Option.map_eq_some_iff.1 (Option.filter_eq_some_iff.1 settles).1
    exact absurd rfl kept
  | submit s =>
    have away : w.office.turnedAway? s = some z := (Option.filter_eq_some_iff.1 settles).1
    unfold turnedAway? at away
    split at away
    · split at away
      · cases away
        exact absurd rfl kept
      · cases away
    · cases away
  | _ => cases settles

/-- Where no retry is left, a task that waited too long is not retried. -/
theorem budget_of_escalates {o : Office} {t : Task} (escalates : o.escalates t) :
    o.config.retry.hasBudget t.retries := by
  by_contra full
  obtain ⟨-, retried⟩ := Bool.and_eq_true_iff.1 escalates
  by_cases lasts : o.config.wait.lastsFor (o.waited t)
  · rw [shortage_of_lasts lasts] at retried
    cases retried
  · rw [shortage_of_spent lasts full] at retried
    cases retried

/-- `t` is made as the retry of a live task that has one left. -/
def RetriesLive (w : World) (t : Task) : Prop :=
  ∃ x ∈ w.holdings, w.office.config.retry.hasBudget x.task.retries ∧ ∃ recipients, t = x.task.retry recipients

theorem retriesLive_of_escalates {o : Office} {t : Task} (executed : (o, t) ∈ w.executed h)
    (escalates : o.escalates t) : w.RetriesLive t.next := by
  obtain ⟨l, hl⟩ := live_of_executed executed
  have config : o.config = w.office.config := (leads_of_executed (R := fun _ _ => True) executed).config
  exact ⟨_, hl, config ▸ budget_of_escalates escalates, _, rfl⟩

theorem retriesLive_of_settles? (regular : w.custody.Regular) {z : Settlement} (settles : w.settles? h = some z)
    (kept : z.purpose.kept ≠ []) : w.RetriesLive z.rest.next := by
  obtain ⟨x, hx, -, task⟩ := away_of_settles? settles kept
  refine ⟨x, hx, ?_, z.rest.next.recipients, ?_⟩
  · rw [task]
    exact budget_of_settles? regular settles kept
  · rw [task]
    rfl

theorem retriesLive_of_resent {t : Task} (ht : t ∈ w.resent h) : w.RetriesLive t := by
  unfold resent at ht
  split at ht
  · obtain ⟨a, ha, rfl⟩ := List.mem_map.1 ht
    obtain ⟨found, reported⟩ := Option.filter_eq_some_iff.1 (Option.mem_toList.1 ha)
    refine ⟨.attempt a, mem_holdings_attempt.2 (List.mem_of_find?_eq_some found), ?_, _, rfl⟩
    split at reported
    · exact (Bool.and_eq_true_iff.1 (Bool.and_eq_true_iff.1 reported).1).2
    · cases reported
  · cases ht

/-- Whatever a happening makes is the first task of what it enters, or the retry of a live task. -/
theorem origin_of_made (regular : w.custody.Regular) {t : Task} (ht : t ∈ w.made h) :
    (∃ s, (w.after h).entered = w.entered ++ [s] ∧ t = s.task w.office.ledger.accounts.length) ∨ w.RetriesLive t := by
  rcases List.mem_append.1 ht with ht | failed
  · rcases List.mem_append.1 ht with ht | settled
    · rcases List.mem_append.1 ht with first | escalated
      · cases h with
        | submit s =>
          rcases answer : w.office.submit s with ⟨a, o⟩
          simp only [entering, after, submit, answer] at first ⊢
          split at first
          · exact .inl ⟨s, rfl, List.mem_singleton.1 first⟩
          · cases first
        | _ => cases first
      · obtain ⟨⟨o, u⟩, hp, rfl⟩ := List.mem_map.1 escalated
        obtain ⟨executed, escalates⟩ := List.mem_filter.1 hp
        exact .inr (retriesLive_of_escalates executed escalates)
    · obtain ⟨z, hz, rfl⟩ := List.mem_map.1 settled
      obtain ⟨settles, again⟩ := Option.filter_eq_some_iff.1 (Option.mem_toList.1 hz)
      exact .inr (retriesLive_of_settles? regular settles (of_decide_eq_true (Bool.and_eq_true_iff.1 again).1))
  · exact .inr (retriesLive_of_resent failed)

/-- A live task goes by a name of its batch. -/
theorem bears_of_live (owned : w.custody.Owned) (named : w.custody.Named g) {x : Holding} (hx : x ∈ w.holdings) :
    ∃ s, w.entered[x.task.ticket]? = some s ∧ s.Bears g.retry.maxRetries x.task.id := by
  obtain ⟨s, entered, batch⟩ := owned.batch x (mem_live.2 hx)
  exact ⟨s, entered, (named.live x (mem_live.2 hx)).bears batch⟩

/-- And so does a task that is made. -/
theorem bears_of_made (regular : w.custody.Regular) (owned : w.custody.Owned) (named : w.custody.Named g) {t : Task}
    (ht : t ∈ w.made h) : ∃ s, (w.after h).entered[t.ticket]? = some s ∧ s.Bears g.retry.maxRetries t.id := by
  rcases origin_of_made regular ht with ⟨s, grown, rfl⟩ | ⟨x, hx, budget, recipients, rfl⟩
  · refine ⟨s, ?_, .inl rfl⟩
    have place : w.entered.length = w.office.ledger.accounts.length := owned.entered
    rw [grown, Submission.task, Task.first, ← place, List.getElem?_concat_length]
  · obtain ⟨s, entered, same⟩ := owned.batch x (mem_live.2 hx)
    have config : w.office.config = g := named.config
    rw [config] at budget
    exact ⟨s, entered_of_run [h] entered, (Task.Named.retry (of_decide_eq_true budget) recipients).bears same⟩

/-! ### Names along a history -/

/-- What is done to the wait of a name is done for a task that goes by this name, live or just made, and is of the
batch that bears it. Besides, all waits of a job may be ended. -/
inductive DoneFor (owner : BatchId → Nat) (w : World) (h : Happening) : Effect → Prop where
  | clear {t : Task} (there : (∃ x ∈ w.holdings, x.task = t) ∨ t ∈ w.made h) (own : owner t.id = t.ticket) :
      DoneFor owner w h (.clear t.id)
  | lack {t : Task} (there : ∃ x ∈ w.holdings, x.task = t) (own : owner t.id = t.ticket) : DoneFor owner w h (.lack t)
  | clearJob (job : RunnerId) : DoneFor owner w h (.clearJob job)
  | shelve (s : Sleeper) : DoneFor owner w h (.shelve s)
  | letGo (t : Task) : DoneFor owner w h (.letGo t)

/-- The name under which a sink keeps a result. -/
def recordName? (w : World) : Happening → Option BatchId
  | .recordAccepted n => (w.office.settlement? n).map (·.task.id)
  | _ => none

/-- In all that a happening does, a name stands for the batch that bears it. -/
structure KeepsNames (owner : BatchId → Nat) (w : World) (h : Happening) : Prop where
  live : ∀ x ∈ w.holdings, owner x.task.id = x.task.ticket
  made : ∀ t ∈ w.made h, owner t.id = t.ticket
  waits : Does (DoneFor owner w h) w.bench (w.after h).bench
  records : ∀ id n r, w.recordName? h = some id → w.accepts h = some (n, r) → owner id = n

theorem keepsNames_after {owner : BatchId → Nat} (regular : w.custody.Regular) (owned : w.custody.Owned)
    (live : ∀ x ∈ w.holdings, owner x.task.id = x.task.ticket) (made : ∀ t ∈ w.made h, owner t.id = t.ticket) :
    KeepsNames owner w h where
  live := live
  made := made
  waits := by
    refine (affects_after regular owned h).mono fun e affects => ?_
    cases affects with
    | live hx relieves => exact .clear (.inl ⟨_, hx, rfl⟩) (live _ hx)
    | made ht => exact .clear (.inr ht) (made _ ht)
    | withRun ends queued own =>
      obtain ⟨l, hl⟩ := (Lanes.mem_tasks_iff _).1 queued
      exact .clear (.inl ⟨_, mem_holdings_queued.2 hl, rfl⟩) (live _ (mem_holdings_queued.2 hl))
    | lacks executed short =>
      obtain ⟨l, hl⟩ := live_of_executed executed
      exact .lack ⟨_, hl, rfl⟩ (live _ hl)
    | ends | unregisters => exact .clearJob _
    | shelves => exact .shelve _
    | drops => exact .letGo _
  records id n r name kept := by
    cases h with
    | recordAccepted k =>
      obtain ⟨s, found, rfl⟩ := Option.map_eq_some_iff.1 name
      have accepted : (s.left.head?.map fun r => (s.task.ticket, r)) = some (n, r) := by
        rw [accepts, found] at kept
        exact kept
      obtain ⟨r', -, same⟩ := Option.map_eq_some_iff.1 accepted
      obtain ⟨rfl, -⟩ := Prod.mk.inj same
      exact live _ (mem_holdings_settlement.2 (List.mem_of_find?_eq_some found))
    | _ => cases name

/-- What bears a name in the end bears it along the whole history. -/
theorem keepsNames_along {owner : BatchId → Nat} (regular : w.custody.Regular) (owned : w.custody.Owned)
    (named : w.custody.Named g)
    (bears : ∀ i s id, (w.run hs).entered[i]? = some s → s.Bears g.retry.maxRetries id → owner id = i) :
    Along (KeepsNames owner) w hs := by
  induction hs generalizing w with
  | nil => trivial
  | cons h hs ih =>
    have leads := leads_after (R := fun _ _ => True) regular (fits_true w h)
    refine ⟨keepsNames_after regular owned (fun x hx => ?_) (fun t ht => ?_),
      ih (regular_after regular h) (owned_after regular owned h) (named.leads leads) bears⟩
    · obtain ⟨s, entered, name⟩ := bears_of_live owned named hx
      exact bears _ s _ (entered_of_run (h :: hs) entered) name
    · obtain ⟨s, entered, name⟩ := bears_of_made regular owned named ht
      exact bears _ s _ (entered_of_run hs entered) name

end World

/-- `t` is the first task of a batch that was submitted under the name of the retry `u` of another batch. -/
def Task.TakesNameOf (t u : Task) : Prop :=
  t.retries = 0 ∧ u.retries ≠ 0 ∧ t.batch.root = u.batch.root.retry u.retries

namespace World

open Bench Office Custody

/-- What the names given along a history say of the tasks that are live after it, where `config` are the settings. -/
structure NamesApart (config : Config) (start : World) (hs : List Happening) : Prop where
  /-- Two live tasks have one name only where the name of a retry was given to another batch. -/
  clash : ∀ x ∈ (start.run hs).holdings, ∀ y ∈ (start.run hs).holdings, x.task.ticket ≠ y.task.ticket →
    x.task.id = y.task.id → x.task.TakesNameOf y.task ∨ y.task.TakesNameOf x.task
  /-- Where that is not done, no two live tasks have one name, and a name stands for one batch in all that happens:
  for whatever task it is that goes by it, and in the record of the waits and what the sinks keep. -/
  apart : (∀ a ∈ namesGiven hs, ∀ b ∈ namesGiven hs, ∀ k < config.retry.maxRetries, a ≠ b.retry (k + 1)) →
    (start.run hs).Distinct ∧ ∃ owner : BatchId → Nat,
      (∀ x ∈ (start.run hs).holdings, owner x.task.id = x.task.ticket) ∧ Along (KeepsNames owner) start hs

/-- Where batches are submitted under different names, two tasks have one name only if one is a batch and the other a
retry, and if no batch is submitted under the name of a retry, a name stands for one batch in all that happens. -/
theorem namesApart_run (config : Config) (workers : Nat) (wall : Calendar.Moment) (hs : List Happening)
    (given : (namesGiven hs).Nodup) : NamesApart config (opening config workers wall) hs := by
  have regular := regular_opening config workers wall
  have owned := owned_opening config workers wall
  have owned' := owned_run regular owned hs
  have named' := named_run config workers wall hs
  have names : (((opening config workers wall).run hs).entered.map (·.batchId)).Sublist (namesGiven hs) :=
    names_entered (opening config workers wall) hs
  have roots := given.sublist names
  constructor
  case clash =>
    intro x hx y hy other same
    obtain ⟨s, hs, batch⟩ := owned'.batch x (mem_live.2 hx)
    obtain ⟨u, hu, batch'⟩ := owned'.batch y (mem_live.2 hy)
    have apart (equal : x.task.batch.root = y.task.batch.root) : False := by
      rw [batch, batch'] at equal
      exact other (eq_of_root roots hs hu equal)
    have name := (named'.live x (mem_live.2 hx)).name
    have name' := (named'.live y (mem_live.2 hy)).name
    rw [name, name'] at same
    by_cases first : x.task.retries = 0 <;> by_cases first' : y.task.retries = 0
    · rw [if_pos first, if_pos first'] at same
      exact (apart same).elim
    · rw [if_pos first, if_neg first'] at same
      exact .inl ⟨first, first', same⟩
    · rw [if_neg first, if_pos first'] at same
      exact .inr ⟨first', first, same.symm⟩
    · rw [if_neg first, if_neg first'] at same
      exact (apart (BatchId.retry_inj.1 same).1).elim
  case apart =>
    intro chosen
    obtain ⟨owner, bears⟩ := exists_owner roots fun s hs u hu =>
      chosen _ (names.subset (List.mem_map_of_mem hs)) _ (names.subset (List.mem_map_of_mem hu))
    have live : ∀ x ∈ ((opening config workers wall).run hs).holdings, owner x.task.id = x.task.ticket := by
      intro x hx
      obtain ⟨s, entered, name⟩ := bears_of_live owned' named' hx
      exact bears _ s _ entered name
    refine ⟨?_, owner, live, keepsNames_along regular owned (named_run config workers wall []) bears⟩
    -- the names of live tasks are as different as their batches
    have tickets := nodup_tickets owned' fun _ => true
    rw [List.filter_true, ← List.map_congr_left live] at tickets
    refine List.Nodup.of_map owner ?_
    rwa [List.map_map]

/-- One of the recipients of a letter has to be retried, when another letter is submitted. -/
def letterRetried (id : String) : List Happening :=
  [.submit { letter with domain := ⟨"example.net"⟩ }, .tick, .sendEnded 0 (.ok halfDelivered), .collect 0,
    .submit { letter with id := id }]

/-- The other letter has a name of its own. -/
theorem namesApart_letterRetried :
    (namesGiven (letterRetried "b2")).Nodup ∧
      NamesApart noSessions (opening noSessions 4 0) (letterRetried "b2") ∧
      ((opening noSessions 4 0).run (letterRetried "b2")).holdings.map (·.task.id.text) = ["b2", "b1-retry1"] ∧
      ((opening noSessions 4 0).run (letterRetried "b2")).Distinct := by
  have given : (namesGiven (letterRetried "b2")).Nodup := by decide
  have apart := namesApart_run noSessions 4 0 (letterRetried "b2") given
  exact ⟨given, apart, by decide, (apart.apart (by decide)).1⟩

/-- The recipient that was left is delivered. -/
def restDelivered : Outcome where
  recipients := [⟨{ address := "b@example.org", retries := 1 }, 250, "OK", .delivered⟩]

/-- A letter under the name of another letter's retry finds no resources while that retry is sent. -/
def letterConfused : List Happening :=
  letterRetried "b1-retry1" ++
    [.tick, .pass 1000, .wake 1, .tick, .wake 2, .tick, .sendEnded 3 (.ok restDelivered)]

/-- That the names chosen are all different is not enough: a batch and a retry of another one can have the same name,
and then what happens to the one sets back the clock of the other. -/
theorem names_clash :
    (¬ ∀ (config : Config) (workers : Nat) (wall : Calendar.Moment) (hs : List Happening), (namesGiven hs).Nodup →
      ((opening config workers wall).run hs).Distinct) ∧
    ¬ ∀ (config : Config) (workers : Nat) (wall : Calendar.Moment) (hs : List Happening) (h : Happening),
      (namesGiven hs).Nodup → StartsStay ofJob ((opening config workers wall).run hs) h := by
  constructor
  · intro all
    have distinct := all noSessions 4 0 (letterRetried "b1-retry1") (by decide)
    exact absurd distinct (by decide)
  · intro all
    let w := (opening noSessions 4 0).run letterConfused
    have stay := all noSessions 4 0 letterConfused (.collect 3) (by decide)
    obtain ⟨x, hx, name, ticket⟩ : ∃ x ∈ w.holdings, x.task.id = ⟨"b1-retry1"⟩ ∧ x.task.ticket = 1 := by decide
    have began : w.office.waits.start? ⟨"b1-retry1"⟩ = some 1000 := by decide
    have cleared : (w.after (.collect 3)).office.waits.start? ⟨"b1-retry1"⟩ = none := by decide
    have unended : (w.after (.collect 3)).office.ledger.verdict? 1 = none := by decide
    have unaborted : w.aborts? (.collect 3) = none := by decide
    rcases stay x hx 1000 (name ▸ began) with still | relieves | ⟨own, same⟩ | ⟨aborts, own⟩
    · rw [name, cleared] at still
      cases still
    · exact not_relieves_of_idle rfl (ticket ▸ unended) relieves
    · cases same
    · rw [unaborted] at aborts
      cases aborts

end World

end Postroom
