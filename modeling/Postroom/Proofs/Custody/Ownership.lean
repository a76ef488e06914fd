import Postroom.Proofs.Custody.Course

/-!
# Who owns a batch

A batch that has not ended has one live task, in one place; a batch that has ended has none. So no batch is
lost, none is done twice, and no batch has two attempts at a time. The places are those of `Holding`: a lane,
a sleeper, an attempt, an expiry, a settlement, or the hands of whoever a registration gave it to.

- `Custody.Owned`: live tasks counted by ticket, kept by every change.
- `World.admitted`: the submissions taken along a history, with their handles.
- `World.SingleOwner`, `World.singleOwner_run`: what this means for the handles, after every history.
-/

namespace Postroom

variable {R : Task → Outcome → Prop}

theorem Move.ticket {g : Config} {n n' : Nat} {x y : Holding} (m : Move R g n x y n') :
    y.task.ticket = x.task.ticket := by
  cases m <;> rfl

theorem Move.batch {g : Config} {n n' : Nat} {x y : Holding} (m : Move R g n x y n') :
    y.task.batch = x.task.batch := by
  cases m <;> rfl

namespace Custody

/-- The live tasks under a ticket. -/
def count (c : Custody) (n : Nat) : Nat := c.live.countP fun x => x.task.ticket = n

/-- Open batches have one live task and others none, and each belongs to what was entered. -/
structure Owned (c : Custody) : Prop where
  count : ∀ n, c.count n = if c.ledger.isOpen n then 1 else 0
  entered : c.entered.length = c.ledger.accounts.length
  batch : ∀ x ∈ c.live, ∃ s, c.entered[x.task.ticket]? = some s ∧ x.task.batch = s.batch

namespace Owned

variable {c d : Custody} {g : Config} {e : List Submission} {l : Ledger} {n : Nat}
  {x : Holding} {L : Multiset Holding}

/-- The batch of a live task has not ended, and nothing else holds a task of it. -/
theorem of_live (hc : Owned ⟨g, e, l, n, x ::ₘ L⟩) :
    l.isOpen x.task.ticket ∧ ∀ y ∈ L, y.task.ticket ≠ x.task.ticket := by
  have h := hc.count x.task.ticket
  rw [Custody.count, Multiset.countP_cons, if_pos rfl] at h
  have isOpen : l.isOpen x.task.ticket := by
    by_contra closed
    rw [if_neg closed] at h
    cases h
  refine ⟨isOpen, fun y hy same => ?_⟩
  rw [if_pos isOpen] at h
  -- a second task under the ticket would be counted too
  have more : 0 < L.countP fun x' => x'.task.ticket = x.task.ticket :=
    Multiset.countP_pos.2 ⟨y, hy, same⟩
  omega

/-- The last task of a batch goes when the batch ends. -/
theorem ended (v : Verdict) (hc : Owned ⟨g, e, l, n, x ::ₘ L⟩) :
    Owned ⟨g, e, l.resolve x.task.ticket v, n, L⟩ where
  count m := by
    obtain ⟨isOpen, -⟩ := hc.of_live
    have h := hc.count m
    rw [Custody.count, Multiset.countP_cons] at h
    rw [Custody.count, Ledger.isOpen_resolve]
    by_cases hm : x.task.ticket = m
    · subst hm
      rw [if_pos rfl, if_pos isOpen] at h
      simpa using h
    · simpa [hm] using h
  entered := by
    rw [hc.entered]
    exact List.length_modify .. |>.symm
  batch y hy := hc.batch y (Multiset.mem_cons_of_mem hy)

theorem change (h : Change R c d) (hc : Owned c) : Owned d := by
  cases h with
  | @move g e l n n' x y L m =>
    refine ⟨?_, hc.entered, ?_⟩
    · intro k
      rw [← hc.count k, Custody.count, Custody.count, Multiset.countP_cons, Multiset.countP_cons, m.ticket]
    · intro z hz
      rcases Multiset.mem_cons.1 hz with rfl | hz
      · rw [m.ticket, m.batch]
        exact hc.batch x (Multiset.mem_cons_self x L)
      · exact hc.batch z (Multiset.mem_cons_of_mem hz)
  | @enter g e l n L s nonempty =>
    -- the new ticket lies past the end of the ledger: nothing is live under it yet
    have fresh : l.isOpen l.accounts.length = false :=
      Bool.eq_false_iff.2 fun h => Nat.lt_irrefl _ (Ledger.lt_of_isOpen h)
    have length : e.length = l.accounts.length := hc.entered
    refine ⟨?_, ?_, ?_⟩
    · intro k
      have h := hc.count k
      rw [Custody.count] at h
      rw [Custody.count, Multiset.countP_cons, h, Ledger.isOpen_enter]
      by_cases hk : k = l.accounts.length
      · subst hk
        simp [fresh, Holding.task, Submission.task, Task.first, Ledger.enter]
      · simp [hk, Ne.symm hk, Holding.task, Submission.task, Task.first, Ledger.enter]
    · simp [length, Ledger.enter]
    · intro z hz
      rcases Multiset.mem_cons.1 hz with rfl | hz
      · refine ⟨s, ?_, rfl⟩
        show (e ++ [s])[l.accounts.length]? = some s
        rw [← length]
        exact List.getElem?_concat_length
      · obtain ⟨u, hu, hb⟩ := hc.batch z hz
        exact ⟨u, List.getElem?_append_left (List.getElem?_eq_some_iff.1 hu).1 ▸ hu, hb⟩
  | @settle g e l n L s =>
    refine ⟨?_, ?_, ?_⟩
    · intro k
      have h := hc.count k
      rw [Custody.count, Multiset.countP_cons] at h
      rw [Custody.count, Multiset.countP_cons, Ledger.isOpen_settle]
      exact h
    · rw [hc.entered]
      exact List.length_modify .. |>.symm
    · intro z hz
      rcases Multiset.mem_cons.1 hz with rfl | hz
      · exact hc.batch (.settlement s) (Multiset.mem_cons_self _ L)
      · exact hc.batch z (Multiset.mem_cons_of_mem hz)
  | complete t done => exact hc.ended (x := .outside t) _
  | fail t cause => exact hc.ended (x := .outside t) _

theorem leads (h : Leads R c d) (hc : Owned c) : Owned d := h.keeps (fun _ _ => change) hc

/-- What every change of an owned custody keeps, a chain of changes keeps. -/
theorem keeps {I : Custody → Prop} (step : ∀ c d, Change R c d → Owned c → I c → I d) (h : Leads R c d)
    (owned : Owned c) (hc : I c) : I d := by
  have both : Owned d ∧ I d :=
    h.keeps (I := fun c => Owned c ∧ I c)
      (fun c d change hc => ⟨Owned.change change hc.1, step c d change hc.1 hc.2⟩) ⟨owned, hc⟩
  exact both.2

end Owned

end Custody

/-- The number of a handle in the ledger, if it is there. -/
def Handle.ticket? : Handle → Option Nat
  | .ticket n => some n
  | .ready _ => none

/-- Whether a task is under way: its send is not over, or what follows from it. -/
def Holding.isRunning : Holding → Bool
  | .attempt _ => true
  | .settlement ⟨_, _, .attempt _, _, _⟩ => true
  | _ => false

namespace World

open Custody Office

variable {w : World}

/-- The live tasks of a batch. -/
def heldOf (w : World) (n : Nat) : List Holding := w.holdings.filter fun x => x.task.ticket = n

/-- The submission that a happening brings in, with its handle. -/
def admits (w : World) : Happening → List (Submission × Handle)
  | .submit s =>
    match (w.office.submit s).1 with
    | .ok a => [(s, a.handle)]
    | .error _ => []
  | _ => []

/-- The submissions taken along a history, with their handles. -/
def admitted : World → List Happening → List (Submission × Handle)
  | _, [] => []
  | w, h :: hs => w.admits h ++ admitted (w.after h) hs

/-- An admission with its ticket, if it has one. -/
def ticketed (p : Submission × Handle) : Option (Submission × Nat) := p.2.ticket?.map (p.1, ·)

theorem owned_opening (config : Config) (workers : Nat) (wall : Calendar.Moment) :
    (opening config workers wall).custody.Owned where
  count n := by
    rw [count, custody_live]
    rfl
  entered := rfl
  batch x hx := absurd hx (not_mem_live_opening config workers wall x)

theorem owned_run {start : World} (regular : start.custody.Regular) (owned : start.custody.Owned)
    (hs : List Happening) : (start.run hs).custody.Owned :=
  owned.leads (leads_run regular (along_of_forall fits_true start hs))

/-- What happens enters what it brings in, in the next place of the ledger. -/
theorem entered_after (owned : w.custody.Owned) (h : Happening) :
    (w.after h).entered.zipIdx = w.entered.zipIdx ++ (w.admits h).filterMap ticketed := by
  -- all but a submission leave the list as it is
  have still : ∀ v : World, v.entered = w.entered →
      v.entered.zipIdx = w.entered.zipIdx ++ ([] : List (Submission × Nat)) := by
    intro v same
    rw [same, List.append_nil]
  cases h with
  | submit s =>
    rcases submit_cases w.office s with ⟨answer, h, trace⟩ | ⟨nonempty, a, handle, h⟩
    · have none : (w.admits (.submit s)).filterMap ticketed = [] := by
        simp only [admits, h]
        cases answer with
        | error f => rfl
        | ok a => simp [ticketed, (trace a rfl).2, Handle.ticket?]
      rw [after, submit_of_untaken h trace, none, List.append_nil]
    · have next : (w.office.enter s).1.ticket = w.entered.length := owned.entered.symm
      have one : (w.admits (.submit s)).filterMap ticketed = [(s, w.entered.length)] := by
        simp [admits, h, ticketed, handle, next, Handle.ticket?]
      rw [after, submit_of_entered h handle, one, List.zipIdx_append]
      simp
  | failOutside place cause =>
    refine still _ ?_
    simp only [after, useOutside]
    split <;> rfl
  | dropOutside place =>
    refine still _ ?_
    simp only [after, useOutside]
    split <;> rfl
  | _ => exact still _ rfl

/-- The ledger holds what was admitted along a history, each under a ticket of its own. -/
theorem entered_run {start : World} (regular : start.custody.Regular) (owned : start.custody.Owned)
    (hs : List Happening) : (start.run hs).entered.zipIdx =
      start.entered.zipIdx ++ (start.admitted hs).filterMap ticketed := by
  induction hs generalizing start with
  | nil => simp [admitted]
  | cons h hs ih =>
    rw [run_cons, ih (regular_after regular h) (owned.leads (leads_after regular (fits_true start h))),
      entered_after owned h, admitted, List.filterMap_append, List.append_assoc]

/-- What is live under a ticket, counted. -/
theorem length_heldOf (owned : w.custody.Owned) (n : Nat) :
    (w.heldOf n).length = if w.office.ledger.isOpen n then 1 else 0 := by
  have h := owned.count n
  rw [count, custody_live, Multiset.coe_countP] at h
  rw [heldOf, ← List.countP_eq_length_filter]
  exact h

/-- Of the batches admitted so far, each has one owner until it ends, and none from then on. -/
structure SingleOwner (w : World) (admitted : List (Submission × Handle)) : Prop where
  /-- Different admissions have different tickets. -/
  tickets : (admitted.filterMap (·.2.ticket?)).Nodup
  /-- A batch whose handle is not resolved has one live task, in one place. -/
  unresolved : ∀ s handle, (s, handle) ∈ admitted → w.office.verdict? handle = none →
    ∃ n x, handle = .ticket n ∧ w.heldOf n = [x] ∧ x.task.batch = s.batch
  /-- A batch whose handle is resolved has no live task. -/
  resolved : ∀ s handle, (s, handle) ∈ admitted → w.office.verdict? handle ≠ none →
    ∀ n, handle = .ticket n → w.heldOf n = []
  /-- Whatever is live belongs to a batch that was admitted and has not ended. -/
  live : ∀ x ∈ w.holdings, w.office.verdict? (.ticket x.task.ticket) = none ∧
    ∃ s, (s, .ticket x.task.ticket) ∈ admitted ∧ x.task.batch = s.batch
  /-- No two attempts under way are at one batch. -/
  attempts : ((w.holdings.filter (·.isRunning)).map (·.task.ticket)).Nodup

theorem mem_ticketed {as : List (Submission × Handle)} {s : Submission} {n : Nat} :
    (s, n) ∈ as.filterMap ticketed ↔ (s, Handle.ticket n) ∈ as := by
  rw [List.mem_filterMap]
  constructor
  · rintro ⟨⟨u, handle⟩, hu, he⟩
    cases handle with
    | ready v => cases he
    | ticket m =>
      cases he
      exact hu
  · exact fun h => ⟨_, h, rfl⟩

theorem map_ticketed (as : List (Submission × Handle)) :
    (as.filterMap ticketed).map Prod.snd = as.filterMap (·.2.ticket?) := by
  rw [List.map_filterMap]
  refine List.filterMap_congr fun p _ => ?_
  rw [ticketed, Option.map_map]
  exact Option.map_id' ..

theorem mem_heldOf {x : Holding} {n : Nat} :
    x ∈ w.heldOf n ↔ x ∈ w.holdings ∧ x.task.ticket = n := by
  rw [heldOf, List.mem_filter, decide_eq_true_iff]

/-- Where no two live tasks have the same ticket, no two of some of them do. -/
theorem nodup_tickets (owned : w.custody.Owned) (p : Holding → Bool) :
    ((w.holdings.filter p).map (·.task.ticket)).Nodup := by
  refine List.nodup_iff_count_le_one.2 fun n => ?_
  have most : (w.heldOf n).length ≤ 1 := by
    rw [length_heldOf owned]
    split <;> omega
  -- fewer are chosen than are held under the ticket
  rw [List.count, List.countP_map]
  refine le_trans (List.Sublist.countP_le List.filter_sublist) ?_
  rw [heldOf, ← List.countP_eq_length_filter] at most
  exact most

/-- The queued tasks are among the live ones, in their order. -/
theorem sublist_queued (w : World) : w.office.lanes.tasks.Sublist (w.holdings.map (·.task)) := by
  have queued : w.office.lanes.tasks =
      (Lane.serviceOrder.flatMap fun l => (w.office.lanes.line l).tasks.map (Holding.queued l)).map (·.task) := by
    simp only [Lanes.tasks, List.map_flatMap, List.map_map]
    exact congrArg (List.flatMap · _) (funext fun l => (List.map_id _).symm)
  rw [queued, holdings, Office.holdings]
  refine List.Sublist.map _ ?_
  simp only [List.append_assoc]
  exact (List.sublist_append_left _ _).trans (List.sublist_append_right _ _)

/-- No batch has two queued tasks. -/
theorem nodup_queued (owned : w.custody.Owned) : (w.office.lanes.tasks.map (·.ticket)).Nodup := by
  have all := nodup_tickets owned fun _ => true
  rw [List.filter_true] at all
  have queued := (sublist_queued w).map (·.ticket)
  rw [List.map_map] at queued
  exact all.sublist queued

/-- Where the ledger holds what was admitted, what was admitted is found there by its ticket. -/
theorem mem_entered {admitted : List (Submission × Handle)}
    (entered : admitted.filterMap ticketed = w.entered.zipIdx) (s : Submission) (n : Nat) :
    (s, Handle.ticket n) ∈ admitted ↔ w.entered[n]? = some s := by
  rw [← mem_ticketed, entered, List.mem_zipIdx_iff_getElem?]

/-- Where the ledger holds what was admitted, owned custody means single owners. -/
theorem singleOwner_of_owned {admitted : List (Submission × Handle)} (owned : w.custody.Owned)
    (entered : admitted.filterMap ticketed = w.entered.zipIdx) : SingleOwner w admitted := by
  have known := mem_entered entered
  have batch : ∀ x ∈ w.holdings, ∃ s, w.entered[x.task.ticket]? = some s ∧ x.task.batch = s.batch := by
    intro x hx
    exact owned.batch x (by rwa [custody_live, Multiset.mem_coe])
  refine ⟨?_, ?_, ?_, ?_, nodup_tickets owned _⟩
  · rw [← map_ticketed, entered, List.zipIdx_map_snd]
    exact List.nodup_range'
  · intro s handle hs unresolved
    cases handle with
    | ready v => cases unresolved
    | ticket n =>
      have he := (known s n).1 hs
      have inside : n < w.office.ledger.accounts.length :=
        owned.entered ▸ (List.getElem?_eq_some_iff.1 he).1
      have one := length_heldOf owned n
      rw [if_pos (Ledger.isOpen_iff.2 ⟨inside, unresolved⟩)] at one
      obtain ⟨x, hx⟩ := List.length_eq_one_iff.1 one
      refine ⟨n, x, rfl, hx, ?_⟩
      obtain ⟨live, ticket⟩ := mem_heldOf.1 (hx ▸ List.mem_singleton_self x)
      obtain ⟨u, hu, same⟩ := batch x live
      rw [ticket, he] at hu
      cases hu
      exact same
  · rintro s handle hs resolved n rfl
    have closed : ¬ w.office.ledger.isOpen n := fun h => resolved (Ledger.isOpen_iff.1 h).2
    have none := length_heldOf owned n
    rw [if_neg closed] at none
    exact List.length_eq_zero_iff.1 none
  · intro x hx
    obtain ⟨s, hs, same⟩ := batch x hx
    have some : 0 < (w.heldOf x.task.ticket).length :=
      List.length_pos_of_mem (mem_heldOf.2 ⟨hx, rfl⟩)
    have unended : w.office.ledger.isOpen x.task.ticket := by
      by_contra closed
      rw [length_heldOf owned, if_neg closed] at some
      cases some
    exact ⟨(Ledger.isOpen_iff.1 unended).2, s, (known s _).2 hs, same⟩

/-- After every history of a new office, every batch has one owner until it ends. -/
theorem singleOwner_run (config : Config) (workers : Nat) (wall : Calendar.Moment) (hs : List Happening) :
    SingleOwner ((opening config workers wall).run hs)
      ((opening config workers wall).admitted hs) := by
  have regular := regular_opening config workers wall
  have owned := owned_opening config workers wall
  have entered := entered_run regular owned hs
  exact singleOwner_of_owned (owned_run regular owned hs) entered.symm

end World

end Postroom
