import Postroom.Proofs.Resources.Judging
import Postroom.Proofs.Resources.Leasing

/-!
# Cooldowns follow from what was recorded

A pool that is used in any way while its clock is not set back. What it keeps of the answers recorded on an entry is
a streak and the end of a cooldown; both can be read off the answers themselves. The streak is the number of failures
that counted since the last success or the start of the last cooldown, whatever else was recorded in between and on
whatever entry. An entry is passed over exactly while a cooldown that was started on it is not over, and the streak
never grows beyond a word.

- `Recording`, `Leasing.logged`: the answers recorded on a pool, the latest first.
- `AddressConfig.failuresSince`, `AddressConfig.Cooled`: what they say about an entry.
- `Leasing.Timely`: the clock is not set back, and a cooldown that would start has an end.
- `Leasing.Chronicled`: the invariant, kept by every request. `Leasing.chronicled_run`: after any of them.
- `Leasing.CooledByLog`, `Leasing.cooledByLog_run`: how the pool judges answers and gives leases, read off the answers.
-/

namespace Postroom

/-- An answer recorded on an entry of a pool. -/
structure Recording where
  time : Int
  index : Nat
  code : Option Nat
  anySuccess : Bool
  /-- Whether it started a cooldown of the entry. -/
  cooled : Bool

namespace Recording

/-- It is a failure with a code that counts. -/
def isCounted (c : AddressConfig) (r : Recording) : Bool :=
  !r.anySuccess && (r.code.bind c.triggers.find?).isSome

/-- What was recorded before it does not count any more. -/
def endsStreak (r : Recording) : Bool := r.anySuccess || r.cooled

end Recording

namespace AddressConfig

variable {c : AddressConfig} {log : List Recording} {i : Nat}

/-- How many failures with a code that counts were recorded on an entry since its last success or the start of its
last cooldown. -/
def failuresSince (c : AddressConfig) (log : List Recording) (i : Nat) : Nat :=
  ((log.filter (·.index = i)).takeWhile (!·.endsStreak)).countP (·.isCounted c)

/-- A cooldown was started on the entry and is not over at the time. -/
def Cooled (c : AddressConfig) (log : List Recording) (i : Nat) (time : Int) : Prop :=
  ∃ r ∈ log, r.index = i ∧ r.cooled ∧ time < r.time + c.span

/-- What is recorded on another entry does not matter. -/
theorem failuresSince_cons_of_ne {r : Recording} (other : r.index ≠ i) :
    c.failuresSince (r :: log) i = c.failuresSince log i := by
  rw [failuresSince, List.filter_cons_of_neg (by simpa using other)]
  rfl

theorem failuresSince_cons_self {r : Recording} (here : r.index = i) : c.failuresSince (r :: log) i =
    if r.endsStreak then 0 else c.failuresSince log i + if r.isCounted c then 1 else 0 := by
  rw [failuresSince, List.filter_cons_of_pos (by simpa using here)]
  cases ends : r.endsStreak with
  | true =>
    rw [List.takeWhile_cons_of_neg (by simp [ends])]
    rfl
  | false =>
    rw [List.takeWhile_cons_of_pos (by simp [ends]), List.countP_cons]
    rfl

theorem cooled_cons {r : Recording} {time : Int} : c.Cooled (r :: log) i time ↔
    (r.index = i ∧ r.cooled ∧ time < r.time + c.span) ∨ c.Cooled log i time := List.exists_mem_cons_iff ..

/-- Only what starts a cooldown of the entry matters. -/
theorem cooled_cons_of_not {r : Recording} {time : Int} (idle : ¬ (r.index = i ∧ r.cooled)) :
    c.Cooled (r :: log) i time ↔ c.Cooled log i time :=
  cooled_cons.trans (or_iff_right fun now => idle ⟨now.1, now.2.1⟩)

end AddressConfig

/-- A lease that is taken forgets no cooldown that is not over. -/
theorem SourceState.isCooling_lease {e : SourceState} {now time : Int} (d : Domain) (later : now ≤ time) :
    (e.lease now d).isCooling time = e.isCooling time := by
  unfold isCooling lease
  dsimp only
  cases stored : e.cooledUntil with
  | none => simp [isCooling, stored]
  | some finish =>
    by_cases ahead : now < finish
    · simp [isCooling, stored, ahead]
    · have past : ¬ time < finish := by omega
      simp [isCooling, stored, ahead, past]

namespace Leasing

/-! ### What is recorded -/

/-- What a request records. -/
def recording? (s : Leasing) : Request → Option Recording
  | .record l code anySuccess =>
    some ⟨s.now, l.index, code, anySuccess, (s.pool.record s.now l code anySuccess).1 = .started⟩
  | _ => none

/-- What is on record after some requests, where `log` was before them. The latest comes first. -/
def logged (s : Leasing) (log : List Recording) : List Request → List Recording
  | [] => log
  | r :: rs => (s.after r).logged ((s.recording? r).toList ++ log) rs

/-- The clock is not set back, and where an answer is recorded a cooldown would have an end. -/
def InTime (c : AddressConfig) (s : Leasing) : Request → Prop
  | .clock now => s.now ≤ now
  | .record _ _ _ => ¬ c.Endless s.now
  | _ => True

/-- Each of the requests comes in time. -/
def Timely (c : AddressConfig) : Leasing → List Request → Prop
  | _, [] => True
  | s, r :: rs => s.InTime c r ∧ Timely c (s.after r) rs

/-! ### What every request keeps -/

/-- With settings `c`, every entry keeps what `log` says about it. -/
structure Chronicled (c : AddressConfig) (log : List Recording) (s : Leasing) : Prop where
  config : s.pool.config = c
  past : ∀ r ∈ log, r.time ≤ s.now
  streak : ∀ i e, s.pool.sources[i]? = some e → e.streak = c.failuresSince log i
  /-- A streak goes on only while it is too short for the code that it grew with. -/
  short : ∀ e ∈ s.pool.sources,
    e.streak = 0 ∨ ∃ k threshold, c.triggers.find? k = some threshold ∧ e.streak < threshold
  cooling : ∀ i e, s.pool.sources[i]? = some e → ∀ time, s.now ≤ time → (e.isCooling time ↔ c.Cooled log i time)

variable {c : AddressConfig} {log : List Recording} {s s' : Leasing}

theorem chronicled_opening (c : AddressConfig) (now : Int) : (opening c now).Chronicled c [] where
  config := rfl
  past r hr := absurd hr List.not_mem_nil
  streak i e he := by
    obtain ⟨a, -, rfl⟩ := List.mem_map.1 (List.mem_of_getElem? he)
    rfl
  short e he := by
    obtain ⟨a, -, rfl⟩ := List.mem_map.1 he
    exact .inl rfl
  cooling i e he time _ := by
    obtain ⟨a, -, rfl⟩ := List.mem_map.1 (List.mem_of_getElem? he)
    exact ⟨fun cooling => absurd cooling Bool.false_ne_true, fun ⟨r, hr, _⟩ => absurd hr List.not_mem_nil⟩

/-- A request that records nothing keeps streaks, and cooldowns that are not over. -/
theorem Chronicled.of_entries (h : s.Chronicled c log) (config : s'.pool.config = s.pool.config)
    (later : s.now ≤ s'.now) (each : ∀ (i : Nat) (e' : SourceState), s'.pool.sources[i]? = some e' →
      ∃ e, s.pool.sources[i]? = some e ∧ e'.streak = e.streak ∧
        ∀ time, s'.now ≤ time → e'.isCooling time = e.isCooling time) : s'.Chronicled c log where
  config := config.trans h.config
  past r hr := Int.le_trans (h.past r hr) later
  streak i e' he' := by
    obtain ⟨e, he, streak, -⟩ := each i e' he'
    exact streak.trans (h.streak i e he)
  short e' he' := by
    obtain ⟨i, hi⟩ := List.mem_iff_getElem?.1 he'
    obtain ⟨e, he, streak, -⟩ := each i e' hi
    exact streak ▸ h.short e (List.mem_of_getElem? he)
  cooling i e' he' time ahead := by
    obtain ⟨e, he, -, cooling⟩ := each i e' he'
    rw [cooling time ahead]
    exact h.cooling i e he time (Int.le_trans later ahead)

theorem chronicled_acquire (h : s.Chronicled c log) (d : Domain) : (s.after (.acquire d)).Chronicled c log := by
  cases taken : s.pool.acquire? s.now d with
  | none => simpa only [after, taken] using h
  | some lp =>
    obtain ⟨l, p⟩ := lp
    obtain ⟨-, e, he, -, -, rfl⟩ := AddressPool.acquire?_eq_some taken
    simp only [after, taken]
    refine h.of_entries rfl (Int.le_refl _) fun i e' he' => ?_
    by_cases here : l.index = i
    · subst here
      obtain ⟨inside, -⟩ := List.getElem?_eq_some_iff.1 he
      rw [List.getElem?_set_self inside] at he'
      cases he'
      exact ⟨e, he, rfl, fun time ahead => e.isCooling_lease d ahead⟩
    · rw [List.getElem?_set_ne here] at he'
      exact ⟨e', he', rfl, fun _ _ => rfl⟩

theorem chronicled_release (h : s.Chronicled c log) (place : Nat) :
    (s.after (.release place)).Chronicled c log := by
  cases held : s.out[place]? with
  | none => simpa only [after, held] using h
  | some l =>
    simp only [after, held]
    refine h.of_entries rfl (Int.le_refl _) fun i e' he' => ?_
    rw [AddressPool.release, List.getElem?_modify] at he'
    obtain ⟨e, he, same⟩ := Option.map_eq_some_iff.1 he'
    refine ⟨e, he, ?_⟩
    -- a lease that comes back is no answer
    split at same <;> subst same <;> exact ⟨rfl, fun _ _ => rfl⟩

/-- An answer on one entry, judged: the streak and the cooldown are those that the longer log tells. -/
theorem chronicled_judged (h : s.Chronicled c log) {l : Lease} {e e' : SourceState} {code : Option Nat}
    {anySuccess : Bool} {outcome : Cooldown} (he : s.pool.sources[l.index]? = some e)
    (ends : ¬ c.Endless s.now) (judged : AddressPool.Judged c s.now code e anySuccess outcome e')
    {r : Recording} (same : r = ⟨s.now, l.index, code, anySuccess, outcome = .started⟩) :
    e'.streak = c.failuresSince (r :: log) l.index ∧
      (e'.streak = 0 ∨ ∃ k threshold, c.triggers.find? k = some threshold ∧ e'.streak < threshold) ∧
      ∀ time, s.now ≤ time → (e'.isCooling time ↔ c.Cooled (r :: log) l.index time) := by
  subst same
  have streak := h.streak l.index e he
  have short := h.short e (List.mem_of_getElem? he)
  have cooling := h.cooling l.index e he
  rw [AddressConfig.failuresSince_cons_self rfl]
  cases judged with
  | success =>
    refine ⟨rfl, .inl rfl, fun time ahead => ?_⟩
    rw [AddressConfig.cooled_cons_of_not (by simp)]
    exact cooling time ahead
  | other uncounted =>
    refine ⟨?_, short, fun time ahead => ?_⟩
    · simpa [Recording.endsStreak, Recording.isCounted, uncounted] using streak
    · rw [AddressConfig.cooled_cons_of_not (by simp)]
      exact cooling time ahead
  | counted threshold trigger few =>
    obtain ⟨k, -, found⟩ := Option.bind_eq_some_iff.1 trigger
    refine ⟨?_, .inr ⟨k, threshold, found, few⟩, fun time ahead => ?_⟩
    · simpa [Recording.endsStreak, Recording.isCounted, trigger] using streak
    · rw [AddressConfig.cooled_cons_of_not (by simp)]
      exact cooling time ahead
  | cooled threshold trigger enough _ =>
    refine ⟨rfl, .inl rfl, fun time ahead => ?_⟩
    rw [AddressConfig.cooled_cons, SourceState.isCooling, decide_eq_true_iff]
    -- a cooldown that was started before ends no later than this one
    refine ⟨fun under => .inl ⟨rfl, rfl, under⟩, fun cooled => ?_⟩
    rcases cooled with ⟨-, -, under⟩ | ⟨r, hr, -, -, under⟩
    · exact under
    · have before := h.past r hr
      omega
  | endless threshold trigger enough endless => exact absurd endless ends

theorem chronicled_record (h : s.Chronicled c log) (ends : ¬ c.Endless s.now) (l : Lease) (code : Option Nat)
    (anySuccess : Bool) : (s.after (.record l code anySuccess)).Chronicled c
      (⟨s.now, l.index, code, anySuccess, (s.pool.record s.now l code anySuccess).1 = .started⟩ :: log) := by
  -- an entry after the answer is the entry before it, or the one that was judged
  have cases : ∀ (i : Nat) (e' : SourceState),
      (s.pool.record s.now l code anySuccess).2.sources[i]? = some e' →
        (l.index ≠ i ∧ s.pool.sources[i]? = some e') ∨ (l.index = i ∧ ∃ e, s.pool.sources[i]? = some e ∧
          AddressPool.Judged c s.now code e anySuccess (s.pool.record s.now l code anySuccess).1 e') := by
    intro i e' he'
    by_cases here : l.index = i
    · subst here
      cases he : s.pool.sources[l.index]? with
      | none =>
        rw [AddressPool.record_of_none he, he] at he'
        cases he'
      | some e =>
        rw [AddressPool.getElem?_record_self he] at he'
        cases he'
        rw [AddressPool.record_of_entry he]
        exact .inr ⟨rfl, e, rfl, h.config ▸ AddressPool.judged _ _ _ _ _⟩
    · rw [AddressPool.getElem?_record_of_ne here] at he'
      exact .inl ⟨here, he'⟩
  refine ⟨(s.pool.config_record s.now l code anySuccess).trans h.config, fun r hr => ?_, fun i e' he' => ?_,
    fun e' he' => ?_, fun i e' he' time ahead => ?_⟩
  · rcases List.mem_cons.1 hr with rfl | hr
    · exact Int.le_refl _
    · exact h.past r hr
  · rcases cases i e' he' with ⟨other, he⟩ | ⟨rfl, e, he, judged⟩
    · rw [AddressConfig.failuresSince_cons_of_ne other]
      exact h.streak i e' he
    · exact (chronicled_judged h he ends judged rfl).1
  · obtain ⟨i, hi⟩ := List.mem_iff_getElem?.1 he'
    rcases cases i e' hi with ⟨-, he⟩ | ⟨rfl, e, he, judged⟩
    · exact h.short e' (List.mem_of_getElem? he)
    · exact (chronicled_judged h he ends judged rfl).2.1
  · rcases cases i e' he' with ⟨other, he⟩ | ⟨rfl, e, he, judged⟩
    · rw [AddressConfig.cooled_cons_of_not fun both => other both.1]
      exact h.cooling i e' he time ahead
    · exact (chronicled_judged h he ends judged rfl).2.2 time ahead

theorem chronicled_after (h : s.Chronicled c log) {r : Request} (inTime : s.InTime c r) :
    (s.after r).Chronicled c ((s.recording? r).toList ++ log) := by
  cases r with
  | acquire d => exact chronicled_acquire h d
  | release place => exact chronicled_release h place
  | record l code anySuccess => exact chronicled_record h inTime l code anySuccess
  | clock now => exact h.of_entries rfl inTime fun i e he => ⟨e, he, rfl, fun _ _ => rfl⟩

theorem chronicled_run (h : s.Chronicled c log) {rs : List Request} (timely : s.Timely c rs) :
    (s.run rs).Chronicled c (s.logged log rs) := by
  induction rs generalizing s log with
  | nil => exact h
  | cons r rs ih => exact ih (chronicled_after h timely.1) timely.2

/-! ### How the pool judges and gives -/

/-- An entry may give a lease for `d`: no cooldown of it is under way, and it has fewer out than it may. -/
def Eligible (c : AddressConfig) (log : List Recording) (s : Leasing) (d : Domain) (i : Nat) : Prop :=
  ¬ c.Cooled log i s.now ∧ s.pool.leasesAt i d < c.capacity d

/-- All that a pool with settings `c` makes of the answers in `log`. -/
structure CooledByLog (c : AddressConfig) (log : List Recording) (s : Leasing) : Prop where
  /-- A cooldown starts with a failure that counts, when there have been enough of them for its code. -/
  starts : ∀ l code anySuccess, l.index < s.pool.sources.length → ¬ c.Endless s.now →
    ((s.pool.record s.now l code anySuccess).1 = .started ↔ anySuccess = false ∧
      ∃ k threshold, code = some k ∧ c.triggers.find? k = some threshold ∧
        threshold ≤ c.failuresSince log l.index + 1)
  /-- A failure with another code or with none changes nothing. -/
  ignores : ∀ l code, code.bind c.triggers.find? = none → s.pool.record s.now l code false = (.none, s.pool)
  /-- An answer changes no other entry than the one that it is recorded on. -/
  apart : ∀ l code anySuccess j, l.index ≠ j →
    (s.pool.record s.now l code anySuccess).2.sources[j]? = s.pool.sources[j]?
  /-- The streak is the number of failures that count, and one more of them still fits into a word. -/
  streak : ∀ i e, s.pool.sources[i]? = some e → e.streak = c.failuresSince log i ∧ e.streak + 1 < twoTo 32
  /-- No lease is to be had where no entry may give one. -/
  refuses : ∀ d, s.pool.acquire? s.now d = none ↔ ∀ i < s.pool.sources.length, ¬ s.Eligible c log d i
  /-- Else it is taken from the first of those that may give one and have the fewest out. -/
  grants : ∀ d l p, s.pool.acquire? s.now d = some (l, p) →
    l.index < s.pool.sources.length ∧ s.Eligible c log d l.index ∧
      ∀ j < s.pool.sources.length, s.Eligible c log d j →
        s.pool.leasesAt l.index d ≤ s.pool.leasesAt j d ∧
          (j < l.index → s.pool.leasesAt l.index d < s.pool.leasesAt j d)

namespace Chronicled

variable {d : Domain}

/-- The usable entries are the eligible ones. -/
theorem isUsable_iff (h : s.Chronicled c log) {i : Nat} {e : SourceState} (he : s.pool.sources[i]? = some e)
    (d : Domain) : s.pool.isUsable s.now d e ↔ s.Eligible c log d i := by
  rw [Eligible, ← h.cooling i e he s.now (Int.le_refl _), leasesAt_eq he, AddressPool.isUsable, h.config,
    Bool.and_eq_true, Bool.not_eq_true', decide_eq_true_iff, Bool.not_eq_true]

theorem starts (h : s.Chronicled c log) {l : Lease} (code : Option Nat) (anySuccess : Bool)
    (inside : l.index < s.pool.sources.length) (ends : ¬ c.Endless s.now) :
    (s.pool.record s.now l code anySuccess).1 = .started ↔ anySuccess = false ∧
      ∃ k threshold, code = some k ∧ c.triggers.find? k = some threshold ∧
        threshold ≤ c.failuresSince log l.index + 1 := by
  have he := List.getElem?_eq_getElem inside
  rw [AddressPool.record_of_entry he, ← h.streak l.index _ he, h.config]
  generalize s.pool.sources[l.index] = e
  have judged := AddressPool.judged c s.now code anySuccess e
  revert judged
  generalize (AddressPool.judge c s.now code anySuccess e).1 = outcome
  generalize (AddressPool.judge c s.now code anySuccess e).2 = e'
  intro judged
  -- with a code that counts, the threshold is the one that is found for it
  have enough_iff : ∀ threshold, code.bind c.triggers.find? = some threshold →
      ((∃ k threshold', code = some k ∧ c.triggers.find? k = some threshold' ∧ threshold' ≤ e.streak + 1) ↔
        threshold ≤ e.streak + 1) := by
    intro threshold trigger
    obtain ⟨k, rfl, found⟩ := Option.bind_eq_some_iff.1 trigger
    refine ⟨?_, fun enough => ⟨k, threshold, rfl, found, enough⟩⟩
    rintro ⟨_, threshold', ⟨⟩, found', enough⟩
    rw [found] at found'
    cases found'
    exact enough
  cases judged with
  | success => simp
  | other uncounted =>
    refine iff_of_false Cooldown.noConfusion ?_
    rintro ⟨-, k, threshold, rfl, found, -⟩
    rw [Option.bind_some, found] at uncounted
    cases uncounted
  | counted threshold trigger few =>
    refine iff_of_false Cooldown.noConfusion fun both => ?_
    have enough := (enough_iff threshold trigger).1 both.2
    omega
  | cooled threshold trigger enough _ => exact iff_of_true rfl ⟨rfl, (enough_iff threshold trigger).2 enough⟩
  | endless _ _ _ endless => exact absurd endless ends

theorem ignores (h : s.Chronicled c log) (l : Lease) {code : Option Nat}
    (uncounted : code.bind c.triggers.find? = none) : s.pool.record s.now l code false = (.none, s.pool) := by
  cases he : s.pool.sources[l.index]? with
  | none => exact AddressPool.record_of_none he
  | some e =>
    have same : AddressPool.judge s.pool.config s.now code false e = (.none, e) := by
      rw [AddressPool.judge, if_neg Bool.false_ne_true, h.config, uncounted]
    obtain ⟨inside, rfl⟩ := List.getElem?_eq_some_iff.1 he
    rw [AddressPool.record_of_entry he, same, List.set_getElem_self]

/-- A streak is shorter than some threshold, which fits into a word. -/
theorem fits (h : s.Chronicled c log) (words : ∀ e ∈ c.triggers.entries, e.2 < twoTo 32) {e : SourceState}
    (he : e ∈ s.pool.sources) : e.streak + 1 < twoTo 32 := by
  rcases h.short e he with none | ⟨k, threshold, found, short⟩
  · rw [none]
    decide
  · obtain ⟨x, hx, rfl⟩ := Option.map_eq_some_iff.1 found
    have := words x (List.mem_of_find?_eq_some hx)
    omega

theorem cooledByLog (h : s.Chronicled c log) (words : ∀ e ∈ c.triggers.entries, e.2 < twoTo 32) :
    s.CooledByLog c log where
  starts l code anySuccess inside ends := h.starts code anySuccess inside ends
  ignores l code uncounted := h.ignores l uncounted
  apart l code anySuccess j other := AddressPool.getElem?_record_of_ne other
  streak i e he := ⟨h.streak i e he, h.fits words (List.mem_of_getElem? he)⟩
  refuses d := by
    have barred : s.pool.acquire? s.now d = none ↔ ∀ e ∈ s.pool.sources, ¬ s.pool.isUsable s.now d e := by
      rw [AddressPool.acquire?_eq_none]
      refine forall₂_congr fun e _ => ?_
      rw [Bool.not_eq_true, AddressPool.isUsable_eq_false]
    rw [barred]
    refine ⟨fun none i inside => ?_, fun none e he => ?_⟩
    · have he := List.getElem?_eq_getElem inside
      rw [← h.isUsable_iff he]
      exact none _ (List.mem_of_getElem? he)
    · obtain ⟨i, hi⟩ := List.mem_iff_getElem?.1 he
      rw [h.isUsable_iff hi]
      exact none i (List.getElem?_eq_some_iff.1 hi).1
  grants d l p taken := by
    obtain ⟨e, he, usable, least⟩ := (AddressPool.acquire?_eq_some taken).1
    refine ⟨(List.getElem?_eq_some_iff.1 he).1, (h.isUsable_iff he d).1 usable, fun j inside eligible => ?_⟩
    have hj := List.getElem?_eq_getElem inside
    rw [leasesAt_eq he, leasesAt_eq hj]
    exact least j _ hj ((h.isUsable_iff hj d).2 eligible)

end Chronicled

/-- After any requests that come in time, the pool judges answers and gives leases as the answers recorded on it
say, where every threshold of the settings fits into a word. -/
theorem cooledByLog_run (c : AddressConfig) (now : Int) (rs : List Request) (timely : (opening c now).Timely c rs)
    (words : ∀ e ∈ c.triggers.entries, e.2 < twoTo 32) :
    ((opening c now).run rs).CooledByLog c ((opening c now).logged [] rs) :=
  (chronicled_run (chronicled_opening c now) timely).cooledByLog words

/-- Two addresses, with the usual codes. -/
def pair : AddressConfig where
  sources := [.v4 [10, 0, 0, 1], .v4 [10, 0, 0, 2]]

/-- A lease of an entry of the pair. -/
def pairLease (i : Nat) : Lease := ⟨i, .v4 [10, 0, 0, i + 1], ⟨"a.org"⟩⟩

/-- The second address cools down at once. The first one does so after a second, with two failures of different codes
around one that does not count, and a success that comes later does not end it. -/
def throttled : List Request :=
  [.acquire ⟨"a.org"⟩, .acquire ⟨"a.org"⟩, .record (pairLease 0) (some 451) false,
    .record (pairLease 1) (some 421) false, .record (pairLease 0) (some 550) false, .clock 1000,
    .record (pairLease 0) (some 450) false, .record (pairLease 0) (some 250) true, .clock 60999]

/-- A millisecond before the first cooldown is over, the second address is eligible again, and is taken. -/
theorem cooledByLog_throttled :
    ((opening pair 0).Timely pair throttled ∧ ∀ e ∈ pair.triggers.entries, e.2 < twoTo 32) ∧
      ((opening pair 0).logged [] throttled).map (·.cooled) = [false, true, false, true, false] ∧
      (((opening pair 0).run throttled).pool.acquire? 60999 ⟨"a.org"⟩).map (·.1.index) = some 1 ∧
      ((opening pair 0).run throttled).CooledByLog pair ((opening pair 0).logged [] throttled) := by
  have timely : (opening pair 0).Timely pair throttled :=
    ⟨trivial, trivial, show ¬ pair.Endless 0 by decide, show ¬ pair.Endless 0 by decide,
      show ¬ pair.Endless 0 by decide, show (0 : Int) ≤ 1000 by decide, show ¬ pair.Endless 1000 by decide,
      show ¬ pair.Endless 1000 by decide, show (1000 : Int) ≤ 60999 by decide, trivial⟩
  have words : ∀ e ∈ pair.triggers.entries, e.2 < twoTo 32 := by decide
  exact ⟨⟨timely, words⟩, by decide, by decide, cooledByLog_run pair 0 throttled timely words⟩

end Leasing

end Postroom
