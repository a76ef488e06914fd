import Mathlib.Data.Multiset.AddSub
import Postroom.Proofs.Shutdown.Crew
import Postroom.Proofs.Tables
import Postroom.Rehearsal.Report

/-!
# What goes on in a rehearsal

A rehearsal decides what the histories of an office leave open: in which order jobs go on, what mail servers and sinks
answer, when time passes and when sleepers wake. Each thing that it does is some happenings in a row, so that what holds
after every history of an office holds of every rehearsal.

Work other than sends does not come into this. A rehearsal can give it to the workers of an office, but no office does.

- `Rehearsal.Accords`: a world stands as a rehearsal does, and the tasks outside are those kept under names.
- `Rehearsal.Goes`: from one rehearsal to another, all that is done is a history in which no drain takes anything.
- `Rehearsal.goes_settle`, `Rehearsal.goes_cycle`, `Rehearsal.goes_release`: jobs, a tick, a send that is let go on.
- `Rehearsal.goes_advanceFrom`, `Rehearsal.goes_setWall`: time passes, or the time of day is set.
- `Rehearsal.goes_report`: what goes on before a report.
-/

namespace Postroom

/-- A clock that is set forwards and back shows what it showed, unless it stayed where it was. -/
theorem Calendar.Moment.move_back (m : Calendar.Moment) (ms : Int) : (m.move ms).move (-ms) = m ∨ m.move ms = m := by
  unfold move
  cases moved : at? (m.time + ms) with
  | none => exact .inr rfl
  | some n =>
    refine .inl ?_
    have time : n.time = m.time + ms := by
      unfold at? at moved
      split at moved
      · cases moved
        rfl
      · cases moved
    have back : at? (n.time + -ms) = some m := by
      rw [time, Int.add_neg_cancel_right]
      exact dif_pos ⟨m.early, m.late⟩
    show (at? (n.time + -ms)).getD n = m
    rw [back]
    rfl

/-- The job has to do with the attempts and expiries of an office. -/
def Job.isOwn : Job → Bool
  | .work .. => false
  | _ => true

namespace Rehearsal

open Office

/-- A world stands as a rehearsal does. The tasks outside are those kept under names and some more, and what waits to be
let go on are sends. -/
structure Accords (more : Multiset Task) (w : World) (b : Rehearsal) : Prop where
  office : w.office = b.office
  outside : (↑w.outside : Multiset Task) = ↑(b.held.entries.map Prod.snd) + more
  distinct : b.held.Distinct
  parked : ∀ e ∈ b.parked, ∃ n, e.2 = .send n

/-- From `b` to `b'` all that is done is a history, in which no drain takes anything. -/
structure Goes (b b' : Rehearsal) : Prop where
  run {more : Multiset Task} {w : World} (accords : Accords more w b) :
    ∃ hs : List Happening, (∀ h ∈ hs, h.drains = false) ∧ Accords more (w.run hs) b'

variable {b b' b'' : Rehearsal}

namespace Goes

theorem refl (b : Rehearsal) : Goes b b where
  run accords := ⟨[], fun _ h => absurd h List.not_mem_nil, accords⟩

theorem trans (h : Goes b b') (h' : Goes b' b'') : Goes b b'' := by
  constructor
  intro more w accords
  obtain ⟨hs, free, accords⟩ := h.run accords
  obtain ⟨ks, free', accords⟩ := h'.run accords
  refine ⟨hs ++ ks, fun k hk => (List.mem_append.1 hk).elim (free k) (free' k), ?_⟩
  rwa [World.run_append]

/-- Nothing happens to the office, and other sends may wait to be let go on. -/
theorem parking (office : b'.office = b.office) (held : b'.held = b.held)
    (parked : ∀ e ∈ b'.parked, e ∈ b.parked ∨ ∃ n, e.2 = .send n) : Goes b b' := by
  constructor
  intro more w accords
  refine ⟨[], fun _ h => absurd h List.not_mem_nil, accords.office.trans office.symm, ?_, held ▸ accords.distinct, ?_⟩
  · rw [held]
    exact accords.outside
  · exact fun e he => (parked e he).elim (accords.parked e) id

/-- What changes has nothing to do with the office, nor with what is kept or waits to be let go on. -/
theorem aside (office : b'.office = b.office) (held : b'.held = b.held) (parked : b'.parked = b.parked) : Goes b b' :=
  .parking office held fun _ he => .inl (parked ▸ he)

/-- Whatever happens, it happens to the office alone. -/
theorem ofHistory {f : Office → Office}
    (found : ∀ w : World, ∃ hs : List Happening, (∀ h ∈ hs, h.drains = false) ∧ w.run hs = w.withOffice f) :
    Goes b (b.withOffice f) := by
  constructor
  intro more w accords
  obtain ⟨hs, free, same⟩ := found w
  refine ⟨hs, free, ?_⟩
  rw [same]
  exact ⟨congrArg f accords.office, accords.outside, accords.distinct, accords.parked⟩

/-- One thing happens, and to the office alone. -/
theorem one {h : Happening} {f : Office → Office} (free : h.drains = false)
    (same : ∀ w : World, w.after h = w.withOffice f) : Goes b (b.withOffice f) :=
  .ofHistory fun w => ⟨[h], fun _ hk => List.mem_singleton.1 hk ▸ free, same w⟩

theorem foldl {α : Type} {f : Rehearsal → α → Rehearsal} (goes : ∀ b x, Goes b (f b x)) (xs : List α) (b : Rehearsal) :
    Goes b (xs.foldl f b) := by
  induction xs generalizing b with
  | nil => exact .refl b
  | cons x xs ih => exact (goes b x).trans (ih (f b x))

/-- The same beside something that is put together meanwhile. -/
theorem foldl_fst {α β : Type} {f : Rehearsal × β → α → Rehearsal × β} {xs : List α}
    (goes : ∀ p, ∀ x ∈ xs, Goes p.1 (f p x).1) (p : Rehearsal × β) : Goes p.1 (xs.foldl f p).1 := by
  induction xs generalizing p with
  | nil => exact .refl p.1
  | cons x xs ih =>
    have rest := ih (fun q y hy => goes q y (List.mem_cons_of_mem x hy)) (f p x)
    exact (goes p x List.mem_cons_self).trans rest

end Goes

/-! ## Recording -/

theorem goes_note (b : Rehearsal) (e : Entry) : Goes b (b.note e) := .aside rfl rfl rfl

theorem goes_askSink (b : Rehearsal) (t : Task) (r : RecipientResult) : Goes b (b.askSink t r).2 := by
  unfold askSink
  split
  · exact .refl b
  · dsimp only
    split
    · exact .aside rfl rfl rfl
    · split
      · exact .aside rfl rfl rfl
      · exact .aside rfl rfl rfl

theorem goes_recordAll (number : Nat) (t : Task) (results : List RecipientResult) (b : Rehearsal) :
    Goes b (recordAll number t results b) := by
  induction results generalizing b with
  | nil => exact .refl b
  | cons r rest ih =>
    have asked := goes_askSink b t r
    unfold recordAll
    generalize b.askSink t r = p at asked ⊢
    obtain ⟨answer, b'⟩ := p
    cases answer with
    | accepted =>
      have recorded : Goes b' (b'.withOffice (·.recordAccepted number)) :=
        .one (h := .recordAccepted number) rfl fun _ => rfl
      exact (asked.trans recorded).trans (ih _)
    | refused message => exact asked.trans (.one (h := .recordRefused number message) rfl fun _ => rfl)
    | silent => exact asked

theorem goes_recordSettlement (b : Rehearsal) (number : Nat) : Goes b (b.recordSettlement number) := by
  unfold recordSettlement
  split
  · exact goes_recordAll ..
  · exact .refl b

theorem goes_collect (b : Rehearsal) (number : Nat) : Goes b (b.collect number) :=
  (Goes.one (h := .collect number) rfl fun _ => rfl).trans (goes_recordSettlement ..)

/-! ## Sends -/

theorem goes_noteActs (domain : Domain) (acts : List Act) (b : Rehearsal) : Goes b (b.noteActs domain acts) := by
  induction acts generalizing b with
  | nil => exact .refl b
  | cons a acts ih =>
    cases a with
    | failed code => exact (Goes.one (h := .sessionFailed domain code) rfl fun _ => rfl).trans (ih _)
    | _ => exact (goes_note ..).trans (ih _)

theorem goes_runSession (b : Rehearsal) (a : Attempt) : Goes b (b.runSession a) := by
  unfold runSession
  dsimp only
  generalize Session.run .. = s
  have used : Goes b { b with script := s.peer.script } := .aside rfl rfl rfl
  have noted := used.trans (goes_noteActs a.task.domain s.acts _)
  exact noted.trans (.one (h := .sendEnded a.number (.ok s.outcome)) rfl fun _ => rfl)

theorem goes_performSend (b : Rehearsal) (a : Attempt) : Goes b (b.performSend a) := by
  unfold performSend
  dsimp only
  split
  · exact goes_runSession ..
  · split
    · exact .one (h := .sendEnded a.number (.error Fault.workerLost)) rfl fun _ => rfl
    · rcases b.script.sendFaults.next a.task.id.text with ⟨fault, sendFaults⟩
      have used : Goes b { b with script := { b.script with sendFaults := sendFaults } } :=
        .aside rfl rfl rfl
      cases fault with
      | some cause => exact used.trans (.one (h := .sendEnded a.number (.error cause)) rfl fun _ => rfl)
      | none => exact used.trans (goes_runSession ..)

theorem goes_takePass? {name : String} (taken : b.takePass? name = some b') : Goes b b' := by
  unfold takePass? at taken
  split at taken
  · cases taken
    exact .aside rfl rfl rfl
  · cases taken

theorem goes_goOn (b : Rehearsal) (a : Attempt) : Goes b (b.goOn a) := by
  unfold goOn
  dsimp only
  split
  · split
    · next b' taken => exact (goes_takePass? taken).trans (goes_performSend ..)
    · refine .parking rfl rfl fun e he => (List.mem_append.1 he).imp_right fun new => ⟨a.number, ?_⟩
      rw [List.mem_singleton.1 new]
  · exact goes_performSend ..

theorem goes_beginSend (b : Rehearsal) (a : Attempt) : Goes b (b.beginSend a) := by
  unfold beginSend
  dsimp only
  split
  · exact goes_goOn ..
  · split
    · exact (goes_note ..).trans (goes_goOn ..)
    · exact .aside rfl rfl rfl

theorem goes_withSend {f : Rehearsal → Attempt → Rehearsal} (goes : ∀ b a, Goes b (f b a)) (b : Rehearsal)
    (number : Nat) : Goes b (b.withSend number f) := by
  unfold withSend
  split
  · exact goes ..
  · exact .refl b

/-! ## Jobs -/

theorem goes_perform {j : Job} (own : j.isOwn) (b : Rehearsal) : Goes b (b.perform j).1 := by
  cases j with
  | launch n => exact (goes_withSend goes_beginSend b n).trans (goes_collect ..)
  | afterDelay n => exact goes_withSend goes_goOn b n
  | afterHold n => exact goes_withSend goes_performSend b n
  | expiry n => exact (Goes.one (h := .beginExpiry n) rfl fun _ => rfl).trans (goes_recordSettlement ..)
  | work => cases own

theorem goes_wakeDue (b : Rehearsal) : Goes b b.wakeDue :=
  .foldl (fun _ s => .one (h := .wake s.number) rfl fun _ => rfl) ..

theorem goes_settle {jobs : List Job} (own : ∀ j ∈ jobs, j.isOwn) (b : Rehearsal) : Goes b (b.settle jobs) := by
  let step (p : Rehearsal × List Nat) (j : Job) := ((p.1.perform j).1, p.2 ++ (p.1.perform j).2.toList)
  have performed : Goes b (jobs.foldl step (b, [])).1 :=
    .foldl_fst (f := step) (fun p j hj => goes_perform (own j hj) p.1) (b, [])
  exact (performed.trans (.foldl goes_collect ..)).trans (goes_wakeDue _)

theorem isOwn_jobOf (l : Launch) : (jobOf l).isOwn := by
  cases l <;> rfl

theorem goes_cycle (b : Rehearsal) : Goes b b.cycle.2 := by
  have ticked : Goes b (b.withOffice fun o => o.tick.office) := .one (h := .tick) rfl fun _ => rfl
  refine ticked.trans (goes_settle (fun j hj => ?_) _)
  obtain ⟨l, -, rfl⟩ := List.mem_map.1 hj
  exact isOwn_jobOf l

/-- What is let go on is a send. -/
theorem goes_release (b : Rehearsal) (name : String) : Goes b (b.release name) := by
  constructor
  intro more w accords
  unfold release
  split
  · have more : Goes b { b with passes := b.passes.modify name 0 (· + 1) } := .aside rfl rfl rfl
    exact more.run accords
  · next e p found =>
    obtain ⟨n, rfl⟩ : ∃ n, p = .send n := accords.parked _ (List.mem_of_find?_eq_some found)
    have taken : Goes b { b with parked := b.parked.eraseP (·.1 = name) } :=
      .parking rfl rfl fun e he => .inl (List.mem_of_mem_eraseP he)
    have own : ∀ j ∈ [Job.afterHold n], j.isOwn := fun j hj => List.mem_singleton.1 hj ▸ rfl
    exact (taken.trans (goes_settle own _)).run accords

/-! ## Time -/

theorem goes_elapse (b : Rehearsal) (ms : Nat) : Goes b (b.elapse ms) := by
  unfold elapse
  cases b.plain with
  | false => exact .one (h := .pass ms) rfl fun _ => rfl
  | true =>
    refine .ofHistory fun w => ?_
    let at' (m : Calendar.Moment) : World := w.withOffice fun o =>
      { o with clock := { wall := m, uptime := o.clock.uptime + ms } }
    -- the time of day goes back to where it was, unless it has not moved
    rcases Calendar.Moment.move_back w.office.clock.wall ms with back | still
    · exact ⟨[.pass ms, .shift (-ms)], by simp [Happening.drains], congrArg at' back⟩
    · exact ⟨[.pass ms], by simp [Happening.drains], congrArg at' still⟩

theorem goes_tickAt (b : Rehearsal) (now : Nat) : Goes b (b.tickAt now) := by
  unfold tickAt
  split
  · exact (goes_cycle b).trans (.aside rfl rfl rfl)
  · exact .refl b

theorem isOwn_afterDelay (sends : List DelayedSend) : ∀ j ∈ sends.map fun d => Job.afterDelay d.number, j.isOwn := by
  intro j hj
  obtain ⟨d, -, rfl⟩ := List.mem_map.1 hj
  rfl

theorem isOwn_none : ∀ j ∈ ([] : List Job), j.isOwn := fun _ hj => absurd hj List.not_mem_nil

theorem goes_moment (b : Rehearsal) (now : Nat) : Goes b (b.moment now) := by
  have taken : Goes b { b with delayed := b.delayed.filter (now < ·.due) } := .aside rfl rfl rfl
  exact ((taken.trans (goes_settle (isOwn_afterDelay _) _)).trans (goes_tickAt _ now)).trans (goes_settle isOwn_none _)

theorem goes_advanceFrom (b : Rehearsal) (now target : Nat) : Goes b (advanceFrom b now target) := by
  fun_induction advanceFrom b now target with
  | case1 b now due _ _ ih => exact ((goes_elapse b _).trans (goes_moment _ due)).trans ih
  | case2 b now => exact goes_elapse b _
  | case3 b now => exact goes_elapse b _

theorem goes_setWall (b : Rehearsal) (ms : Int) : Goes b (b.setWall ms) := by
  unfold setWall
  split
  · exact .refl b
  · exact .one (h := .shift ms) rfl fun _ => rfl

theorem goes_serve (b : Rehearsal) : Goes b b.serve := by
  unfold serve
  split
  · exact .refl b
  · exact .aside rfl rfl rfl

theorem goes_report (b : Rehearsal) : Goes b b.report.2 := by
  have settled : Goes b (b.settle []) := goes_settle isOwn_none b
  have told : Goes (b.settle []) (b.settle []).takeLog.2.takeEnded.2 := .aside rfl rfl rfl
  have read : Goes (b.settle []).takeLog.2.takeEnded.2 b.report.2 :=
    .one (h := .readDaily) (f := fun o => o.dailyTotals.2) rfl fun _ => rfl
  exact (settled.trans told).trans read

end Rehearsal

end Postroom
