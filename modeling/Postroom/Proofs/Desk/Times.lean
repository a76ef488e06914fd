import Postroom.Proofs.Desk.Course
import Postroom.Proofs.Queue.Ages

/-!
# Since when a task is queued

A task carries the time of day at which it was put into its lane. Where the clock is not set back, the lanes stay in
the order of these times through everything that happens, and the time that a task carries says how long it has stood
in its lane without a break: what went to sleep in between was stamped anew when it came back.

- `Desk.timed_after`, `Desk.queued_after`: what a deed does to the order of the lanes, and whom it puts into them.
- `World.Forward`, `World.timed_run`: the clock is not set back; then every lane stays in the order of time.
- `World.StoodFor`: how long a task has stood in a lane, told from the history alone.
- `World.stoodFor_iff`: it has stood there since the time that it carries.
-/

namespace Postroom

namespace Desk

variable {d : Desk}

theorem now_after {x : Deed} (still : ∀ now, x ≠ .clock now) : (d.after x).now = d.now := by
  cases x with
  | conclude n v => exact now_conclude d n v
  | purge p cause => exact now_concludeAll ..
  | close => exact now_concludeAll ..
  | clock now => exact absurd rfl (still now)
  | _ => rfl

/-- Every deed but the setting back of the clock keeps the lanes in the order of time. -/
theorem timed_after (sound : d.lanes.Sound) (timed : d.lanes.Timed d.now) {x : Deed}
    (forward : d.now ≤ (d.after x).now) : (d.after x).lanes.Timed (d.after x).now := by
  refine Lanes.Timed.later ?_ forward
  have shifts := d.shifts_after x
  generalize (d.after x).lanes = q at shifts ⊢
  cases shifts with
  | still => exact timed
  | offer t => exact timed.offer rfl
  | poll polled => exact timed.poll? sound polled
  | withdraw p => exact timed.withdraw sound p

/-- A deed puts a task into a lane with the time of day. -/
theorem queued_after (x : Deed) {l : Lane} {t : Task} (ht : t ∈ ((d.after x).lanes.line l).tasks) :
    t ∈ (d.lanes.line l).tasks ∨ t.enqueuedAt = d.now := by
  have shifts := d.shifts_after x
  generalize (d.after x).lanes = q at shifts ht
  cases shifts with
  | still => exact .inl ht
  | offer u => exact (Lanes.mem_line_of_offer ht).symm.imp_right fun same => by rw [same]
  | poll polled => exact .inl (Lanes.mem_line_of_poll? polled ht)
  | withdraw p => exact .inl (Lanes.mem_line_of_withdraw ht)

end Desk

namespace World

open Desk

variable {w : World} {h : Happening} {hs : List Happening} {l : Lane} {t : Task} {ms : Int}
  {config : Config} {workers : Nat} {wall : Calendar.Moment}

/-! ### The order of the lanes -/

/-- The clock is not set back. -/
def Forward (w : World) (h : Happening) : Prop := w.office.now ≤ (w.after h).office.now

instance (w : World) (h : Happening) : Decidable (Forward w h) := inferInstanceAs (Decidable (_ ≤ _))

theorem timed_after (forward : Forward w h) (sound : w.office.lanes.Sound)
    (timed : w.office.lanes.Timed w.office.now) : (w.after h).office.lanes.Timed (w.after h).office.now := by
  -- within a happening, the clock shows the time before it or the time after it
  have kept := (w.does_after h).keeps
    (I := fun d => d.lanes.Sound ∧ d.lanes.Timed d.now ∧ d.now ≤ (w.after h).office.now) ?_ ⟨sound, timed, forward⟩
  · exact kept.2.1
  rintro d x permitted ⟨sound, timed, before⟩
  have clock : d.now ≤ (d.after x).now ∧ (d.after x).now ≤ (w.after h).office.now := by
    cases permitted with
    | clock => exact ⟨before, le_refl _⟩
    | _ =>
      rw [Desk.now_after (by rintro now ⟨⟩)]
      exact ⟨le_refl _, before⟩
  exact ⟨d.sound_after x sound, Desk.timed_after sound timed clock.1, clock.2⟩

theorem timed_run (forward : Along Forward (opening config workers wall) hs) :
    ((opening config workers wall).run hs).office.lanes.Timed ((opening config workers wall).run hs).office.now :=
  (run_of_step (I := fun w => w.office.lanes.Sound ∧ w.office.lanes.Timed w.office.now)
    (fun _ h forward kept => ⟨sound_after h kept.1, timed_after forward kept.1 kept.2⟩) forward
    ⟨sound_opening config workers wall, Lanes.timed_empty _⟩).2

/-! ### How long a task has stood -/

/-- What a happening puts into a lane carries the time of day, which does not change meanwhile. -/
theorem queued_after (ht : t ∈ ((w.after h).office.lanes.line l).tasks) : t ∈ (w.office.lanes.line l).tasks ∨
    t.enqueuedAt = w.office.now ∧ (w.after h).office.now = w.office.now := by
  by_cases moves : (∃ ms, h = .pass ms) ∨ ∃ ms, h = .shift ms
  · rcases moves with ⟨ms, rfl⟩ | ⟨ms, rfl⟩
    · exact .inl ht
    · exact .inl ht
  · have kept := (w.does_after h).keeps (I := fun d => d.now = w.office.now ∧ ∀ t ∈ (d.lanes.line l).tasks,
      t ∈ (w.office.lanes.line l).tasks ∨ t.enqueuedAt = w.office.now) ?_ ⟨rfl, fun _ => .inl⟩
    · exact (kept.2 t ht).imp_right fun stamped => ⟨stamped, kept.1⟩
    rintro d x permitted ⟨now, old⟩
    have still : ∀ now, x ≠ .clock now := by
      rintro now rfl
      cases permitted with
      | clock passes => exact moves passes
    refine ⟨(Desk.now_after still).trans now, fun t ht => ?_⟩
    rcases Desk.queued_after x ht with queued | stamped
    · exact old t queued
    · exact .inr (stamped.trans now)

/-- After `hs`, `t` has stood in lane `l` for at least `ms` milliseconds without a break. -/
def StoodFor (w : World) (hs : List Happening) (l : Lane) (t : Task) (ms : Int) : Prop :=
  ∃ before later, hs = before ++ later ∧
    (∀ ks, ks <+: later → t ∈ ((w.run (before ++ ks)).office.lanes.line l).tasks) ∧
    ms ≤ (w.run hs).office.now - (w.run before).office.now

/-- A queued task has stood in its lane since the time that it carries. -/
theorem exists_entry (ht : t ∈ (((opening config workers wall).run hs).office.lanes.line l).tasks) :
    ∃ before later, hs = before ++ later ∧
      (∀ ks, ks <+: later → t ∈ (((opening config workers wall).run (before ++ ks)).office.lanes.line l).tasks) ∧
      ((opening config workers wall).run before).office.now = t.enqueuedAt := by
  induction hs using List.reverseRecOn with
  | nil =>
    have none : (((opening config workers wall).run []).office.lanes.line l).tasks = [] := by cases l <;> rfl
    rw [none] at ht
    cases ht
  | append_singleton hs h ih =>
    have last : ((opening config workers wall).run (hs ++ [h])) = ((opening config workers wall).run hs).after h :=
      run_append ..
    rcases queued_after (last ▸ ht) with queued | ⟨stamped, still⟩
    · obtain ⟨before, later, rfl, stood, since⟩ := ih queued
      refine ⟨before, later ++ [h], List.append_assoc .., fun ks hks => ?_, since⟩
      rcases List.prefix_concat_iff.1 hks with rfl | hks
      · rwa [← List.append_assoc]
      · exact stood ks hks
    · -- it has just come in
      refine ⟨hs ++ [h], [], (List.append_nil _).symm, fun ks hks => ?_, ?_⟩
      · rwa [List.prefix_nil.1 hks, List.append_nil]
      · rw [last, still, stamped]

/-- How long a queued task has stood in its lane is told by the time that it carries. -/
theorem stoodFor_iff (forward : Along Forward (opening config workers wall) hs)
    (ht : t ∈ (((opening config workers wall).run hs).office.lanes.line l).tasks) :
    StoodFor (opening config workers wall) hs l t ms ↔
      ms ≤ ((opening config workers wall).run hs).office.now - t.enqueuedAt := by
  refine ⟨?_, fun long => ?_⟩
  · rintro ⟨before, later, rfl, stood, long⟩
    -- when the stay began, the task had been put in already
    have queued := stood [] List.nil_prefix
    rw [List.append_nil] at queued
    have timed := timed_run (along_append.1 forward).1
    have past := (timed l).past_of_mem (sound_run (sound_opening config workers wall) before l) queued
    omega
  · obtain ⟨before, later, same, stood, since⟩ := exists_entry ht
    exact ⟨before, later, same, stood, since ▸ long⟩

end World

end Postroom
