import Postroom.Proofs.Rehearsal.Jobs
import Postroom.Proofs.Shutdown.Complete
import Postroom.Rehearsal.Directing

/-!
# The course of a rehearsal

A rehearsal is one of the histories of its office, with a call for a shutdown wherever it is directed to shut down.
So whatever holds of an office after every history holds of an office that is rehearsed, and the call returns.

- `Rehearsal.goes_submit`, `Rehearsal.goes_useUp`, `Rehearsal.goes_register`: what enters and what comes out.
- `Rehearsal.Leads`: from a world with calls for a shutdown, moves lead to where a rehearsal stands.
- `Rehearsal.Leads.drainFrom`, `Rehearsal.Leads.shutdown`: time passes until a drain is over, and the call returns.
- `Rehearsal.conduct_moves`: all steps of a rehearsal are moves. `Rehearsal.conduct_happens`: so it has a history.
- `Rehearsal.leavesNothing_conduct`: after a shutdown nothing is left.
-/

namespace Postroom

/-- A history in which no drain takes anything is one of moves. -/
theorem Closing.run_free (c : Closing) {hs : List Happening} (free : ∀ h ∈ hs, h.drains = false) :
    ∃ ms, c.run ms = { c with world := c.world.run hs } := by
  induction hs generalizing c with
  | nil => exact ⟨[], rfl⟩
  | cons h hs ih =>
    have first := free h List.mem_cons_self
    obtain ⟨ms, same⟩ := ih (c.after (.happens h first)) fun k hk => free k (List.mem_cons_of_mem h hk)
    exact ⟨.happens h first :: ms, same⟩

namespace Rehearsal

open Office

variable {b b' b'' : Rehearsal} {more : Multiset Task} {w : World}

/-! ## Coming in -/

theorem outside_submit (w : World) (s : Submission) : (w.submit s).outside = w.outside := by
  unfold World.submit
  rcases w.office.submit s with ⟨answer, o⟩
  dsimp only
  split <;> rfl

theorem goes_submit (b : Rehearsal) (s : Submission) (name : Option String) : Goes b (b.submit s name).2 := by
  have entered : Goes b { b with office := (b.office.submit s).2 } := by
    constructor
    intro more w accords
    refine ⟨[.submit s], by simp [Happening.drains], ?_, ?_, accords.distinct, accords.parked⟩
    · exact (World.office_submit w s).trans (congrArg (fun o => (o.submit s).2) accords.office)
    · exact (congrArg _ (outside_submit w s)).trans accords.outside
  unfold submit
  generalize b.office.submit s = p at entered ⊢
  obtain ⟨answer, o⟩ := p
  cases answer with
  | error cause => exact entered
  | ok a =>
    have noted : Goes { b with office := o } ({ b with office := o }.remember (name.getD a.id.text) a.handle) :=
      .aside rfl rfl rfl
    have remembered := entered.trans noted
    dsimp only
    split
    · exact remembered.trans (goes_recordSettlement ..)
    · exact remembered

/-! ## Tasks in hand -/

/-- What is taken out of the hand is outside in addition. -/
theorem accords_take? {name : String} {t : Task} (taken : b.take? name = some (t, b')) (accords : Accords more w b) :
    Accords (t ::ₘ more) w b' := by
  unfold take? at taken
  obtain ⟨t', found, same⟩ := Option.map_eq_some_iff.1 taken
  cases same
  refine ⟨accords.office, ?_, Table.distinct_erase accords.distinct name, accords.parked⟩
  have entries := Table.perm_erase accords.distinct name
  rw [found] at entries
  have values : (↑(b.held.entries.map Prod.snd) : Multiset Task) = t ::ₘ ↑((b.held.erase name).entries.map Prod.snd) :=
    (Multiset.coe_eq_coe.2 (entries.map Prod.snd)).symm
  rw [accords.outside, values, Multiset.cons_add, Multiset.add_cons]

/-- A task outside is used up at the place where it stands. -/
theorem accords_useOutside {t : Task} (accords : Accords (t ::ₘ more) w b) (f : Office → Task → Office) :
    ∃ place, Accords more (w.useOutside place f) (b.withOffice (f · t)) := by
  have listed : t ∈ w.outside := by
    rw [← Multiset.mem_coe, accords.outside]
    exact Multiset.mem_add.2 (.inr (Multiset.mem_cons_self t more))
  obtain ⟨place, inside, rfl⟩ := List.getElem_of_mem listed
  have used : w.useOutside place f =
      { w with office := f w.office w.outside[place], outside := w.outside.eraseIdx place } := by
    simp only [World.useOutside, List.getElem?_eq_getElem inside]
  refine ⟨place, ?_⟩
  rw [used]
  refine ⟨congrArg (f · w.outside[place]) accords.office, ?_, accords.distinct, accords.parked⟩
  have without : (↑w.outside : Multiset Task) = w.outside[place] ::ₘ ↑(w.outside.eraseIdx place) :=
    (Multiset.coe_eq_coe.2 (List.getElem_cons_eraseIdx_perm inside)).symm
  have both := without.symm.trans accords.outside
  rw [Multiset.add_cons] at both
  exact (Multiset.cons_inj_right _).1 both

theorem goes_useUp {f : Office → Task → Office} {h : Nat → Happening} (free : ∀ place, (h place).drains = false)
    (same : ∀ (w : World) place, w.after (h place) = w.useOutside place f) (b : Rehearsal) (name : String) :
    Goes b (b.useUp name f) := by
  unfold useUp
  split
  · next t b' taken =>
    constructor
    intro more w accords
    obtain ⟨place, used⟩ := accords_useOutside (accords_take? taken accords) f
    refine ⟨[h place], by simp [free], ?_⟩
    rwa [World.run_cons, World.run_nil, same]
  · exact .refl b

/-- A task outside is entered under a name; one that was kept there is outside instead. -/
theorem accords_insert {t : Task} (accords : Accords (t ::ₘ more) w b) (name : String) :
    Accords (↑(b.held.find? name).toList + more) w { b with held := b.held.insert name t } := by
  refine ⟨accords.office, ?_, Table.distinct_insert accords.distinct name t, accords.parked⟩
  have values := Multiset.coe_eq_coe.2 ((Table.perm_insert b.held name t).map Prod.snd)
  rw [List.map_append, List.map_map, show Prod.snd ∘ (name, ·) = id from rfl, List.map_id, ← Multiset.coe_add,
    List.map_cons, ← Multiset.cons_coe] at values
  show (↑w.outside : Multiset Task) = ↑((b.held.insert name t).entries.map Prod.snd) + _
  rw [accords.outside, Multiset.add_cons, ← Multiset.cons_add, ← values, add_assoc, add_left_comm]

/-- A task outside comes into hand; one that was kept under its name is let go of. -/
theorem hold_happens {t : Task} (accords : Accords (t ::ₘ more) w b) (name : String) :
    ∃ hs : List Happening, (∀ h ∈ hs, h.drains = false) ∧ Accords more (w.run hs) (b.hold name t) := by
  have entered := accords_insert accords name
  unfold hold
  cases found : b.held.find? name with
  | none =>
    rw [found] at entered
    exact ⟨[], by simp, zero_add more ▸ entered⟩
  | some former =>
    rw [found] at entered
    obtain ⟨place, dropped⟩ := accords_useOutside (Multiset.singleton_add former more ▸ entered) Office.drop
    exact ⟨[.dropOutside place], by simp [Happening.drains], dropped⟩

theorem holdAll_happens (ts : List Task) (accords : Accords (↑ts + more) w b) :
    ∃ hs : List Happening, (∀ h ∈ hs, h.drains = false) ∧ Accords more (w.run hs) (b.holdAll ts) := by
  induction ts generalizing w b with
  | nil => exact ⟨[], by simp, (zero_add more) ▸ accords⟩
  | cons t ts ih =>
    rw [← Multiset.cons_coe, Multiset.cons_add] at accords
    obtain ⟨hs, free, held⟩ := hold_happens accords t.id.text
    obtain ⟨ks, free', all⟩ := ih held
    refine ⟨hs ++ ks, fun k hk => (List.mem_append.1 hk).elim (free k) (free' k), ?_⟩
    rwa [World.run_append]

theorem goes_register (b : Rehearsal) (runner : Runner) : Goes b (b.register runner).2 := by
  constructor
  intro more w accords
  have out : Accords (↑(b.office.register runner).1 + more) (w.after (.register runner))
      { b with office := (b.office.register runner).2 } := by
    refine ⟨congrArg (fun o => (o.register runner).2) accords.office, ?_, accords.distinct, accords.parked⟩
    show (↑(w.outside ++ (w.office.register runner).1) : Multiset Task) = _
    rw [← Multiset.coe_add, accords.outside, accords.office, add_assoc, add_comm more]
  have listed : (↑(b.office.register runner).1 : Multiset Task) = ↑(Lanes.listed (b.office.register runner).1) :=
    Multiset.coe_eq_coe.2 (List.mergeSort_perm ..).symm
  rw [listed] at out
  obtain ⟨hs, free, held⟩ := holdAll_happens _ out
  exact ⟨.register runner :: hs, List.forall_mem_cons.2 ⟨rfl, free⟩, held⟩

/-- Every step but a shutdown is a history. -/
theorem goes_direct (b : Rehearsal) {d : Direction} (goesOn : d.isShutdown = false) : Goes b (b.direct d) := by
  cases d with
  | submit s name => exact goes_submit b s name
  | fail name cause => exact goes_useUp (h := (.failOutside · cause)) (fun _ => rfl) (fun _ _ => rfl) b name
  | drop name => exact goes_useUp (h := .dropOutside) (fun _ => rfl) (fun _ _ => rfl) b name
  | register runner => exact goes_register b runner
  | unregister id => exact .one (h := .unregister id) (f := (·.unregister id)) rfl fun _ => rfl
  | cycle => exact goes_cycle b
  | serve => exact goes_serve b
  | advance ms => exact goes_advanceFrom b _ _
  | setWall ms => exact goes_setWall b ms
  | release name => exact goes_release b name
  | look window => exact .one (h := .readWindow window) (f := fun o => (o.snapshot window).2) rfl fun _ => rfl
  | shutdown => cases goesOn

/-! ## Shutting down -/

/-- From a world with calls for a shutdown, moves lead to where a rehearsal stands, with these calls. -/
def Leads (c : Closing) (b : Rehearsal) (calls : List Stage) : Prop :=
  ∃ ms, Accords 0 (c.run ms).world b ∧ (c.run ms).calls = calls

namespace Leads

variable {c : Closing} {calls before : List Stage} {s : Stage} {d : Drain}

theorem goes (leads : Leads c b calls) (goes : Goes b b') : Leads c b' calls := by
  obtain ⟨ms, accords, same⟩ := leads
  obtain ⟨hs, free, accords⟩ := goes.run accords
  obtain ⟨ns, run⟩ := (c.run ms).run_free free
  refine ⟨ms ++ ns, ?_, ?_⟩
  · rwa [Closing.run_append, run]
  · rwa [Closing.run_append, run]

/-- Somebody calls for a shutdown. -/
theorem call (leads : Leads c b calls) : Leads c (b.withOffice (·.stopAccepting)) (calls ++ [.begun]) := by
  obtain ⟨ms, accords, rfl⟩ := leads
  refine ⟨ms ++ [.call], ?_, ?_⟩
  · rw [Closing.run_append]
    exact ⟨congrArg stopAccepting accords.office, accords.outside, accords.distinct, accords.parked⟩
  · rw [Closing.run_append]
    rfl

/-- The last call takes a step. -/
theorem step (leads : Leads c b (before ++ [s])) (x : Stage.Step) (office : b'.office = (s.after b.office x).2)
    (held : b'.held = b.held) (parked : ∀ e ∈ b'.parked, e ∈ b.parked) :
    Leads c b' (before ++ [(s.after b.office x).1]) := by
  obtain ⟨ms, accords, calls⟩ := leads
  have found : (c.run ms).calls[before.length]? = some s := by
    rw [calls]
    exact List.getElem?_concat_length
  have same : c.run (ms ++ [.step before.length x]) = (c.run ms).after (.step before.length x) :=
    Closing.run_append c ms _
  rw [Closing.after_step found, accords.office, calls, List.set_append_right _ _ (le_refl _), Nat.sub_self] at same
  refine ⟨ms ++ [.step before.length x], ?_, ?_⟩
  · rw [same]
    exact ⟨office.symm, held ▸ accords.outside, held ▸ accords.distinct, fun e he => accords.parked e (parked e he)⟩
  · rw [same]
    rfl

/-- A drain goes on as far as it can. -/
theorem poll {left : Option Drain} {o : Office} (leads : Leads c b (before ++ [.draining d]))
    (polled : d.poll b.office = (left, o)) : Leads c { b with office := o } (before ++ [.ofDrain left]) := by
  have office : ((Stage.draining d).after b.office .goOn).2 = o := congrArg Prod.snd polled
  have stage : ((Stage.draining d).after b.office .goOn).1 = .ofDrain left :=
    congrArg (fun p : Option Drain × Office => Stage.ofDrain p.1) polled
  rw [← stage]
  exact leads.step .goOn office.symm rfl fun _ he => he

/-- Time passes until a drain is over, but not for ever. -/
theorem drainFrom (leads : Leads c b (before ++ [.draining d])) (now deadline : Nat) :
    Leads c (drainFrom d b now deadline).2 (before ++ [.ofDrain (drainFrom d b now deadline).1]) := by
  fun_induction Rehearsal.drainFrom d b now deadline with
  | case1 d b now o polled => exact leads.poll polled
  | case2 d b now d' o polled b' due =>
    rename_i ih
    exact ih (((leads.poll polled).goes (goes_elapse b' _)).goes (goes_moment _ due))
  | case3 d b now d' o polled b' => exact (leads.poll polled).goes (goes_elapse b' _)
  | case4 d b now d' o polled b' => exact (leads.poll polled).goes (goes_elapse b' _)

/-- The time of a drain is up. -/
theorem abort (leads : Leads c b (before ++ [.draining d])) : Leads c (b.abort d) (before ++ [.drained]) :=
  leads.step .timeUp rfl rfl fun _ he => List.mem_of_mem_filter he

/-- A drain is over, at the latest when its time is up. -/
theorem drain (ms : Nat)
    (leads : Leads c { b with office := (Drain.begin b.office).2 } (before ++ [.draining (Drain.begin b.office).1])) :
    Leads c (b.drain ms).2 (before ++ [.drained]) := by
  have waited := leads.drainFrom b.office.clock.uptime (b.office.clock.uptime + ms)
  unfold Rehearsal.drain
  dsimp only
  generalize Rehearsal.drainFrom .. = p at waited ⊢
  obtain ⟨left, after⟩ := p
  cases left with
  | none => exact waited
  | some d => exact waited.abort

/-- A call for a shutdown returns. -/
theorem shutdown (leads : Leads c b calls) :
    Leads c (b.withOffice (·.stopAccepting)).shutdown.2 (calls ++ [.returned]) := by
  let closed : Rehearsal := { (b.withOffice (·.stopAccepting)).withOffice (·.closeWorkers) with nextTick := none }
  have begun : Leads c { closed with office := (Drain.begin closed.office).2 }
      (calls ++ [.draining (Drain.begin closed.office).1]) :=
    leads.call.step .goOn rfl rfl fun _ he => he
  have drained := begun.drain (closed.office.config.workers.shutdownTimeoutSeconds * 1000)
  have awake : Leads c (withOffice _ (·.closeTimers)) (calls ++ [.timersClosed]) :=
    drained.step .goOn rfl rfl fun _ he => he
  exact awake.step .goOn rfl rfl fun _ he => he

end Leads

/-! ## All steps -/

variable {c : Closing} {n : Nat}

/-- A call for a shutdown has returned when the step is over. -/
theorem leads_direct (leads : Leads c b (.replicate n .returned)) (d : Direction) :
    Leads c (b.direct d) (.replicate (n + [d].countP (·.isShutdown)) .returned) := by
  cases last : d.isShutdown with
  | false =>
    rw [List.countP_singleton, last]
    exact leads.goes (goes_direct b last)
  | true =>
    cases d with
    | shutdown =>
      show Leads c (b.withOffice (·.stopAccepting)).shutdown.2 (.replicate (n + 1) .returned)
      rw [List.replicate_succ']
      exact leads.shutdown
    | _ => cases last

theorem leads_conduct (leads : Leads c b (.replicate n .returned)) (ds : List Direction) :
    Leads c (b.conduct ds) (.replicate (n + ds.countP (·.isShutdown)) .returned) := by
  induction ds generalizing b n with
  | nil => exact leads
  | cons d ds ih =>
    have rest := ih ((leads_direct leads d).goes (goes_report _))
    rwa [Nat.add_assoc, ← List.countP_append] at rest

section

variable (config : Config) (start : Calendar.Moment) (script : Script) (sinks : Table String ScriptedSink) (plain : Bool)

theorem accords_setUp : Accords 0 (.opening config 4 start) (setUp config start script sinks plain) :=
  ⟨rfl, rfl, Table.distinct_empty, fun _ he => absurd he List.not_mem_nil⟩

/-- Whatever is directed, a rehearsal is what becomes of its office by some moves, and each call for a shutdown
returns. -/
theorem conduct_moves (ds : List Direction) : ∃ ms : List Closing.Move,
    let c := (Closing.opening config 4 start).run ms
    c.world.office = ((setUp config start script sinks plain).conduct ds).office ∧
      c.calls = .replicate (ds.countP (·.isShutdown)) .returned := by
  have start : Leads (.opening config 4 start) (setUp config start script sinks plain) (.replicate 0 .returned) :=
    ⟨[], accords_setUp config start script sinks plain, rfl⟩
  obtain ⟨ms, accords, calls⟩ := leads_conduct start ds
  exact ⟨ms, accords.office, calls.trans (congrArg (List.replicate · _) (Nat.zero_add _))⟩

/-- So what holds after every history holds in every rehearsal. -/
theorem conduct_happens (ds : List Direction) : ∃ hs : List Happening,
    ((World.opening config 4 start).run hs).office = ((setUp config start script sinks plain).conduct ds).office := by
  obtain ⟨ms, office, -⟩ := conduct_moves config start script sinks plain ds
  exact ⟨(Closing.opening config 4 start).history ms, Closing.world_run (.opening config 4 start) ms ▸ office⟩

/-- After a shutdown nothing is left. -/
theorem leavesNothing_conduct {ds : List Direction} (directed : .shutdown ∈ ds) : ∃ ms : List Closing.Move,
    let c := (Closing.opening config 4 start).run ms
    c.world.office = ((setUp config start script sinks plain).conduct ds).office ∧ World.LeavesNothing c.world
      ((World.opening config 4 start).admitted ((Closing.opening config 4 start).history ms)) := by
  obtain ⟨ms, office, calls⟩ := conduct_moves config start script sinks plain ds
  have some : ds.countP (·.isShutdown) ≠ 0 := (List.countP_pos_iff.2 ⟨.shutdown, directed, rfl⟩).ne'
  have returned : Stage.returned ∈ ((Closing.opening config 4 start).run ms).calls :=
    calls ▸ List.mem_replicate.2 ⟨some, rfl⟩
  refine ⟨ms, office, World.leavesNothing_of_settled (World.settled_run config 4 start ms returned) fun s hs => ?_⟩
  rw [calls] at hs
  rw [List.eq_of_mem_replicate hs]
  exact ⟨rfl, rfl⟩

end

end Rehearsal

end Postroom
