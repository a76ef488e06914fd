import Postroom.Rehearsal.Report

/-!
# Directing

The steps of a rehearsal of a whole office. Tasks in hand are those that registrations hand out; they can be failed
or let go of. After each step there is a report.

* `Direction`: one step. `Rehearsal.direct`: what is done in it.
* `Rehearsal.setUp`: a rehearsal before its first step. `Rehearsal.conduct`: one step after the other.
-/

namespace Postroom

/-- One step of a rehearsal of a whole office. -/
inductive Direction where
  | submit (s : Submission) (name : Option String)
  /-- The task kept under a name fails. -/
  | fail (name : String) (cause : Fault)
  /-- The task kept under a name is let go of. -/
  | drop (name : String)
  | register (runner : Runner)
  | unregister (id : RunnerId)
  | cycle
  /-- The background begins to tick. -/
  | serve
  | advance (ms : Nat)
  | setWall (ms : Int)
  /-- A send is let go on. -/
  | release (name : String)
  /-- What the domains' attempts add up to is looked at. -/
  | look (window : Int)
  /-- Somebody calls for a shutdown and waits until it is done. -/
  | shutdown

def Direction.isShutdown : Direction → Bool
  | .shutdown => true
  | _ => false

namespace Rehearsal

/-- A rehearsal before its first step, of an office with these settings. -/
def setUp (config : Config) (start : Calendar.Moment) (script : Script) (sinks : Table String ScriptedSink)
    (plain : Bool) : Rehearsal :=
  { ofConfig config start with script := script, sinks := sinks, plain := plain }

variable (b : Rehearsal)

/-- A task that is kept is used up. -/
def useUp (name : String) (f : Office → Task → Office) : Rehearsal :=
  match b.take? name with
  | some (t, b) => b.withOffice (f · t)
  | none => b

/-- What is done in a step. -/
def direct : Direction → Rehearsal
  | .submit s name => (b.submit s name).2
  | .fail name cause => b.useUp name fun o t => o.fail t cause
  | .drop name => b.useUp name Office.drop
  | .register runner => (b.register runner).2
  | .unregister id => b.withOffice (·.unregister id)
  | .cycle => b.cycle.2
  | .serve => b.serve
  | .advance ms => b.advance ms
  | .setWall ms => b.setWall ms
  | .release name => b.release name
  | .look window => b.withOffice fun o => (o.snapshot window).2
  | .shutdown => (b.withOffice (·.stopAccepting)).shutdown.2

/-- One step after the other, each with its report. -/
def conduct (ds : List Direction) : Rehearsal := ds.foldl (fun b d => (b.direct d).report.2) b

end Rehearsal

end Postroom
