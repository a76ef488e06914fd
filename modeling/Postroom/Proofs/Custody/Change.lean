import Mathlib.Logic.Relation
import Postroom.Proofs.History
import Postroom.Proofs.Queue.Tasks

/-!
# Custody

Who has which task, and all that can ever happen to one. An office is reduced to its ledger and to the
multiset of its live tasks, each with what holds it; whatever an office does is then a chain of a few kinds
of changes. Facts about tasks and batches are proved once for each kind of change and hold of all
histories.

- `Holding`: a live task with what holds it. `World.holdings`: all of them.
- `Custody`: ledger, live tasks and numbers; `World.custody` is that of a world.
- `Move`: a task passes from one holder to another, or becomes its own retry. The ledger does not notice.
- `Change`: a move, a new batch, results becoming final, or the end of a task.
- `Custody.Leads`: a chain of changes. The parameter `R` says which reports of sends are to be reckoned
  with.
-/

namespace Postroom

/-- A live task with what holds it. -/
inductive Holding where
  | queued (l : Lane) (t : Task)
  | asleep (s : Sleeper)
  | attempt (a : Attempt)
  | expiry (e : Expiry)
  | settlement (s : Settlement)
  /-- In the hands of whoever took it out. -/
  | outside (t : Task)

namespace Holding

def task : Holding → Task
  | queued _ t => t
  | asleep s => s.task
  | attempt a => a.task
  | expiry e => e.task
  | settlement s => s.task
  | outside t => t

/-- The number by which the holder is found, if it has one. -/
def number? : Holding → Option Nat
  | asleep s => s.number
  | attempt a => a.number
  | expiry e => e.number
  | settlement s => s.number
  | _ => none

end Holding

/-- What a settlement leaves for a retry. -/
def Purpose.kept : Purpose → List Recipient
  | .attempt kept => kept
  | _ => []

/-- The results of a settlement, recorded or not. -/
def Settlement.results (s : Settlement) : List RecipientResult := s.written ++ s.left

/-- What is left of the task of a settlement once its results are final. -/
def Settlement.rest (s : Settlement) : Task := { s.task with recipients := s.purpose.kept }

/-- A task with one retry more for it and for each of its recipients. -/
def Task.next (t : Task) : Task :=
  t.retry (t.recipients.map fun r => { r with retries := r.retries + 1 })

/-- The task of a submission under a ticket. -/
def Submission.task (s : Submission) (ticket : Nat) : Task := .first ticket s.batch s.recipients

/-- The ledger with all live tasks, and what else the changes of these depend on. -/
structure Custody where
  config : Config
  /-- The submissions entered into the ledger, by ticket. -/
  entered : List Submission
  ledger : Ledger
  /-- The next number that a holder gets. -/
  next : Nat
  live : Multiset Holding

/-- A live task passes on. With settings `g` and next number `n`, what held it and what holds it now, and
the next number then. -/
inductive Move (R : Task → Outcome → Prop) (g : Config) (n : Nat) : Holding → Holding → Nat → Prop
  /-- It is taken out of what held it. -/
  | take (x : Holding) : Move R g n x (.outside x.task) n
  /-- It is put into its lane. -/
  | queue (t : Task) (now : Int) :
      Move R g n (.outside t) (.queued t.lane { t with enqueuedAt := now }) n
  | sleep (t : Task) (due : Nat) : Move R g n (.outside t) (.asleep ⟨n, due, t⟩) (n + 1)
  | start (t : Task) (p : Permit) : Move R g n (.outside t) (.attempt ⟨n, t, p, none⟩) (n + 1)
  /-- Its wait for resources ran out, and it may not be retried any more. -/
  | defer (t : Task) (spent : g.retry.hasBudget t.retries = false) :
      Move R g n (.outside t) (.expiry ⟨n, t⟩) (n + 1)
  /-- Its domain is not known. -/
  | reject (t : Task) (unknown : t.domain.isUnroutable) (code : Nat) (message : String) :
      Move R g n (.outside t)
        (.settlement ⟨n, t, .unroutable, [], t.recipients.map (.failed · code message)⟩) (n + 1)
  /-- The worker of its attempt reports. -/
  | report (a : Attempt) (r : Report) (fit : ∀ outcome, r = .ok outcome → R a.task outcome) :
      Move R g n (.attempt a) (.attempt { a with report := some r }) n
  /-- The results of its attempt go to the sink. -/
  | answer (a : Attempt) (outcome : Outcome) (h : a.report = some (.ok outcome)) :
      Move R g n (.attempt a)
        (.settlement ⟨a.number, a.task, .attempt (outcome.kept (g.retry.hasBudget a.task.retries)), [],
          outcome.terminal (g.retry.hasBudget a.task.retries)⟩) n
  /-- The results of its expiry go to the sink. -/
  | giveUp (e : Expiry) (code : Nat) (message : String) :
      Move R g n (.expiry e)
        (.settlement ⟨e.number, e.task, .expiry, [], e.task.recipients.map (.failed · code message)⟩) n
  /-- The sink keeps the next result. -/
  | record (s : Settlement) (r : RecipientResult) (left : List RecipientResult)
      (h : s.left = r :: left) :
      Move R g n (.settlement s)
        (.settlement { s with written := s.written ++ [r], left := left }) n
  /-- It becomes its own retry. -/
  | retry (t : Task) (budget : g.retry.hasBudget t.retries) :
      Move R g n (.outside t) (.outside t.next) n

/-- What can happen to the ledger and the live tasks at once. -/
inductive Change (R : Task → Outcome → Prop) : Custody → Custody → Prop
  | move {g e l n n' x y L} (m : Move R g n x y n') :
      Change R ⟨g, e, l, n, x ::ₘ L⟩ ⟨g, e, l, n', y ::ₘ L⟩
  /-- A submission is entered. -/
  | enter {g e l n L} (s : Submission) (nonempty : s.recipients ≠ []) :
      Change R ⟨g, e, l, n, L⟩
        ⟨g, e ++ [s], (l.enter s.batch).2, n, .outside (s.task (l.enter s.batch).1) ::ₘ L⟩
  /-- The results of a settlement become final. -/
  | settle {g e l n L} (s : Settlement) :
      Change R ⟨g, e, l, n, .settlement s ::ₘ L⟩
        ⟨g, e, l.settle s.task.ticket s.results, n, .outside s.rest ::ₘ L⟩
  /-- A batch of which nothing is left to do ends with its settled results. -/
  | complete {g e l n L} (t : Task) (done : t.recipients = []) :
      Change R ⟨g, e, l, n, .outside t ::ₘ L⟩ ⟨g, e, l.complete t, n, L⟩
  | fail {g e l n L} (t : Task) (cause : Fault) :
      Change R ⟨g, e, l, n, .outside t ::ₘ L⟩ ⟨g, e, l.resolve t.ticket (.error cause), n, L⟩

namespace Custody

/-- A chain of changes. -/
def Leads (R : Task → Outcome → Prop) : Custody → Custody → Prop :=
  Relation.ReflTransGen (Change R)

variable {R : Task → Outcome → Prop} {c d e : Custody}

theorem Leads.refl (c : Custody) : Leads R c c := Relation.ReflTransGen.refl

theorem Leads.of_eq (h : c = d) : Leads R c d := h ▸ Leads.refl c

theorem Leads.trans (h : Leads R c d) (k : Leads R d e) : Leads R c e :=
  Relation.ReflTransGen.trans h k

theorem Leads.one (h : Change R c d) : Leads R c d := Relation.ReflTransGen.single h

/-- What every change keeps, a chain of changes keeps. -/
theorem Leads.keeps {I : Custody → Prop} (step : ∀ c d, Change R c d → I c → I d)
    (h : Leads R c d) (hc : I c) : I d := by
  induction h with
  | refl => exact hc
  | tail _ hstep ih => exact step _ _ hstep ih

end Custody

/-! ## The custody of an office -/

namespace Office

/-- The live tasks in an office. -/
def holdings (o : Office) : List Holding :=
  (Lane.serviceOrder.flatMap fun l => (o.lanes.line l).tasks.map (.queued l)) ++
    o.timers.sleepers.map .asleep ++ o.attempts.map .attempt ++ o.expiries.map .expiry ++
    o.settlements.map .settlement

/-- The custody of an office, where `H` are the live tasks outside it. -/
def custody (o : Office) (entered : List Submission) (H : Multiset Holding) : Custody :=
  ⟨o.config, entered, o.ledger, o.nextNumber, H + ↑o.holdings⟩

theorem coe_holdings (o : Office) :
    (o.holdings : Multiset Holding) =
      Lanes.held Holding.queued o.lanes + ↑(o.timers.sleepers.map Holding.asleep) +
        ↑(o.attempts.map Holding.attempt) + ↑(o.expiries.map Holding.expiry) +
        ↑(o.settlements.map Holding.settlement) := by
  simp only [holdings, Lanes.held, Multiset.coe_add]

end Office

namespace World

/-- All live tasks. -/
def holdings (w : World) : List Holding := w.outside.map .outside ++ w.office.holdings

/-- The custody of a world. -/
def custody (w : World) : Custody :=
  w.office.custody w.entered ↑(w.outside.map Holding.outside)

theorem custody_live (w : World) : w.custody.live = ↑w.holdings := by
  simp [custody, Office.custody, holdings]

end World

end Postroom
