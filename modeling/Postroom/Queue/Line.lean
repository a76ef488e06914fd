import Postroom.Task

/-!
# A line of tasks

One lane's queue. It has a stand for each domain with queued work, where that domain's tasks stand first
in, first out, and a ring of these domains in service order. Taking a task serves the first domain of the
ring that is not excluded and sends it to the back, so that no domain can keep the others from being
served. The number of tasks is counted beside them.

* `Line.push`, `Line.pop?`, `Line.withdraw`: put in, take the next one, take out by a condition.
* `Line.oldest?`: the enqueue time of the oldest task at the head of a stand.
-/

namespace Postroom

/-- The queued tasks of one domain, first in first. -/
structure Stand where
  domain : Domain
  tasks : List Task
  deriving DecidableEq

/-- A stand without the tasks that satisfy `p`. -/
def Stand.without (p : Task → Bool) (s : Stand) : Stand :=
  { s with tasks := s.tasks.filter fun t => !p t }

/-- A lane's queue. -/
structure Line where
  /-- The stands, one for each domain with queued work. -/
  stands : List Stand := []
  /-- The domains with queued work, in service order. -/
  ring : List Domain := []
  /-- The number of queued tasks. -/
  size : Nat := 0
  deriving DecidableEq

namespace Line

/-- The line without tasks. -/
def empty : Line := {}

/-- All queued tasks, stand by stand. -/
def tasks (l : Line) : List Task := l.stands.flatMap (·.tasks)

/-- The stand of a domain, if it has one. -/
def stand? (ss : List Stand) (d : Domain) : Option Stand := ss.find? (·.domain = d)

/-- The queued tasks of a domain, first in first. -/
def queueOf (ss : List Stand) (d : Domain) : List Task := ((stand? ss d).map (·.tasks)).getD []

/-- `t` behind the tasks of its domain; a domain without stand gets one. -/
def pushInto (t : Task) : List Stand → List Stand
  | [] => [⟨t.domain, [t]⟩]
  | s :: ss =>
    if s.domain = t.domain then { s with tasks := s.tasks ++ [t] } :: ss else s :: pushInto t ss

/-- Put a task behind the others of its domain. A domain that had none goes to the back of the ring. -/
def push (l : Line) (t : Task) : Line where
  stands := pushInto t l.stands
  ring := if (queueOf l.stands t.domain).isEmpty then l.ring ++ [t.domain] else l.ring
  size := l.size + 1

/-- Whether a domain is not excluded. -/
def isEligible (excluded : List Domain) (d : Domain) : Bool := !excluded.contains d

/-- Leave `rest` at the stand of `d`, which goes where nothing is left. -/
def leave (d : Domain) (rest : List Task) : List Stand → List Stand
  | [] => []
  | s :: ss =>
    if s.domain = d then if rest.isEmpty then ss else { s with tasks := rest } :: ss
    else s :: leave d rest ss

/-- Take the next task of a domain that is not excluded. -/
def pop? (l : Line) (excluded : List Domain) : Option (Task × Line) :=
  match l.ring.find? (isEligible excluded) with
  | none => none
  | some d =>
    match queueOf l.stands d with
    | [] => none
    | t :: rest =>
      some (t,
        { stands := leave d rest l.stands
          ring := l.ring.erase d ++ if rest.isEmpty then [] else [d]
          size := l.size - 1 })

/-- Whether a domain that is not excluded has queued work. -/
def hasAvailable (l : Line) (excluded : List Domain) : Bool := l.ring.any (isEligible excluded)

/-- The earliest enqueue time at the head of the stand of an eligible domain. -/
def oldest? (l : Line) (excluded : List Domain) : Option Int :=
  ((l.ring.filter (isEligible excluded)).filterMap fun d =>
    (queueOf l.stands d).head?.map (·.enqueuedAt)).min?

/-- Take out every task that satisfies `p`. Domains left without tasks lose their stand and their place
in the ring, the others keep theirs. -/
def withdraw (l : Line) (p : Task → Bool) : List Task × Line :=
  let taken := l.tasks.filter p
  if taken.isEmpty then (taken, l)
  else
    let left := (l.stands.map (Stand.without p)).filter fun s => !s.tasks.isEmpty
    (taken,
      { stands := left
        ring := l.ring.filter fun d => left.any (·.domain = d)
        size := l.size - taken.length })

/-- The number of queued tasks of each domain, in service order. -/
def depths (l : Line) : List (Domain × Nat) :=
  l.ring.filterMap fun d => (stand? l.stands d).map fun s => (d, s.tasks.length)

/-! ### The queued tasks -/

theorem tasks_pushInto_perm (t : Task) (ss : List Stand) :
    ((pushInto t ss).flatMap (·.tasks)).Perm (ss.flatMap (·.tasks) ++ [t]) := by
  induction ss with
  | nil => simp [pushInto]
  | cons s ss ih =>
    by_cases h : s.domain = t.domain
    · simp only [pushInto, h, if_true, List.flatMap_cons, List.append_assoc]
      exact List.Perm.append_left _ List.perm_append_comm
    · simp only [pushInto, h, if_false, List.flatMap_cons, List.append_assoc]
      exact List.Perm.append_left _ ih

theorem tasks_push_perm (l : Line) (t : Task) : (l.push t).tasks.Perm (l.tasks ++ [t]) :=
  tasks_pushInto_perm t l.stands

theorem tasks_withdraw_fst (l : Line) (p : Task → Bool) : (l.withdraw p).1 = l.tasks.filter p := by
  unfold withdraw
  dsimp only
  split <;> rfl

/-- Of the stands without some tasks, those without any task hold nothing. -/
theorem tasks_without (p : Task → Bool) (ss : List Stand) :
    ((ss.map (Stand.without p)).filter fun s => !s.tasks.isEmpty).flatMap (·.tasks) =
      (ss.flatMap (·.tasks)).filter fun t => !p t := by
  induction ss with
  | nil => rfl
  | cons s ss ih =>
    simp only [List.map_cons, List.flatMap_cons, List.filter_append]
    by_cases h : (s.tasks.filter fun t => !p t) = []
    · simp [Stand.without, h, ih]
    · simp [Stand.without, h, ih]

theorem tasks_withdraw_snd (l : Line) (p : Task → Bool) :
    (l.withdraw p).2.tasks = l.tasks.filter fun t => !p t := by
  unfold withdraw
  dsimp only
  split
  · next none =>
    have kept : ∀ t ∈ l.tasks, !p t := by
      simpa [List.filter_eq_nil_iff] using none
    exact (List.filter_eq_self.2 kept).symm
  · exact tasks_without p l.stands

end Line

end Postroom
