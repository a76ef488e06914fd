import Postroom.Office.Tick

/-!
# Turns of a tick

A tick is a number of turns. In each the next task is taken out of its lane: it ends where its run is not
valid, and is started where it is.

- `Ticking.Turn`: all that one turn can do to an office.
- `Ticking.serve_of_turn`: what holds between the offices before and after a turn, and is passed on from turn
  to turn, holds between those before and after a tick.
-/

namespace Postroom.Ticking

/-- One turn of a tick, from one office to the next. -/
inductive Turn : Office → Office → Prop where
  /-- The next task is of a run that is not valid. -/
  | drop {o o' : Office} {bulk : BulkBudget} {n : Nat} {excluded : List Domain} {t : Task} {r : Rejection}
      (next : o.nextTask? bulk n excluded = some (t, o')) (invalid : o'.registry.validate t = .error r) :
      Turn o (o'.fail t r.cause)
  /-- The next task is started, or deferred where it gets no permit. -/
  | execute {o o' : Office} {bulk : BulkBudget} {n : Nat} {excluded : List Domain} {t : Task}
      (next : o.nextTask? bulk n excluded = some (t, o')) (valid : o'.registry.validate t = .ok ()) :
      Turn o (o'.execute t).2

theorem serve_of_turn {P : Office → Office → Prop} (refl : ∀ o, P o o)
    (trans : ∀ o o' o'', P o o' → P o' o'' → P o o'') (turn : ∀ o o', Turn o o' → P o o')
    (bulk : BulkBudget) (n : Nat) (s : Ticking) : P s.office (serve bulk n s).office := by
  induction n generalizing s with
  | zero => exact refl _
  | succ n ih =>
    unfold serve
    split
    · split
      · exact refl _
      · next t o next =>
        split
        · next r invalid => exact trans _ _ _ (turn _ _ (.drop next invalid)) (ih (s.dropped o t r))
        · next valid =>
          have first := turn _ _ (.execute next valid)
          rcases hx : o.execute t with ⟨x, o'⟩
          rw [hx] at first
          -- the turn does the same to the office whatever came of the start
          cases x with
          | started number => exact trans _ _ _ first (ih (s.started o' t number))
          | deferred expiry => exact trans _ _ _ first (ih (s.deferred o' t expiry))
          | refused cause => exact first
    · exact refl _

end Postroom.Ticking
