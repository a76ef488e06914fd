import Postroom.Proofs.Session.Shown

/-!
# The commands of a session

What a peer is asked in a session, and in which order: to open, then for the sender, then for the recipients up to
the one at which the session breaks, then for the message if nothing broke and somebody was accepted, then to
forget the message if it was refused, and at last to close. A peer that keeps a record of its own shows that these
are all the commands that reach it.

- `Peer.recorded`: a peer that keeps a record. `Session.recorded_run`: it is asked what the session notes.
- `Session.commands`: the commands, told by the answers of the peer.
- `Session.commands_run`: every session gives these commands, and notes its failure once.
-/

namespace Postroom

/-- The peer with a record of the steps that it was asked for. -/
def Peer.recorded {σ : Type} (peer : Peer σ) : Peer (σ × List Act) where
  openSession d a s := ((peer.openSession d a s.1).1, (peer.openSession d a s.1).2, s.2 ++ [.opened d a])
  isValid s := peer.isValid s.1
  mailFrom m s := ((peer.mailFrom m s.1).1, (peer.mailFrom m s.1).2, s.2 ++ [.mailFrom m])
  rcptTo a s := ((peer.rcptTo a s.1).1, (peer.rcptTo a s.1).2, s.2 ++ [.rcptTo a])
  payload m s := ((peer.payload m s.1).1, (peer.payload m s.1).2, s.2 ++ [.payload m.size])
  reset s := (peer.reset s.1, s.2 ++ [.reset])
  close s := (peer.close s.1, s.2 ++ [.close])

theorem Peer.recorded_shows {σ : Type} (peer : Peer σ) : peer.recorded.Shows peer Prod.fst :=
  ⟨fun _ _ _ => rfl, fun _ => rfl, fun _ _ => rfl, fun _ _ => rfl, fun _ _ => rfl, fun _ => rfl, fun _ => rfl⟩

/-- Whether this is the note of a failure, and nothing that the peer is asked. -/
def Act.isNote : Act → Bool
  | .failed _ => true
  | _ => false

namespace Session

/-- The commands among the steps of a session. -/
def calls (acts : List Act) : List Act := acts.filter fun a => !a.isNote

/-- The failures that were noted. -/
def failures (acts : List Act) : List Nat :=
  acts.filterMap fun
    | .failed code => some code
    | _ => none

variable {σ : Type} {peer : Peer σ} {policy : RecipientPolicy} {q : Request} {p : σ}

theorem calls_append (xs ys : List Act) : calls (xs ++ ys) = calls xs ++ calls ys := List.filter_append _ _

theorem failures_append (xs ys : List Act) : failures (xs ++ ys) = failures xs ++ failures ys :=
  List.filterMap_append

/-! ### The record of a peer -/

namespace State

/-- The record of the peer has the steps that the session noted, but for failures. -/
def Recorded (t : State (σ × List Act)) : Prop := t.peer.2 = calls t.acts

variable {t : State (σ × List Act)}

/-- A step that the peer is asked for is added to its record. -/
theorem Recorded.step (h : t.Recorded) {a : Act} (asked : a.isNote = false) (p : σ) :
    State.Recorded { t.act a with peer := (p, t.peer.2 ++ [a]) } := by
  show t.peer.2 ++ [a] = calls (t.acts ++ [a])
  rw [calls_append, h]
  simp [calls, asked]

theorem Recorded.fail (h : t.Recorded) (code : Nat) : (t.fail code).Recorded := by
  show t.peer.2 = calls (t.acts ++ [.failed code])
  rw [calls_append, h]
  exact (List.append_nil _).symm

theorem Recorded.afterRefusal (h : t.Recorded) (a : Response) :
    (t.afterRefusal peer.recorded policy a).Recorded := by
  unfold State.afterRefusal
  split
  · exact h.fail _
  · exact h.step rfl (peer.reset t.peer.1)

end State

variable {t : State (σ × List Act)}

theorem recorded_offer (h : t.Recorded) (r : Recipient) : (offer peer.recorded policy t r).Recorded := by
  have named : (t.named peer.recorded r).Recorded := h.step rfl (peer.rcptTo r.address t.peer.1).2
  cases broken : t.broken with
  | some b =>
    rw [offer, broken]
    exact h
  | none =>
    cases breaks : (t.meets peer.recorded r).break? policy with
    | some b =>
      rw [offer_of_break broken breaks]
      split
      · exact named.fail _
      · exact h.fail _
    | none =>
      obtain ⟨-, a, reply, -⟩ := Naming.break?_eq_none breaks
      rw [offer_of_answer broken breaks reply]
      split
      · exact named
      · exact named

theorem recorded_foldl_offer (h : t.Recorded) (rs : List Recipient) :
    (rs.foldl (offer peer.recorded policy) t).Recorded := by
  induction rs generalizing t with
  | nil => exact h
  | cons r rs ih => exact ih (recorded_offer h r)

theorem recorded_deliver (h : t.Recorded) : (deliver peer.recorded policy q t).Recorded := by
  have handed : (t.handed peer.recorded q).Recorded := h.step rfl (peer.payload q.message t.peer.1).2
  rw [deliver_eq]
  split
  · exact handed.fail _
  · split
    · exact handed
    · exact handed.afterRefusal _

theorem recorded_offerAll (h : t.Recorded) : (offerAll peer.recorded policy q t).Recorded := by
  have named : (q.recipients.foldl (offer peer.recorded policy) t).Recorded := recorded_foldl_offer h q.recipients
  unfold offerAll
  dsimp only
  split
  · exact named
  · split
    · exact named.step rfl (peer.reset _)
    · exact recorded_deliver named

theorem recorded_converse (h : t.Recorded) : (converse peer.recorded policy q t).Recorded := by
  have begun : (t.begun peer.recorded q).Recorded := h.step rfl (peer.mailFrom q.message.sender t.peer.1).2
  rw [converse_eq]
  split
  · exact begun.fail _
  · split
    · exact recorded_offerAll begun
    · exact begun.afterRefusal _

/-- What reaches the peer is what the session notes, but for its failures. -/
theorem recorded_run (peer : Peer σ) (policy : RecipientPolicy) (q : Request) (p : σ) :
    (run peer.recorded policy q (p, [])).Recorded := by
  have answer : peer.recorded.openSession q.domain q.source (p, []) =
    ((peer.openSession q.domain q.source p).1, (peer.openSession q.domain q.source p).2,
      [.opened q.domain q.source]) := rfl
  unfold run
  rw [answer]
  cases (peer.openSession q.domain q.source p).1 with
  | error e => exact rfl
  | ok u =>
    let t : State (σ × List Act) :=
      { peer := ((peer.openSession q.domain q.source p).2, [.opened q.domain q.source])
        acts := [.opened q.domain q.source] }
    have opened : t.Recorded := rfl
    have talked : (converse peer.recorded policy q t).Recorded := recorded_converse opened
    exact talked.step rfl (peer.close (converse peer.recorded policy q t).peer.1)

/-- It answers as the peer does, so the session takes the same steps. -/
theorem script_recorded : script peer.recorded policy q (p, []) = script peer policy q p := by
  have same := congrArg State.acts (through_run peer.recorded_shows policy q (p, []))
  rw [← (came_run peer policy q p).1, ← (came_run peer.recorded policy q (p, [])).1]
  exact same

/-! ### The commands -/

section

variable (peer : Peer σ) (policy : RecipientPolicy) (q : Request) (p : σ)

/-- Whether the peer is asked to forget the message: nothing broke, and the sender or the message was refused, or
nobody was accepted. -/
def resets : Bool :=
  (break? peer policy q p).isNone && (!accepts (mailReply peer q p) ||
    !(callees peer policy q p).any (accepts ·.reply) || !accepts (payloadReply peer q p))

/-- The commands of a session. -/
def commands : List Act :=
  .opened q.domain q.source :: if (openFailure? peer q p).isSome then [] else
    .mailFrom q.message.sender :: (callees peer policy q p).map (fun n => .rcptTo n.recipient.address) ++
      (if handsOver peer policy q p then [.payload q.message.size] else []) ++
      (if resets peer policy q p then [.reset] else []) ++ [.close]

end

theorem calls_closing (policy : RecipientPolicy) (reply : Reply) : calls (closing policy reply) =
    if (replyBreak? policy reply).isNone && !accepts reply then [.reset] else [] := by
  unfold closing
  cases replyBreak? policy reply with
  | some b => rfl
  | none => cases accepts reply <;> rfl

theorem failures_closing (policy : RecipientPolicy) (reply : Reply) : failures (closing policy reply) =
    ((replyBreak? policy reply).map fun _ => policy.sessionFailureCode).toList := by
  unfold closing
  cases replyBreak? policy reply with
  | some b => rfl
  | none => cases accepts reply <;> rfl

theorem calls_map_rcptTo (ns : List Naming) :
    calls (ns.map fun n => .rcptTo n.recipient.address) = ns.map fun n => .rcptTo n.recipient.address := by
  refine List.filter_eq_self.2 fun a ha => ?_
  obtain ⟨n, -, rfl⟩ := List.mem_map.1 ha
  rfl

theorem failures_map_rcptTo (ns : List Naming) :
    failures (ns.map fun n => .rcptTo n.recipient.address) = [] := by
  refine List.filterMap_eq_nil_iff.2 fun a ha => ?_
  obtain ⟨n, -, rfl⟩ := List.mem_map.1 ha
  rfl

theorem calls_steps (opened : openFailure? peer q p = none) : calls (steps peer policy q p) =
    (callees peer policy q p).map (fun n => .rcptTo n.recipient.address) ++
      (if handsOver peer policy q p then [.payload q.message.size] else []) ++
      (if resets peer policy q p then [.reset] else []) := by
  cases sender : accepts (mailReply peer q p) with
  | false =>
    have silent : ¬ getsToNames peer q p := by
      intro names
      cases sender.symm.trans (getsToNames_iff.1 names).2
    have nobody : callees peer policy q p = [] := if_neg silent
    have hands : handsOver peer policy q p = false := handsOver_of_not_names silent
    have breaks := (break?_of_not_handsOver hands).trans (earlyBreak_of_refusal opened sender)
    rw [steps, resets, sender, nobody, hands, breaks]
    simpa [sender] using calls_closing policy (mailReply peer q p)
  | true =>
    rw [steps, if_pos sender, calls_append, calls_append, calls_map_rcptTo, resets, sender]
    cases early : earlyBreak? peer policy q p with
    | some b =>
      rw [handsOver_of_break early, break?_of_early early]
      simp [calls, Act.isNote]
    | none =>
      cases hands : handsOver peer policy q p with
      | false =>
        have refused := (handsOver_of_unbroken early).symm.trans hands
        rw [break?_of_not_handsOver hands, early, refused]
        simp [calls, Act.isNote]
      | true =>
        have accepted := (handsOver_of_unbroken early).symm.trans hands
        rw [break?_of_handsOver early hands, accepted]
        simpa [calls, Act.isNote] using calls_closing policy (payloadReply peer q p)

/-- A failure is noted where the session breaks. -/
theorem failures_steps (opened : openFailure? peer q p = none) :
    failures (steps peer policy q p) = ((break? peer policy q p).map (·.code)).toList := by
  have closes : ∀ reply : Reply, failures (closing policy reply) =
      ((replyBreak? policy reply).map (·.code)).toList := by
    intro reply
    rw [failures_closing]
    cases h : replyBreak? policy reply with
    | none => rfl
    | some b => rw [Option.map_some, Option.map_some, code_of_replyBreak? h]
  cases sender : accepts (mailReply peer q p) with
  | false =>
    have silent : ¬ getsToNames peer q p := by
      intro names
      cases sender.symm.trans (getsToNames_iff.1 names).2
    have hands : handsOver peer policy q p = false := handsOver_of_not_names silent
    rw [break?_of_not_handsOver hands, earlyBreak_of_refusal opened sender, steps, sender]
    exact closes _
  | true =>
    have names : getsToNames peer q p := getsToNames_iff.2 ⟨opened, sender⟩
    rw [steps, if_pos sender, failures_append, failures_append, failures_map_rcptTo, List.nil_append]
    cases early : earlyBreak? peer policy q p with
    | some b =>
      have code := code_of_breakOf? ((earlyBreak_of_names names).symm.trans early)
      rw [handsOver_of_break early, break?_of_early early, Option.map_some, code]
      rfl
    | none =>
      cases hands : handsOver peer policy q p with
      | false =>
        rw [break?_of_not_handsOver hands, early]
        rfl
      | true =>
        rw [break?_of_handsOver early hands, ← closes]
        rfl

theorem calls_script (peer : Peer σ) (policy : RecipientPolicy) (q : Request) (p : σ) :
    calls (script peer policy q p) = commands peer policy q p := by
  rw [script, commands]
  cases opened : openFailure? peer q p with
  | some e => rfl
  | none =>
    show .opened q.domain q.source :: .mailFrom q.message.sender :: calls (steps peer policy q p ++ [.close]) = _
    rw [calls_append, calls_steps opened]
    rfl

theorem failures_script (peer : Peer σ) (policy : RecipientPolicy) (q : Request) (p : σ) :
    failures (script peer policy q p) = ((break? peer policy q p).map (·.code)).toList := by
  rw [script]
  cases opened : openFailure? peer q p with
  | some e =>
    have early : earlyBreak? peer policy q p = some ⟨e.code.getD policy.sessionFailureCode, e.message⟩ := by
      rw [earlyBreak?, opened]
    rw [break?_of_early early]
    rfl
  | none =>
    show failures (steps peer policy q p ++ [.close]) = _
    rw [failures_append, failures_steps opened]
    exact List.append_nil _

/-- Only the first recipients of the request are named. -/
theorem callees_isInitial (peer : Peer σ) (policy : RecipientPolicy) (q : Request) (p : σ) :
    (callees peer policy q p).IsPrefix (meetings peer q p) := by
  rw [callees]
  split
  · exact asked_prefix _
  · exact List.nil_prefix

/-- Any session asks its peer for these commands and for no others. The recipients that are named are the first
ones of the request; none is named after a break, and none unless the sender was accepted. The session notes its
failure once, and only where it failed. -/
theorem commands_run (peer : Peer σ) (policy : RecipientPolicy) (q : Request) (p : σ) :
    (run peer.recorded policy q (p, [])).peer.2 = commands peer policy q p ∧
      calls (run peer policy q p).acts = commands peer policy q p ∧
      ((callees peer policy q p).map (·.recipient)).IsPrefix q.recipients ∧
      (∀ i n, (callees peer policy q p)[i]? = some n → i + 1 < (callees peer policy q p).length →
        n.break? policy = none) ∧
      (callees peer policy q p ≠ [] → accepts (mailReply peer q p)) ∧
      failures (run peer policy q p).acts = (run peer policy q p).outcome.sessionFailure.toList := by
  obtain ⟨acts, failure, -⟩ := came_run peer policy q p
  have noted := calls_script peer policy q p
  refine ⟨?_, ?_, ?_, fun i n hn more => ?_, fun anyone => ?_, ?_⟩
  · rw [recorded_run, (came_run peer.recorded policy q (p, [])).1, script_recorded, noted]
  · rw [acts, noted]
  · have named := (callees_isInitial peer policy q p).map (·.recipient)
    rwa [meetings, recipients_namings] at named
  · by_cases names : getsToNames peer q p
    · rw [callees_of_names names] at hn more
      exact unbroken_of_asked hn more
    · rw [callees, if_neg names] at hn
      cases hn
  · by_cases names : getsToNames peer q p
    · exact (getsToNames_iff.1 names).2
    · exact absurd (if_neg names) anyone
  · show _ = (run peer policy q p).failure.toList
    rw [acts, failure, failures_script]

end Session

end Postroom
