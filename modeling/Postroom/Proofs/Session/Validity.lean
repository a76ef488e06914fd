import Postroom.Proofs.Session.Explained
import Postroom.Proofs.Session.Shown

/-!
# Sessions that no longer hold

A session may be lost at any step that it takes for a message: when the sender is named, when a recipient is named,
or when the message is handed over. Whether it still holds is asked before a recipient is named, and only there. So
a recipient is named only in a session that holds, and a loss at the sender or at a recipient is noticed at the next
recipient. Where no recipient follows and no answer breaks the session, the loss slips by: the message is then handed
over in a session that is lost.

- `Peer.watched`: a peer that notes, for each step, whether the session held before and after it.
- `Session.SlipsBy`: nothing broke up to the message, and the session no longer holds.
- `Session.BrokenOff`: a session that was broken off, and what its recipients were told.
- `Session.breaksOff_run`: a session that is lost is broken off, unless the loss slips by.
-/

namespace Postroom

variable {σ : Type}

/-- One step for a message: whether the session held before it, and whether it held after it. -/
structure Sight where
  act : Act
  before : Bool
  after : Bool
  deriving DecidableEq

/-- The peer with a note of each step for the message. -/
def Peer.watched (peer : Peer σ) : Peer (σ × List Sight) where
  openSession d a s := ((peer.openSession d a s.1).1, (peer.openSession d a s.1).2, s.2)
  isValid s := peer.isValid s.1
  mailFrom m s := ((peer.mailFrom m s.1).1, (peer.mailFrom m s.1).2,
    s.2 ++ [⟨.mailFrom m, peer.isValid s.1, peer.isValid (peer.mailFrom m s.1).2⟩])
  rcptTo a s := ((peer.rcptTo a s.1).1, (peer.rcptTo a s.1).2,
    s.2 ++ [⟨.rcptTo a, peer.isValid s.1, peer.isValid (peer.rcptTo a s.1).2⟩])
  payload m s := ((peer.payload m s.1).1, (peer.payload m s.1).2,
    s.2 ++ [⟨.payload m.size, peer.isValid s.1, peer.isValid (peer.payload m s.1).2⟩])
  reset s := (peer.reset s.1, s.2)
  close s := (peer.close s.1, s.2)

theorem Peer.watched_shows (peer : Peer σ) : peer.watched.Shows peer Prod.fst :=
  ⟨fun _ _ _ => rfl, fun _ => rfl, fun _ _ => rfl, fun _ _ => rfl, fun _ _ => rfl, fun _ => rfl, fun _ => rfl⟩

/-- Whether a step hands over the message. -/
def Act.isMessage : Act → Bool
  | .payload _ => true
  | _ => false

/-- Whether a step names a recipient. -/
def Act.isName : Act → Bool
  | .rcptTo _ => true
  | _ => false

namespace Session

section

variable (peer : Peer σ) (policy : RecipientPolicy) (q : Request) (p : σ)

/-- The peer when all steps before the message are taken. -/
def beforeMessage : σ :=
  if accepts (mailReply peer q p) then afterNaming peer (mailed peer q p) q.recipients else mailed peer q p

/-- Nothing broke the session up to the message, and it no longer holds. -/
def SlipsBy : Prop :=
  openFailure? peer q p = none ∧ earlyBreak? peer policy q p = none ∧
    peer.isValid (beforeMessage peer q p) = false

/-- Whether a loss of the session at a step is noticed: at the message only by its answer. -/
def Notices (v : Sight) : Prop :=
  if v.act.isMessage then replyBreak? policy (payloadReply peer q p) ≠ none else ¬ SlipsBy peer policy q p

/-- A session that was broken off: it failed with the code for that, whoever was not refused by then fails with a
reason that has this code, and nobody is delivered. -/
structure BrokenOff : Prop where
  failed : (run peer policy q p).outcome.sessionFailure = some policy.sessionFailureCode
  told : ∃ reason : Response, reason.code = policy.sessionFailureCode ∧ ∃ os : List RecipientOutcome,
    os.Perm (run peer policy q p).outcome.recipients ∧ os.map (·.recipient) = q.recipients ∧
      ∀ i o, os[i]? = some o → (∀ a, own? peer policy q p i = some (.ok a) → a.isPositive) → o.Carries reason
  undelivered : ∀ o ∈ (run peer policy q p).outcome.recipients, o.disposition ≠ .delivered

end

variable {peer : Peer σ} {policy : RecipientPolicy} {q : Request} {p : σ}

/-! ### Sessions that are broken off -/

theorem code_of_earlyBreak? (opened : openFailure? peer q p = none) {b : Response}
    (h : earlyBreak? peer policy q p = some b) : b.code = policy.sessionFailureCode := by
  cases sender : accepts (mailReply peer q p) with
  | false =>
    rw [earlyBreak_of_refusal opened sender] at h
    exact code_of_replyBreak? h
  | true =>
    rw [earlyBreak_of_names (getsToNames_iff.2 ⟨opened, sender⟩)] at h
    exact code_of_breakOf? h

/-- An open session breaks with the code for that. -/
theorem code_of_break? (opened : openFailure? peer q p = none) {b : Response}
    (h : break? peer policy q p = some b) : b.code = policy.sessionFailureCode := by
  cases early : earlyBreak? peer policy q p with
  | some e =>
    rw [break?_of_early early] at h
    cases h
    exact code_of_earlyBreak? opened early
  | none =>
    cases hands : handsOver peer policy q p with
    | false =>
      rw [break?_of_not_handsOver hands, early] at h
      cases h
    | true =>
      rw [break?_of_handsOver early hands] at h
      exact code_of_replyBreak? h

/-- An open session that failed was broken off. -/
theorem brokenOff_of_failure (opened : openFailure? peer q p = none) (failed : (run peer policy q p).failure ≠ none) :
    BrokenOff peer policy q p := by
  obtain ⟨-, failure, decided⟩ := came_run peer policy q p
  obtain ⟨b, breaks⟩ : ∃ b, break? peer policy q p = some b := by
    rw [failure] at failed
    exact Option.ne_none_iff_exists'.1 fun none => failed (by rw [none, Option.map_none])
  have code := code_of_break? opened breaks
  refine ⟨?_, ⟨b, code, _, decided.symm, recipients_outcomes, fun i o ho => ?_⟩, fun o ho delivered => ?_⟩
  · show (run peer policy q p).failure = _
    rw [failure, breaks, Option.map_some, code]
  · exact (explained_of_outcomes ho).broken b breaks
  · obtain ⟨i, hi⟩ := List.mem_iff_getElem?.1 (decided.mem_iff.1 ho)
    have whole := break?_of_delivers ((explained_of_outcomes hi).delivered.1 delivered)
    cases breaks.symm.trans whole

/-! ### While the recipients are named -/

variable {t u : State (σ × List Sight)}

/-- A session up to the message: recipients are named only while it holds, and as long as nothing broke it, a loss
shows in the state of its peer. -/
structure Watching (peer : Peer σ) (t : State (σ × List Sight)) : Prop where
  held : ∀ v ∈ t.peer.2, v.act.isName → v.before
  early : ∀ v ∈ t.peer.2, v.act.isMessage = false
  lost : t.broken = none → ∀ v ∈ t.peer.2, v.after = false → peer.isValid t.peer.1 = false

/-- It is only the peer and the break that matter. -/
theorem Watching.alike (h : Watching peer t) (same : u.peer = t.peer) (breaks : u.broken = t.broken) :
    Watching peer u := by
  constructor
  · rw [same]
    exact h.held
  · rw [same]
    exact h.early
  · rw [same, breaks]
    exact h.lost

/-- A recipient is named in a session that holds. -/
theorem Watching.named (h : Watching peer t) (unbroken : t.broken = none) (valid : peer.isValid t.peer.1)
    (r : Recipient) : Watching peer (t.named peer.watched r) := by
  have sights : (t.named peer.watched r).peer.2 =
    t.peer.2 ++ [⟨.rcptTo r.address, peer.isValid t.peer.1, peer.isValid (peer.rcptTo r.address t.peer.1).2⟩] := rfl
  constructor
  · intro v hv names
    rcases List.mem_append.1 (sights ▸ hv) with old | new
    · exact h.held v old names
    · cases List.mem_singleton.1 new
      exact valid
  · intro v hv
    rcases List.mem_append.1 (sights ▸ hv) with old | new
    · exact h.early v old
    · cases List.mem_singleton.1 new
      rfl
  · intro _ v hv gone
    rcases List.mem_append.1 (sights ▸ hv) with old | new
    · -- the session held until now, so none of the steps before lost it
      cases valid.symm.trans (h.lost unbroken v old gone)
    · cases List.mem_singleton.1 new
      exact gone

/-- A session that is broken has nothing more to lose. -/
theorem Watching.breaks (h : Watching peer t) (b : Response) (rs : List Recipient) :
    Watching peer ((t.breakFor policy b).refuseAll policy b rs) :=
  ⟨h.held, h.early, by rintro ⟨⟩⟩

theorem watching_offer (h : Watching peer t) (r : Recipient) : Watching peer (offer peer.watched policy t r) := by
  cases broken : t.broken with
  | some b =>
    rw [offer, broken]
    exact h.alike rfl rfl
  | none =>
    cases breaks : (t.meets peer.watched r).break? policy with
    | some b =>
      rw [offer_of_break broken breaks]
      split
      · next valid => exact (h.named broken valid r).breaks b [r]
      · exact h.breaks b [r]
    | none =>
      obtain ⟨valid, a, reply, -⟩ := Naming.break?_eq_none breaks
      have named := h.named broken valid r
      rw [offer_of_answer broken breaks reply]
      split
      · exact named.alike rfl rfl
      · exact named.alike rfl rfl

theorem watching_foldl_offer (h : Watching peer t) (rs : List Recipient) :
    Watching peer (rs.foldl (offer peer.watched policy) t) := by
  induction rs generalizing t with
  | nil => exact h
  | cons r rs ih => exact ih (watching_offer h r)

/-! ### The whole session -/

/-- A session of which every loss is noticed or slips by. -/
structure Watched (peer : Peer σ) (policy : RecipientPolicy) (q : Request) (p : σ)
    (t : State (σ × List Sight)) : Prop where
  held : ∀ v ∈ t.peer.2, v.act.isName → v.before
  message : ¬ SlipsBy peer policy q p → ∀ v ∈ t.peer.2, v.act.isMessage → v.before
  lost : ∀ v ∈ t.peer.2, v.after = false → Notices peer policy q p v → t.failure ≠ none

/-- A session in which the message is not handed over. -/
theorem Watching.watched (h : Watching peer t) (sights : u.peer.2 = t.peer.2)
    (slips : u.failure = none → ∀ v ∈ t.peer.2, v.after = false → SlipsBy peer policy q p) :
    Watched peer policy q p u := by
  constructor
  · rw [sights]
    exact h.held
  · rw [sights]
    intro _ v hv message
    cases message.symm.trans (h.early v hv)
  · rw [sights]
    intro v hv gone notices intact
    rw [Notices, if_neg (by rw [h.early v hv]; decide)] at notices
    exact notices (slips intact v hv gone)

theorem sights_afterRefusal (a : Response) : (t.afterRefusal peer.watched policy a).peer.2 = t.peer.2 := by
  unfold State.afterRefusal
  split <;> rfl

/-- The message is one more step. -/
theorem sights_deliver : (deliver peer.watched policy q t).peer.2 = t.peer.2 ++
    [⟨.payload q.message.size, peer.isValid t.peer.1, peer.isValid (peer.payload q.message t.peer.1).2⟩] := by
  rw [deliver_eq]
  split
  · rfl
  · split
    · rfl
    · exact sights_afterRefusal (t := t.handed peer.watched q) _

/-- With the message handed over. -/
theorem Watching.watched_deliver (h : Watching peer t) (unbroken : t.broken = none) (intact : t.failure = none)
    (slips : peer.isValid t.peer.1 = false → SlipsBy peer policy q p)
    (reply : (peer.payload q.message t.peer.1).1 = payloadReply peer q p) :
    Watched peer policy q p (deliver peer.watched policy q t) := by
  have answered : Answered policy (t.handed peer.watched q) (peer.watched.payload q.message t.peer).1 t.accepted
      (deliver peer.watched policy q t) := answered_deliver intact
  constructor
  · rw [sights_deliver]
    intro v hv names
    rcases List.mem_append.1 hv with old | new
    · exact h.held v old names
    · cases List.mem_singleton.1 new
      cases names
  · rw [sights_deliver]
    intro holds v hv message
    rcases List.mem_append.1 hv with old | new
    · cases message.symm.trans (h.early v old)
    · cases List.mem_singleton.1 new
      exact Bool.of_not_eq_false fun gone => holds (slips gone)
  · rw [sights_deliver]
    intro v hv gone notices
    rcases List.mem_append.1 hv with old | new
    · rw [Notices, if_neg (by rw [h.early v old]; decide)] at notices
      exact absurd (slips (h.lost unbroken v old gone)) notices
    · cases List.mem_singleton.1 new
      have breaks : replyBreak? policy (payloadReply peer q p) ≠ none := notices
      rw [answered.failure]
      show (replyBreak? policy (peer.payload q.message t.peer.1).1).map _ ≠ none
      rw [reply]
      exact fun none => breaks (Option.map_eq_none_iff.1 none)

theorem watched_offerAll (names : getsToNames peer q p) (told : t.peer.1 = mailed peer q p) (h : Watching peer t)
    (unbroken : t.broken = none) (intact : t.failure = none) :
    Watched peer policy q p (offerAll peer.watched policy q t) := by
  obtain ⟨opened, sender⟩ := getsToNames_iff.1 names
  have through := through_foldl_offer peer.watched_shows policy t q.recipients
  have early : earlyBreak? peer policy q p = breakOf? policy (namings peer t.peer.1 q.recipients) := by
    rw [earlyBreak_of_names names, meetings, told]
  have watching : Watching peer (q.recipients.foldl (offer peer.watched policy) t) :=
    watching_foldl_offer h q.recipients
  -- what the session with the peer itself has come to
  have offered : Offered policy (t.through Prod.fst) (namings peer t.peer.1 q.recipients)
      ((q.recipients.foldl (offer peer.watched policy) t).through Prod.fst) := by
    rw [through]
    exact offered_foldl q.recipients unbroken intact
  have reached : breakOf? policy (namings peer t.peer.1 q.recipients) = none →
      (q.recipients.foldl (offer peer.watched policy) t).peer.1 = afterNaming peer t.peer.1 q.recipients := by
    intro whole
    have last := peer_foldl_offer (s := t.through Prod.fst) q.recipients unbroken whole
    rwa [← through] at last
  unfold offerAll
  dsimp only
  -- u is the session once all were named
  generalize q.recipients.foldl (offer peer.watched policy) t = u at *
  have break_eq : u.broken = earlyBreak? peer policy q p := offered.broken.trans early.symm
  have failure_eq : u.failure = (earlyBreak? peer policy q p).map fun _ => policy.sessionFailureCode :=
    early.symm ▸ offered.failure
  split
  · next b broken =>
    refine watching.watched rfl fun none => ?_
    have failed : u.failure = some policy.sessionFailureCode := by
      rw [failure_eq, ← break_eq, broken]
      rfl
    cases failed.symm.trans none
  · next broken =>
    have whole : earlyBreak? peer policy q p = none := break_eq.symm.trans broken
    have last : u.peer.1 = afterNaming peer (mailed peer q p) q.recipients := told ▸ reached (early.symm.trans whole)
    have slips : peer.isValid u.peer.1 = false → SlipsBy peer policy q p := by
      intro gone
      refine ⟨opened, whole, ?_⟩
      rw [beforeMessage, if_pos sender, ← last]
      exact gone
    split
    · exact watching.watched rfl fun _ v hv gone => slips (watching.lost broken v hv gone)
    · refine watching.watched_deliver broken ?_ slips ?_
      · rw [failure_eq, whole]
        rfl
      · rw [last, payloadReply]

theorem watched_converse (opened : openFailure? peer q p = none)
    (told : t.peer.1 = (peer.openSession q.domain q.source p).2) (unseen : t.peer.2 = [])
    (unbroken : t.broken = none) (intact : t.failure = none) :
    Watched peer policy q p (converse peer.watched policy q t) := by
  have after : (t.begun peer.watched q).peer.1 = mailed peer q p := by
    rw [mailed, ← told]
    rfl
  have sights : (t.begun peer.watched q).peer.2 =
      [⟨.mailFrom q.message.sender, peer.isValid t.peer.1, peer.isValid (mailed peer q p)⟩] := by
    rw [← after]
    show t.peer.2 ++ _ = _
    rw [unseen]
    rfl
  have watching : Watching peer (t.begun peer.watched q) := by
    constructor
    · rw [sights]
      intro v hv names
      cases List.mem_singleton.1 hv
      cases names
    · rw [sights]
      intro v hv
      cases List.mem_singleton.1 hv
      rfl
    · rw [sights, after]
      intro _ v hv gone
      cases List.mem_singleton.1 hv
      exact gone
  have reply : (peer.watched.mailFrom q.message.sender t.peer).1 = mailReply peer q p := by
    rw [mailReply, ← told]
    rfl
  rw [converse_eq, reply]
  split
  · exact watching.watched rfl (by rintro ⟨⟩)
  · next a answer =>
    split
    · next positive =>
      have sender : accepts (mailReply peer q p) := by
        rw [answer]
        exact positive
      exact watched_offerAll (getsToNames_iff.2 ⟨opened, sender⟩) after watching unbroken intact
    · next negative =>
      have refused : accepts (mailReply peer q p) = false := by
        rw [answer]
        exact Bool.not_eq_true _ ▸ negative
      have answered : Answered policy (t.begun peer.watched q) (.ok a) q.recipients
          (((t.begun peer.watched q).afterRefusal peer.watched policy a).refuseAll policy a q.recipients) :=
        answered_refusal (s := t.begun peer.watched q) intact negative q.recipients
      refine watching.watched (sights_afterRefusal a) fun none v hv gone => ⟨opened, ?_, ?_⟩
      · rw [earlyBreak_of_refusal opened refused, answer]
        rw [answered.failure] at none
        exact Option.map_eq_none_iff.1 none
      · rw [beforeMessage, refused, ← after]
        exact watching.lost unbroken v hv gone

/-- Every session with a watched peer. -/
theorem watched_run (peer : Peer σ) (policy : RecipientPolicy) (q : Request) (p : σ) :
    ((run peer.watched policy q (p, [])).peer.2 ≠ [] → openFailure? peer q p = none) ∧
      Watched peer policy q p (run peer.watched policy q (p, [])) := by
  have answer : peer.watched.openSession q.domain q.source (p, []) =
    ((peer.openSession q.domain q.source p).1, (peer.openSession q.domain q.source p).2, []) := rfl
  unfold run
  rw [answer]
  cases opening : (peer.openSession q.domain q.source p).1 with
  | error e =>
    refine ⟨fun some => absurd rfl some, ?_, fun _ => ?_, ?_⟩
    · rintro v ⟨⟩
    · rintro v ⟨⟩
    · rintro v ⟨⟩
  | ok u =>
    have opened : openFailure? peer q p = none := by rw [openFailure?, opening]
    let t : State (σ × List Sight) :=
      { peer := ((peer.openSession q.domain q.source p).2, []), acts := [.opened q.domain q.source] }
    have talked : Watched peer policy q p (converse peer.watched policy q t) :=
      watched_converse opened rfl rfl rfl rfl
    exact ⟨fun _ => opened, talked.held, talked.message, talked.lost⟩

/-- In any session, a recipient is named only while the session holds. Unless a loss slips by before the message,
the message is handed over only while the session holds. A session that is lost at a step is broken off, unless
the loss slips by. -/
theorem breaksOff_run (peer : Peer σ) (policy : RecipientPolicy) (q : Request) (p : σ) :
    (run peer.watched policy q (p, [])).through Prod.fst = run peer policy q p ∧
      (∀ v ∈ (run peer.watched policy q (p, [])).peer.2, v.act.isName → v.before) ∧
      (¬ SlipsBy peer policy q p →
        ∀ v ∈ (run peer.watched policy q (p, [])).peer.2, v.act.isMessage → v.before) ∧
      ∀ v ∈ (run peer.watched policy q (p, [])).peer.2, v.after = false → Notices peer policy q p v →
        BrokenOff peer policy q p := by
  have through := through_run peer.watched_shows policy q (p, [])
  obtain ⟨opened, watched⟩ := watched_run peer policy q p
  refine ⟨through, watched.held, watched.message, fun v hv gone notices => ?_⟩
  refine brokenOff_of_failure (opened (List.ne_nil_of_mem hv)) ?_
  rw [← through]
  exact watched.lost v hv gone notices

/-- A peer that agrees to everything, and whose session holds for so many more steps for a message. -/
def lasting : Peer Nat where
  openSession _ _ n := (.ok (), n)
  isValid n := n != 0
  mailFrom _ n := (.ok ⟨250, "OK"⟩, n - 1)
  rcptTo _ n := (.ok ⟨250, "OK"⟩, n - 1)
  payload _ n := (.ok ⟨250, "OK"⟩, n - 1)
  reset n := n
  close n := n

/-- A message for two. -/
def pair : Request where
  domain := ⟨"example.org"⟩
  source := .v4 [192, 0, 2, 1]
  recipients := [{ address := "a@example.org" }, { address := "b@example.org" }]
  message := ⟨"s@example.org", 5, false⟩

/-- A session that is lost at the first of two recipients is broken off. -/
theorem breaksOff_pair :
    ∃ v ∈ (run lasting.watched {} pair (2, [])).peer.2, v.after = false ∧
      Notices lasting {} pair 2 v ∧ BrokenOff lasting {} pair 2 := by
  have noticed : Notices lasting {} pair 2 ⟨.rcptTo "a@example.org", true, false⟩ := by
    rintro ⟨-, early, -⟩
    cases early
  refine ⟨⟨.rcptTo "a@example.org", true, false⟩, by decide, rfl, noticed, ?_⟩
  exact (breaksOff_run lasting {} pair 2).2.2.2 _ (by decide) rfl noticed

-- A loss at the last recipient slips by, and the message is handed over all the same.
example : lasting.isValid (beforeMessage lasting pair 3) = false ∧
    (run lasting {} pair 3).outcome.recipients.all (·.isDelivered) := by decide

end Session

end Postroom
