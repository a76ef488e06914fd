import Postroom.Proofs.Session.Answers

/-!
# The course of a session

The conversation, told by the answers of the peer: what it has decided, whether it failed and which steps it took,
after the recipients were named, after the message, and at the end.

- `Session.Offered`, `Session.offered_foldl`: once the recipients were named.
- `Session.Came`, `Session.came_run`: at the end.
-/

namespace Postroom.Session

variable {σ : Type} {peer : Peer σ} {policy : RecipientPolicy} {q : Request} {s : State σ} {r : Recipient}

/-! ### The session while the recipients are named -/

namespace State

/-- What a recipient meets that is named next. -/
def meets (peer : Peer σ) (s : State σ) (r : Recipient) : Naming :=
  ⟨r, peer.isValid s.peer, (peer.rcptTo r.address s.peer).1⟩

/-- The session once a recipient was named, before anything follows from the answer. -/
def named (peer : Peer σ) (s : State σ) (r : Recipient) : State σ :=
  { s.act (.rcptTo r.address) with peer := (peer.rcptTo r.address s.peer).2 }

end State

theorem foldl_offer_of_broken {b : Response} (broken : s.broken = some b) (rs : List Recipient) :
    rs.foldl (offer peer policy) s = s.refuseAll policy b rs := by
  induction rs generalizing s with
  | nil =>
    rw [List.foldl_nil, State.refuseAll, List.map_nil, List.append_nil]
  | cons r rs ih =>
    have first : offer peer policy s r = s.refuseAll policy b [r] := by rw [offer, broken]
    rw [List.foldl_cons, first, ih (s := s.refuseAll policy b [r]) broken]
    simp only [State.refuseAll, List.map_cons, List.map_nil, List.append_assoc, List.singleton_append]

theorem offer_of_break {b : Response} (unbroken : s.broken = none)
    (h : (s.meets peer r).break? policy = some b) : offer peer policy s r =
      ((if (s.meets peer r).valid then s.named peer r else s).breakFor policy b).refuseAll policy b [r] := by
  rw [offer, unbroken]
  dsimp only
  by_cases valid : peer.isValid s.peer
  · have holds : (s.meets peer r).valid := valid
    rw [Naming.break?, if_pos holds] at h
    rw [if_neg (by simpa using valid), if_pos holds]
    have reply : (s.meets peer r).reply = (peer.rcptTo r.address s.peer).1 := rfl
    rw [reply] at h
    cases answer : (peer.rcptTo r.address s.peer).1 with
    | error f =>
      rw [answer] at h
      cases h
      rfl
    | ok response =>
      rw [answer, replyBreak?] at h
      split at h
      · cases h
      · next negative =>
        split at h
        · next closes =>
          cases h
          dsimp only
          rw [if_neg negative, if_pos closes]
          rfl
        · cases h
  · have lost : ¬ (s.meets peer r).valid := valid
    rw [Naming.break?, if_neg lost] at h
    cases h
    rw [if_pos (by simpa using valid), if_neg lost]

theorem offer_of_answer {answer : Response} (unbroken : s.broken = none)
    (h : (s.meets peer r).break? policy = none) (reply : (s.meets peer r).reply = .ok answer) :
    offer peer policy s r = if answer.isPositive then
        { s.named peer r with accepted := s.accepted ++ [r] }
      else (s.named peer r).refuseAll policy answer [r] := by
  obtain ⟨valid, other, same, goesOn⟩ := Naming.break?_eq_none h
  rw [reply] at same
  cases same
  have holds : peer.isValid s.peer := valid
  have reply : (peer.rcptTo r.address s.peer).1 = .ok answer := reply
  rw [offer, unbroken]
  dsimp only
  rw [if_neg (by simpa using holds), reply]
  dsimp only
  by_cases positive : answer.isPositive
  · rw [if_pos positive, if_pos positive]
    rfl
  · rw [if_neg positive, if_neg positive, if_neg (goesOn.resolve_left positive)]
    rfl

/-- What a session `s` has come to, in `t`, once recipients were named that met what `ns` says. -/
structure Offered (policy : RecipientPolicy) (s : State σ) (ns : List Naming) (t : State σ) : Prop where
  acts : t.acts = s.acts ++ (asked policy ns).map (fun n => .rcptTo n.recipient.address) ++
    (breakOf? policy ns).toList.map fun _ => .failed policy.sessionFailureCode
  broken : t.broken = breakOf? policy ns
  failure : t.failure = (breakOf? policy ns).map fun _ => policy.sessionFailureCode
  accepted : t.accepted = s.accepted ++ ((asked policy ns).filter (accepts ·.reply)).map (·.recipient)
  decided : ∀ ending, (t.decided ++ t.accepted.map ending).Perm
    (s.decided ++ s.accepted.map ending ++ fates policy ending ns)

theorem State.decided_refuseAll (s : State σ) (b : Response) (rs : List Recipient)
    (ending : Recipient → RecipientOutcome) :
    ((s.refuseAll policy b rs).decided ++ (s.refuseAll policy b rs).accepted.map ending).Perm
      (s.decided ++ s.accepted.map ending ++ rs.map (refuse policy b)) := by
  rw [State.refuseAll, List.append_assoc, List.append_assoc]
  exact List.Perm.append_left _ List.perm_append_comm

theorem offered_nil (unbroken : s.broken = none) (intact : s.failure = none) : Offered policy s [] s where
  acts := by simp [asked, breakOf?]
  broken := unbroken
  failure := intact
  accepted := (List.append_nil _).symm
  decided ending := by
    rw [fates, List.append_nil]

/-- After a break, whoever comes fails with its reason. -/
theorem offered_of_break {b : Response} {rs : List Recipient} {ns : List Naming}
    (h : (s.meets peer r).break? policy = some b) (recipients : ns.map (·.recipient) = rs) :
    Offered policy s (s.meets peer r :: ns)
      (((if (s.meets peer r).valid then s.named peer r else s).breakFor policy b).refuseAll policy b (r :: rs)) := by
  have first : breakOf? policy (s.meets peer r :: ns) = some b := by
    rw [breakOf?_cons, h]
    rfl
  have fails (ending) : fates policy ending (s.meets peer r :: ns) = (r :: rs).map (refuse policy b) := by
    rw [fates_cons_of_some h, List.map_cons, recipients]
    rfl
  -- the reply at the break, if any, is not a positive one
  have nobody : ((asked policy (s.meets peer r :: ns)).filter (accepts ·.reply)).map (·.recipient) = [] := by
    rw [asked_cons_of_some h]
    split
    · next valid =>
      have refused : accepts (s.meets peer r).reply = false := by
        rw [Naming.break?, if_pos valid] at h
        exact accepts_of_break h
      rw [List.filter_cons_of_neg (by simp [refused]), List.filter_nil, List.map_nil]
    · rfl
  -- the session at the break, in which nobody is decided yet
  generalize hu : (if (s.meets peer r).valid then s.named peer r else s) = u
  have acts : u.acts = s.acts ++ (asked policy (s.meets peer r :: ns)).map
      fun n => .rcptTo n.recipient.address := by
    rw [asked_cons_of_some h, ← hu]
    split
    · rfl
    · rw [List.map_nil, List.append_nil]
  have decided : u.decided = s.decided := by
    rw [← hu]
    split <;> rfl
  have accepted : u.accepted = s.accepted := by
    rw [← hu]
    split <;> rfl
  refine ⟨?_, first.symm, ?_, ?_, fun ending => ?_⟩
  · rw [first, ← acts]
    rfl
  · rw [first]
    rfl
  · rw [nobody, List.append_nil]
    exact accepted
  · rw [fails, ← decided, ← accepted]
    exact (u.breakFor policy b).decided_refuseAll b (r :: rs) ending

/-- One recipient that is named, and then the others. -/
theorem Offered.cons {n : Naming} {ns : List Naming} {u t : State σ} (rest : Offered policy u ns t)
    (h : n.break? policy = none)
    (acts : u.acts = s.acts ++ [.rcptTo n.recipient.address])
    (accepted : u.accepted = s.accepted ++ if accepts n.reply then [n.recipient] else [])
    (decided : ∀ ending, (u.decided ++ u.accepted.map ending).Perm
      (s.decided ++ s.accepted.map ending ++ [fate policy ending n])) : Offered policy s (n :: ns) t where
  acts := by
    rw [rest.acts, acts, asked_cons_of_none h, breakOf?_cons, h]
    simp
  broken := by
    rw [rest.broken, breakOf?_cons, h]
    rfl
  failure := by
    rw [rest.failure, breakOf?_cons, h]
    rfl
  accepted := by
    rw [rest.accepted, accepted, asked_cons_of_none h, List.filter_cons, List.append_assoc]
    split <;> rfl
  decided ending := by
    refine (rest.decided ending).trans ?_
    rw [fates_cons_of_none h, ← List.singleton_append, ← List.append_assoc]
    exact (decided ending).append_right _

/-- The session after any recipients were named. -/
theorem offered_foldl (rs : List Recipient) (unbroken : s.broken = none) (intact : s.failure = none) :
    Offered policy s (namings peer s.peer rs) (rs.foldl (offer peer policy) s) := by
  induction rs generalizing s with
  | nil => exact offered_nil unbroken intact
  | cons r rs ih =>
    have meets : namings peer s.peer (r :: rs) = s.meets peer r :: namings peer (s.named peer r).peer rs := rfl
    rw [meets, List.foldl_cons]
    cases h : (s.meets peer r).break? policy with
    | some b =>
      rw [offer_of_break unbroken h, foldl_offer_of_broken rfl]
      have all := offered_of_break h (recipients_namings peer (s.named peer r).peer rs)
      simpa only [State.refuseAll, List.map_cons, List.map_nil, List.append_assoc, List.singleton_append] using all
    | none =>
      obtain ⟨-, answer, reply, -⟩ := Naming.break?_eq_none h
      rw [offer_of_answer unbroken h reply]
      by_cases positive : answer.isPositive
      · rw [if_pos positive]
        have rest := ih (s := { s.named peer r with accepted := s.accepted ++ [r] }) unbroken intact
        refine rest.cons h rfl ?_ fun ending => ?_
        · rw [reply, accepts, if_pos positive]
          rfl
        · rw [fate_of_positive reply positive, List.map_append, ← List.append_assoc]
          exact List.Perm.refl _
      · rw [if_neg positive]
        have rest := ih (s := (s.named peer r).refuseAll policy answer [r]) unbroken intact
        refine rest.cons h rfl ?_ fun ending => ?_
        · rw [reply, accepts, if_neg positive]
          exact (List.append_nil _).symm
        · rw [fate_of_negative reply positive]
          exact (s.named peer r).decided_refuseAll answer [r] ending

/-- With no break, the peer was told of all recipients. -/
theorem peer_foldl_offer (rs : List Recipient) (unbroken : s.broken = none)
    (whole : breakOf? policy (namings peer s.peer rs) = none) :
    (rs.foldl (offer peer policy) s).peer = afterNaming peer s.peer rs := by
  induction rs generalizing s with
  | nil => rfl
  | cons r rs ih =>
    have meets : namings peer s.peer (r :: rs) = s.meets peer r :: namings peer (s.named peer r).peer rs := rfl
    rw [meets, breakOf?_cons] at whole
    cases h : (s.meets peer r).break? policy with
    | some b =>
      rw [h] at whole
      cases whole
    | none =>
      rw [h] at whole
      obtain ⟨-, answer, reply, -⟩ := Naming.break?_eq_none h
      rw [List.foldl_cons, offer_of_answer unbroken h reply]
      split
      · exact ih unbroken whole
      · exact ih (s := (s.named peer r).refuseAll policy answer [r]) unbroken whole

/-! ### An answer that concerns the whole message -/

/-- The steps that follow from an answer to the sender or to the message. -/
def closing (policy : RecipientPolicy) (reply : Reply) : List Act :=
  match replyBreak? policy reply with
  | some _ => [.failed policy.sessionFailureCode]
  | none => if accepts reply then [] else [.reset]

/-- What a session `s` has come to, in `t`, by an answer that decides the recipients `rs`. -/
structure Answered (policy : RecipientPolicy) (s : State σ) (reply : Reply) (rs : List Recipient)
    (t : State σ) : Prop where
  acts : t.acts = s.acts ++ closing policy reply
  failure : t.failure = (replyBreak? policy reply).map fun _ => policy.sessionFailureCode
  decided : t.decided = s.decided ++ rs.map (endingOf policy reply)

theorem answered_error (s : State σ) (f : TransportFault) (rs : List Recipient) :
    Answered policy s (.error f) rs
      ((s.fail policy.sessionFailureCode).refuseAll policy (faultReason policy f) rs) :=
  ⟨rfl, rfl, rfl⟩

theorem answered_refusal (intact : s.failure = none) {a : Response} (negative : ¬ a.isPositive)
    (rs : List Recipient) :
    Answered policy s (.ok a) rs ((s.afterRefusal peer policy a).refuseAll policy a rs) := by
  by_cases closes : a.code = policy.sessionFailureCode
  · have breaks : replyBreak? policy (.ok a) = some a := by rw [replyBreak?, if_neg negative, if_pos closes]
    rw [State.afterRefusal, if_pos closes]
    constructor
    · rw [closing, breaks]
      rfl
    · rw [breaks]
      rfl
    · rw [endingOf_negative negative]
      rfl
  · have holds : replyBreak? policy (.ok a) = none := by rw [replyBreak?, if_neg negative, if_neg closes]
    rw [State.afterRefusal, if_neg closes]
    constructor
    · rw [closing, holds, accepts, if_neg negative]
      rfl
    · rw [holds]
      exact intact
    · rw [endingOf_negative negative]
      rfl

/-- The session with the message handed over, before anything follows from the answer. -/
def State.handed (peer : Peer σ) (q : Request) (s : State σ) : State σ :=
  { s.act (.payload q.message.size) with peer := (peer.payload q.message s.peer).2 }

theorem deliver_eq (s : State σ) : deliver peer policy q s =
    match (peer.payload q.message s.peer).1 with
    | .error f => ((s.handed peer q).fail policy.sessionFailureCode).refuseAll policy (faultReason policy f) s.accepted
    | .ok a =>
      if a.isPositive then
        { s.handed peer q with
          decided := s.decided ++ s.accepted.map fun r => ⟨r, a.code, a.message, .delivered⟩ }
      else ((s.handed peer q).afterRefusal peer policy a).refuseAll policy a s.accepted := rfl

theorem answered_deliver (intact : s.failure = none) :
    Answered policy (s.handed peer q) (peer.payload q.message s.peer).1 s.accepted (deliver peer policy q s) := by
  rw [deliver_eq]
  cases reply : (peer.payload q.message s.peer).1 with
  | error f => exact answered_error _ f s.accepted
  | ok a =>
    dsimp only
    by_cases positive : a.isPositive
    · rw [if_pos positive]
      have holds : replyBreak? policy (.ok a) = none := by rw [replyBreak?, if_pos positive]
      constructor
      · rw [closing, holds, accepts, if_pos positive, List.append_nil]
      · rw [holds]
        exact intact
      · rw [endingOf_positive positive]
        rfl
    · rw [if_neg positive]
      exact answered_refusal (s := s.handed peer q) intact positive s.accepted

/-! ### The whole conversation -/

variable {p : σ}

/-- The steps that follow the sender, but for the last one. -/
def steps (peer : Peer σ) (policy : RecipientPolicy) (q : Request) (p : σ) : List Act :=
  if accepts (mailReply peer q p) then
    (callees peer policy q p).map (fun n => .rcptTo n.recipient.address) ++
      ((earlyBreak? peer policy q p).toList.map fun _ => .failed policy.sessionFailureCode) ++
      if handsOver peer policy q p then .payload q.message.size :: closing policy (payloadReply peer q p)
      else if (earlyBreak? peer policy q p).isNone then [.reset] else []
  else closing policy (mailReply peer q p)

/-- What a session with the steps `pre` has come to, in `t`, when it has ended. -/
structure Came (peer : Peer σ) (policy : RecipientPolicy) (q : Request) (p : σ) (pre : List Act)
    (t : State σ) : Prop where
  acts : t.acts = pre ++ steps peer policy q p
  failure : t.failure = (break? peer policy q p).map (·.code)
  decided : t.decided.Perm (outcomes peer policy q p)

/-- A break before the message ends the session. -/
theorem came_of_break {t : State σ} {b : Response} (names : getsToNames peer q p)
    (early : earlyBreak? peer policy q p = some b) (fresh : s.decided = []) (nobody : s.accepted = [])
    (offered : Offered policy s (meetings peer q p) t) :
    Came peer policy q p s.acts (t.refuseAll policy b t.accepted) := by
  obtain ⟨opened, sender⟩ := getsToNames_iff.1 names
  have breaks : breakOf? policy (meetings peer q p) = some b := earlyBreak_of_names names ▸ early
  constructor
  · rw [steps, if_pos sender, callees_of_names names, early, handsOver_of_break early]
    refine offered.acts.trans ?_
    rw [breaks]
    simp
  · refine offered.failure.trans ?_
    rw [breaks, break?, early]
    exact congrArg some (code_of_breakOf? breaks).symm
  · rw [outcomes, opened]
    dsimp only
    rw [if_pos sender, acceptedEnding, early]
    have all := offered.decided (refuse policy b)
    rwa [fresh, nobody] at all

/-- A session in which nobody was accepted is reset. -/
theorem came_of_nobody {t : State σ} (names : getsToNames peer q p)
    (early : earlyBreak? peer policy q p = none) (fresh : s.decided = []) (nobody : s.accepted = [])
    (offered : Offered policy s (meetings peer q p) t) (empty : t.accepted = []) :
    Came peer policy q p s.acts (t.reset peer) := by
  obtain ⟨opened, sender⟩ := getsToNames_iff.1 names
  have breaks : breakOf? policy (meetings peer q p) = none := earlyBreak_of_names names ▸ early
  have hands : handsOver peer policy q p = false := by
    have none := offered.accepted
    rw [empty, nobody, List.nil_append] at none
    rw [handsOver_of_unbroken early, callees_of_names names, List.any_eq_false]
    intro n hn positive
    have inside : n ∈ (asked policy (meetings peer q p)).filter (accepts ·.reply) :=
      List.mem_filter.2 ⟨hn, positive⟩
    rw [List.map_eq_nil_iff.1 none.symm] at inside
    cases inside
  constructor
  · rw [steps, if_pos sender, callees_of_names names, early, hands]
    show t.acts ++ [.reset] = _
    rw [offered.acts, breaks]
    simp
  · refine offered.failure.trans ?_
    rw [breaks, break?, early, hands]
    rfl
  · rw [outcomes, opened]
    dsimp only
    rw [if_pos sender]
    have all := offered.decided (acceptedEnding peer policy q p)
    rw [fresh, nobody, empty, List.map_nil, List.append_nil] at all
    exact all

/-- With a recipient accepted, the message is handed over. -/
theorem came_of_message {t : State σ} (names : getsToNames peer q p)
    (early : earlyBreak? peer policy q p = none) (fresh : s.decided = []) (nobody : s.accepted = [])
    (offered : Offered policy s (meetings peer q p) t) (someone : t.accepted ≠ [])
    (reached : t.peer = afterNaming peer (mailed peer q p) q.recipients) :
    Came peer policy q p s.acts (deliver peer policy q t) := by
  obtain ⟨opened, sender⟩ := getsToNames_iff.1 names
  have breaks : breakOf? policy (meetings peer q p) = none := earlyBreak_of_names names ▸ early
  have intact : t.failure = none := by rw [offered.failure, breaks, Option.map_none]
  have answered : Answered policy (t.handed peer q) (payloadReply peer q p) t.accepted (deliver peer policy q t) := by
    rw [payloadReply, ← reached]
    exact answered_deliver intact
  have hands : handsOver peer policy q p := by
    rw [handsOver_of_unbroken early, callees_of_names names, List.any_eq_true]
    rw [offered.accepted, nobody, List.nil_append, Ne, List.map_eq_nil_iff] at someone
    obtain ⟨n, hn⟩ := List.exists_mem_of_ne_nil _ someone
    exact ⟨n, List.mem_filter.1 hn⟩
  constructor
  · rw [answered.acts, steps, if_pos sender, callees_of_names names, early, if_pos hands]
    show t.acts ++ [.payload q.message.size] ++ _ = _
    rw [offered.acts, breaks]
    simp
  · rw [answered.failure, break?, early, if_pos hands]
    cases h : replyBreak? policy (payloadReply peer q p) with
    | none => rfl
    | some b => exact congrArg some (code_of_replyBreak? h).symm
  · rw [outcomes, opened]
    dsimp only
    rw [if_pos sender, acceptedEnding, early, answered.decided]
    have all := offered.decided (endingOf policy (payloadReply peer q p))
    rwa [fresh, nobody] at all

theorem came_offerAll (names : getsToNames peer q p) (told : s.peer = mailed peer q p) (fresh : s.decided = [])
    (nobody : s.accepted = []) (unbroken : s.broken = none) (intact : s.failure = none) :
    Came peer policy q p s.acts (offerAll peer policy q s) := by
  have offered : Offered policy s (meetings peer q p) (q.recipients.foldl (offer peer policy) s) := by
    rw [meetings, ← told]
    exact offered_foldl q.recipients unbroken intact
  have reached : breakOf? policy (meetings peer q p) = none →
      (q.recipients.foldl (offer peer policy) s).peer = afterNaming peer (mailed peer q p) q.recipients := by
    rw [meetings, ← told]
    exact peer_foldl_offer q.recipients unbroken
  unfold offerAll
  dsimp only
  -- t is the session once all were named
  generalize q.recipients.foldl (offer peer policy) s = t at *
  have early : earlyBreak? peer policy q p = breakOf? policy (meetings peer q p) := earlyBreak_of_names names
  split
  · next b broken => exact came_of_break names (early.trans (offered.broken.symm.trans broken)) fresh nobody offered
  · next broken =>
    have none := offered.broken.symm.trans broken
    split
    · next empty =>
      exact came_of_nobody names (early.trans none) fresh nobody offered (List.isEmpty_iff.1 empty)
    · next full =>
      refine came_of_message names (early.trans none) fresh nobody offered (fun empty => full ?_) (reached none)
      exact List.isEmpty_iff.2 empty

/-- The session once the sender was named, before anything follows from the answer. -/
def State.begun (peer : Peer σ) (q : Request) (s : State σ) : State σ :=
  { s.act (.mailFrom q.message.sender) with peer := (peer.mailFrom q.message.sender s.peer).2 }

theorem converse_eq (s : State σ) : converse peer policy q s =
    match (peer.mailFrom q.message.sender s.peer).1 with
    | .error f => ((s.begun peer q).fail policy.sessionFailureCode).refuseAll policy (faultReason policy f) q.recipients
    | .ok a =>
      if a.isPositive then offerAll peer policy q (s.begun peer q)
      else ((s.begun peer q).afterRefusal peer policy a).refuseAll policy a q.recipients := rfl

theorem came_converse (opened : openFailure? peer q p = none)
    (told : s.peer = (peer.openSession q.domain q.source p).2) (fresh : s.decided = []) (nobody : s.accepted = [])
    (unbroken : s.broken = none) (intact : s.failure = none) :
    Came peer policy q p (s.acts ++ [.mailFrom q.message.sender]) (converse peer policy q s) := by
  have reply : mailReply peer q p = (peer.mailFrom q.message.sender s.peer).1 := by rw [mailReply, ← told]
  have after : (s.begun peer q).peer = mailed peer q p := by
    rw [mailed, ← told]
    rfl
  rw [converse_eq]
  generalize (peer.mailFrom q.message.sender s.peer).1 = answer at *
  -- a refusal of the sender decides all recipients
  have refused {u : State σ} (negative : accepts answer = false)
      (answered : Answered policy (s.begun peer q) answer q.recipients u) :
      Came peer policy q p (s.begun peer q).acts u := by
    have silent : ¬ getsToNames peer q p := by
      intro names
      rw [← reply, (getsToNames_iff.1 names).2] at negative
      cases negative
    have early : earlyBreak? peer policy q p = replyBreak? policy answer := by
      rw [earlyBreak?, opened]
      dsimp only
      rw [reply, negative]
      rfl
    constructor
    · rw [answered.acts, steps, reply, negative]
      rfl
    · rw [answered.failure, break?, early, handsOver_of_not_names silent]
      cases h : replyBreak? policy answer with
      | none => rfl
      | some b => exact congrArg some (code_of_replyBreak? h).symm
    · rw [answered.decided, show (s.begun peer q).decided = [] from fresh, outcomes, opened]
      dsimp only
      rw [reply, negative]
      exact List.Perm.refl _
  cases answer with
  | error f => exact refused rfl (answered_error _ f q.recipients)
  | ok a =>
    dsimp only
    by_cases positive : a.isPositive
    · rw [if_pos positive]
      have names : getsToNames peer q p := getsToNames_iff.2 ⟨opened, reply ▸ positive⟩
      exact came_offerAll (s := s.begun peer q) names after fresh nobody unbroken intact
    · rw [if_neg positive]
      have negative : accepts (.ok a) = false := Bool.not_eq_true _ ▸ positive
      exact refused negative (answered_refusal (s := s.begun peer q) intact positive q.recipients)

/-- The steps of a whole session. -/
def script (peer : Peer σ) (policy : RecipientPolicy) (q : Request) (p : σ) : List Act :=
  .opened q.domain q.source ::
    match openFailure? peer q p with
    | some e => [.failed (e.code.getD policy.sessionFailureCode)]
    | none => .mailFrom q.message.sender :: steps peer policy q p ++ [.close]

/-- What a session comes to. -/
theorem came_run (peer : Peer σ) (policy : RecipientPolicy) (q : Request) (p : σ) :
    (run peer policy q p).acts = script peer policy q p ∧
      (run peer policy q p).failure = (break? peer policy q p).map (·.code) ∧
      (run peer policy q p).decided.Perm (outcomes peer policy q p) := by
  rcases he : peer.openSession q.domain q.source p with ⟨opening, p'⟩
  unfold run
  rw [he]
  let s : State σ := { peer := p', acts := [.opened q.domain q.source] }
  cases opening with
  | error e =>
    have failed : openFailure? peer q p = some e := by rw [openFailure?, he]
    have early : earlyBreak? peer policy q p = some ⟨e.code.getD policy.sessionFailureCode, e.message⟩ := by
      rw [earlyBreak?, failed]
    refine ⟨?_, ?_, ?_⟩
    · rw [script, failed]
      rfl
    · rw [break?, early]
      rfl
    · rw [outcomes, failed]
      exact List.Perm.refl _
  | ok u =>
    have opened : openFailure? peer q p = none := by rw [openFailure?, he]
    have told : s.peer = (peer.openSession q.domain q.source p).2 := by rw [he]
    have came : Came peer policy q p _ (converse peer policy q s) :=
      came_converse opened told rfl rfl rfl rfl
    refine ⟨?_, came.failure, came.decided⟩
    show (converse peer policy q s).acts ++ [.close] = _
    rw [script, opened, came.acts]
    rfl

end Postroom.Session
