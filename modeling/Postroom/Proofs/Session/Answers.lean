import Mathlib.Data.List.Perm.Basic
import Postroom.Session.Conversation

/-!
# What a peer answers

What a session comes to is decided by its peer: by the answers to the opening and to the sender, by what each
recipient meets that is named in turn, and by the answer to the message. Those answers are defined here from the
peer alone, without the bookkeeping of the conversation.

- `Session.replyBreak?`: why an answer breaks the session.
- `Session.namings`: what each recipient meets, if all are named in order; `Session.breakOf?`: the first break
  among them. `Session.asked`: those that are named, up to the break.
- `Session.fates`: what becomes of the recipients, in the order of the request; `Session.ends_of_fates`: why.
- `Session.callees`, `Session.handsOver`, `Session.break?`: the same for a whole session.
-/

namespace Postroom.Session

variable {σ : Type} (peer : Peer σ) (policy : RecipientPolicy)

/-! ### Answers -/

/-- Whether an answer is a positive one. -/
def accepts : Reply → Bool
  | .ok r => r.isPositive
  | .error _ => false

/-- Why an answer breaks the session: it did not come, or it is the refusal that closes the session. -/
def replyBreak? : Reply → Option Response
  | .error f => some (faultReason policy f)
  | .ok r => if r.isPositive then none else if r.code = policy.sessionFailureCode then some r else none

/-- A recipient, whether the session still holds when it is to be named, and the answer to its name. -/
structure Naming where
  recipient : Recipient
  valid : Bool
  reply : Reply

/-- What the recipients meet with a peer in state `s`, if all are named in order. -/
def namings : σ → List Recipient → List Naming
  | _, [] => []
  | s, r :: rs =>
    ⟨r, peer.isValid s, (peer.rcptTo r.address s).1⟩ :: namings (peer.rcptTo r.address s).2 rs

/-- The peer once all recipients were named. -/
def afterNaming (s : σ) (rs : List Recipient) : σ := rs.foldl (fun s r => (peer.rcptTo r.address s).2) s

/-- Why the session breaks at a recipient. -/
def Naming.break? (n : Naming) : Option Response :=
  if n.valid then replyBreak? policy n.reply else some (invalidReason policy)

/-- Why the session breaks at the first of the recipients at which it does. -/
def breakOf? (ns : List Naming) : Option Response := ns.findSome? (Naming.break? policy)

/-- The recipients that are named: up to the one at which the session breaks, and that one unless the session was
found invalid before it. -/
def asked : List Naming → List Naming
  | [] => []
  | n :: ns => if n.valid then n :: if (n.break? policy).isNone then asked ns else [] else []

/-- What becomes of the recipients that an answer to the sender or to the message is about. -/
def endingOf : Reply → Recipient → RecipientOutcome
  | .ok a => fun r => if a.isPositive then ⟨r, a.code, a.message, .delivered⟩ else refuse policy a r
  | .error f => refuse policy (faultReason policy f)

/-- What becomes of a recipient that was named: one that was accepted has an `ending` of its own, any other one
fails with its refusal. -/
def fate (ending : Recipient → RecipientOutcome) (n : Naming) : RecipientOutcome :=
  match n.reply with
  | .ok r => if r.isPositive then ending n.recipient else refuse policy r n.recipient
  | .error f => refuse policy (faultReason policy f) n.recipient

/-- What becomes of the recipients, in their order: from a break on, all fail with its reason. -/
def fates (ending : Recipient → RecipientOutcome) : List Naming → List RecipientOutcome
  | [] => []
  | n :: ns =>
    match n.break? policy with
    | some b => (n :: ns).map fun m => refuse policy b m.recipient
    | none => fate policy ending n :: fates ending ns

variable {policy}

theorem recipients_namings (s : σ) (rs : List Recipient) : (namings peer s rs).map (·.recipient) = rs := by
  induction rs generalizing s with
  | nil => rfl
  | cons r rs ih => exact congrArg (r :: ·) (ih _)

theorem Naming.break?_eq_none {n : Naming} (h : n.break? policy = none) :
    n.valid ∧ ∃ r, n.reply = .ok r ∧ (r.isPositive ∨ r.code ≠ policy.sessionFailureCode) := by
  unfold Naming.break? at h
  split at h
  · next valid =>
    refine ⟨valid, ?_⟩
    cases reply : n.reply with
    | error f =>
      rw [reply] at h
      cases h
    | ok r =>
      refine ⟨r, rfl, ?_⟩
      rw [reply, replyBreak?] at h
      split at h
      · next positive => exact .inl positive
      · split at h
        · cases h
        · next other => exact .inr other
  · cases h

theorem code_of_replyBreak? {reply : Reply} {b : Response} (h : replyBreak? policy reply = some b) :
    b.code = policy.sessionFailureCode := by
  cases reply with
  | error f =>
    cases h
    rfl
  | ok r =>
    rw [replyBreak?] at h
    split at h
    · cases h
    · split at h
      · next closes =>
        cases h
        exact closes
      · cases h

theorem code_of_breakOf? {ns : List Naming} {b : Response} (h : breakOf? policy ns = some b) :
    b.code = policy.sessionFailureCode := by
  obtain ⟨n, -, at_n⟩ := List.exists_of_findSome?_eq_some h
  unfold Naming.break? at at_n
  split at at_n
  · exact code_of_replyBreak? at_n
  · cases at_n
    rfl

theorem accepts_of_break {reply : Reply} {b : Response} (h : replyBreak? policy reply = some b) :
    accepts reply = false := by
  cases reply with
  | error f => rfl
  | ok r =>
    rw [replyBreak?] at h
    split at h
    · cases h
    · next negative => exact Bool.not_eq_true _ ▸ negative

theorem endingOf_positive {a : Response} (positive : a.isPositive) :
    endingOf policy (.ok a) = fun r => ⟨r, a.code, a.message, .delivered⟩ :=
  funext fun _ => if_pos positive

theorem endingOf_negative {a : Response} (negative : ¬ a.isPositive) :
    endingOf policy (.ok a) = refuse policy a :=
  funext fun _ => if_neg negative

theorem breakOf?_cons (n : Naming) (ns : List Naming) :
    breakOf? policy (n :: ns) = (n.break? policy <|> breakOf? policy ns) := by
  rw [breakOf?, List.findSome?_cons]
  cases n.break? policy <;> rfl

/-! ### Those that are named -/

theorem asked_cons_of_none {n : Naming} (h : n.break? policy = none) (ns : List Naming) :
    asked policy (n :: ns) = n :: asked policy ns := by
  rw [asked, if_pos (Naming.break?_eq_none h).1, h]
  rfl

theorem asked_cons_of_some {n : Naming} {b : Response} (h : n.break? policy = some b) (ns : List Naming) :
    asked policy (n :: ns) = if n.valid then [n] else [] := by
  rw [asked, h]
  rfl

theorem asked_prefix (ns : List Naming) : (asked policy ns).IsPrefix ns := by
  induction ns with
  | nil => exact List.prefix_rfl
  | cons n ns ih =>
    cases h : n.break? policy with
    | none =>
      rw [asked_cons_of_none h]
      exact List.prefix_cons_inj n |>.2 ih
    | some b =>
      rw [asked_cons_of_some h]
      split
      · exact List.prefix_cons_inj n |>.2 List.nil_prefix
      · exact List.nil_prefix

/-- Nobody is named after a break. -/
theorem unbroken_of_asked {ns : List Naming} {i : Nat} {n : Naming} (hn : (asked policy ns)[i]? = some n)
    (more : i + 1 < (asked policy ns).length) : n.break? policy = none := by
  induction ns generalizing i with
  | nil => cases hn
  | cons m ns ih =>
    cases h : m.break? policy with
    | none =>
      rw [asked_cons_of_none h] at hn more
      cases i with
      | zero =>
        cases hn
        exact h
      | succ i => exact ih hn (Nat.lt_of_succ_lt_succ more)
    | some b =>
      rw [asked_cons_of_some h] at more
      split at more
      · exact absurd (Nat.lt_of_succ_lt_succ more) (Nat.not_lt_zero i)
      · cases more

/-! ### What becomes of each -/

variable {ending : Recipient → RecipientOutcome}

theorem fates_cons_of_none {n : Naming} (h : n.break? policy = none) (ns : List Naming) :
    fates policy ending (n :: ns) = fate policy ending n :: fates policy ending ns := by
  rw [fates, h]

theorem fates_cons_of_some {n : Naming} {b : Response} (h : n.break? policy = some b) (ns : List Naming) :
    fates policy ending (n :: ns) = ((n :: ns).map (·.recipient)).map (refuse policy b) := by
  rw [fates, h, List.map_map]
  rfl

theorem fate_of_positive {n : Naming} {r : Response} (reply : n.reply = .ok r) (positive : r.isPositive) :
    fate policy ending n = ending n.recipient := by
  rw [fate, reply]
  exact if_pos positive

theorem fate_of_negative {n : Naming} {r : Response} (reply : n.reply = .ok r) (negative : ¬ r.isPositive) :
    fate policy ending n = refuse policy r n.recipient := by
  rw [fate, reply]
  exact if_neg negative

/-- Each of the recipients has its fate. -/
theorem recipients_fates (own : ∀ r, (ending r).recipient = r) (ns : List Naming) :
    (fates policy ending ns).map (·.recipient) = ns.map (·.recipient) := by
  induction ns with
  | nil => rfl
  | cons n ns ih =>
    cases h : n.break? policy with
    | some b =>
      rw [fates_cons_of_some h, List.map_map]
      exact List.map_id _
    | none =>
      obtain ⟨-, r, reply, -⟩ := Naming.break?_eq_none h
      rw [fates_cons_of_none h, List.map_cons, ih, List.map_cons]
      congr 1
      by_cases positive : r.isPositive
      · rw [fate_of_positive reply positive, own]
      · rw [fate_of_negative reply positive]
        rfl

theorem length_fates (ns : List Naming) : (fates policy ending ns).length = ns.length := by
  induction ns with
  | nil => rfl
  | cons n ns ih =>
    cases h : n.break? policy with
    | some b => rw [fates_cons_of_some h, List.length_map, List.length_map]
    | none => rw [fates_cons_of_none h, List.length_cons, ih, List.length_cons]

/-- Why a recipient ends as it does, with `own` the answer to its name. -/
inductive Ends (policy : RecipientPolicy) (ending : Recipient → RecipientOutcome) (broken : Option Response)
    (own : Option Reply) (r : Recipient) (o : RecipientOutcome) : Prop where
  /-- It was accepted. -/
  | accepted (answer : Response) (asked : own = some (.ok answer)) (positive : answer.isPositive)
      (ends : o = ending r)
  /-- It was refused. -/
  | refused (answer : Response) (asked : own = some (.ok answer)) (negative : ¬ answer.isPositive)
      (ends : o = refuse policy answer r)
  /-- It was not named, or there was no answer. -/
  | passed (reason : Response) (unanswered : ∀ answer, own ≠ some (.ok answer)) (breaks : broken = some reason)
      (ends : o = refuse policy reason r)

/-- Behind a break, a recipient is not named. -/
theorem ends_behind (b : Response) (r : Recipient) : Ends policy ending (some b) none r (refuse policy b r) :=
  .passed b (by rintro _ ⟨⟩) rfl rfl

/-- The recipient at which the session breaks. -/
theorem ends_at_break {b : Response} {n : Naming} (h : n.break? policy = some b) :
    Ends policy ending (some b) (if n.valid then some n.reply else none) n.recipient
      (refuse policy b n.recipient) := by
  by_cases valid : n.valid
  · rw [if_pos valid]
    rw [Naming.break?, if_pos valid] at h
    cases reply : n.reply with
    | error f => exact .passed b (by rintro _ ⟨⟩) rfl rfl
    | ok answer =>
      rw [reply, replyBreak?] at h
      split at h
      · cases h
      · next negative =>
        split at h
        · cases h
          exact .refused b rfl negative rfl
        · cases h
  · rw [if_neg valid]
    exact ends_behind b n.recipient

/-- A recipient at which the session goes on. -/
theorem ends_of_answer {broken : Option Response} {n : Naming} (h : n.break? policy = none) :
    Ends policy ending broken (some n.reply) n.recipient (fate policy ending n) := by
  obtain ⟨-, answer, reply, -⟩ := Naming.break?_eq_none h
  rw [reply]
  by_cases positive : answer.isPositive
  · exact .accepted answer rfl positive (fate_of_positive reply positive)
  · exact .refused answer rfl positive (fate_of_negative reply positive)

theorem ends_of_fates {ns : List Naming} {i : Nat} {n : Naming} {o : RecipientOutcome} (hn : ns[i]? = some n)
    (ho : (fates policy ending ns)[i]? = some o) :
    Ends policy ending (breakOf? policy ns) ((asked policy ns)[i]?.map (·.reply)) n.recipient o := by
  induction ns generalizing i with
  | nil => cases hn
  | cons m ns ih =>
    rw [breakOf?_cons]
    cases h : m.break? policy with
    | some b =>
      rw [fates_cons_of_some h, List.getElem?_map, List.getElem?_map, hn] at ho
      cases ho
      rw [asked_cons_of_some h]
      cases i with
      | zero =>
        cases hn
        have at_break : Ends policy ending (some b) _ n.recipient _ := ends_at_break h
        by_cases valid : n.valid
        · rw [if_pos valid] at at_break ⊢
          exact at_break
        · rw [if_neg valid] at at_break ⊢
          exact at_break
      | succ i =>
        have behind : (if m.valid then [m] else [])[i + 1]? = none := by split <;> rfl
        rw [behind]
        exact ends_behind b n.recipient
    | none =>
      rw [fates_cons_of_none h] at ho
      rw [asked_cons_of_none h]
      cases i with
      | zero =>
        cases hn
        cases ho
        exact ends_of_answer h
      | succ i => exact ih hn ho

/-! ### A whole session -/

section Whole

variable (peer : Peer σ) (policy : RecipientPolicy) (q : Request) (p : σ)

/-- Why the session could not be opened, if so. -/
def openFailure? : Option OpenFailure :=
  match (peer.openSession q.domain q.source p).1 with
  | .error e => some e
  | .ok () => none

/-- The answer to the sender. -/
def mailReply : Reply := (peer.mailFrom q.message.sender (peer.openSession q.domain q.source p).2).1

/-- The peer once it was told of the sender. -/
def mailed : σ := (peer.mailFrom q.message.sender (peer.openSession q.domain q.source p).2).2

/-- What the recipients meet. -/
def meetings : List Naming := namings peer (mailed peer q p) q.recipients

/-- The answer to the message, if all recipients were named before it. -/
def payloadReply : Reply := (peer.payload q.message (afterNaming peer (mailed peer q p) q.recipients)).1

/-- Whether it comes to the recipients. -/
def getsToNames : Bool := (openFailure? peer q p).isNone && accepts (mailReply peer q p)

/-- The recipients that are named in the session. -/
def callees : List Naming := if getsToNames peer q p then asked policy (meetings peer q p) else []

/-- The answer to the recipient in place `i`, if it is named. -/
def own? (i : Nat) : Option Reply := (callees peer policy q p)[i]?.map (·.reply)

/-- Why the session breaks before the message is handed over. -/
def earlyBreak? : Option Response :=
  match openFailure? peer q p with
  | some e => some ⟨e.code.getD policy.sessionFailureCode, e.message⟩
  | none =>
    if accepts (mailReply peer q p) then breakOf? policy (meetings peer q p)
    else replyBreak? policy (mailReply peer q p)

/-- What becomes of the accepted recipients. -/
def acceptedEnding : Recipient → RecipientOutcome :=
  match earlyBreak? peer policy q p with
  | some b => refuse policy b
  | none => endingOf policy (payloadReply peer q p)

/-- Whether the message is handed over: nothing broke, and a recipient was accepted. -/
def handsOver : Bool :=
  (earlyBreak? peer policy q p).isNone && (callees peer policy q p).any (accepts ·.reply)

/-- Why the session breaks. -/
def break? : Option Response :=
  earlyBreak? peer policy q p <|>
    if handsOver peer policy q p then replyBreak? policy (payloadReply peer q p) else none

/-- What becomes of the recipients, in the order of the request. -/
def outcomes : List RecipientOutcome :=
  match openFailure? peer q p with
  | some e => q.recipients.map (refuse policy ⟨e.code.getD policy.sessionFailureCode, e.message⟩)
  | none =>
    if accepts (mailReply peer q p) then fates policy (acceptedEnding peer policy q p) (meetings peer q p)
    else q.recipients.map (endingOf policy (mailReply peer q p))

variable {peer policy q p}

theorem getsToNames_iff : getsToNames peer q p ↔ openFailure? peer q p = none ∧ accepts (mailReply peer q p) := by
  rw [getsToNames, Bool.and_eq_true, Option.isNone_iff_eq_none]

theorem callees_of_names (h : getsToNames peer q p) :
    callees peer policy q p = asked policy (meetings peer q p) := if_pos h

theorem earlyBreak_of_names (h : getsToNames peer q p) :
    earlyBreak? peer policy q p = breakOf? policy (meetings peer q p) := by
  obtain ⟨opened, sender⟩ := getsToNames_iff.1 h
  rw [earlyBreak?, opened]
  exact if_pos sender

/-- Without a recipient that was named, the message is not handed over. -/
theorem handsOver_of_not_names (h : ¬ getsToNames peer q p) : handsOver peer policy q p = false := by
  rw [handsOver, callees, if_neg h, List.any_nil, Bool.and_false]

theorem handsOver_of_break {b : Response} (h : earlyBreak? peer policy q p = some b) :
    handsOver peer policy q p = false := by
  rw [handsOver, h]
  rfl

theorem handsOver_of_unbroken (h : earlyBreak? peer policy q p = none) :
    handsOver peer policy q p = (callees peer policy q p).any (accepts ·.reply) := by
  rw [handsOver, h]
  exact Bool.true_and _

theorem break?_of_early {b : Response} (h : earlyBreak? peer policy q p = some b) :
    break? peer policy q p = some b := by
  rw [break?, h]
  rfl

theorem break?_of_handsOver (h : earlyBreak? peer policy q p = none) (hands : handsOver peer policy q p) :
    break? peer policy q p = replyBreak? policy (payloadReply peer q p) := by
  rw [break?, h, if_pos hands]
  rfl

/-- Where the message is not handed over, only what came before can break the session. -/
theorem break?_of_not_handsOver (h : handsOver peer policy q p = false) :
    break? peer policy q p = earlyBreak? peer policy q p := by
  rw [break?, h]
  cases earlyBreak? peer policy q p <;> rfl

theorem earlyBreak_of_refusal (opened : openFailure? peer q p = none) (refused : accepts (mailReply peer q p) = false) :
    earlyBreak? peer policy q p = replyBreak? policy (mailReply peer q p) := by
  rw [earlyBreak?, opened]
  dsimp only
  rw [refused]
  rfl

end Whole

end Postroom.Session
