import Postroom.Proofs.Session.Course

/-!
# What a session says of each recipient

The outcome of a session has each recipient of the request once, as it was requested, and what it says of each of
them is explained by the answers of the peer. A recipient is delivered exactly where every answer up to the one to
the message was positive. Where the session breaks, whoever was not refused until then fails with the reason of the
break, whether it was accepted before, met the break or was never named. Where it does not, whoever is not
delivered was refused by its own answer, or by that to the sender or to the message.

- `Session.Delivers`: every answer that matters to a recipient was positive.
- `Session.Explained`: what is said of a recipient, told by the answers.
- `Session.explained_run`: every outcome of every session.
-/

namespace Postroom

/-- An outcome shows the code and the text of an answer. -/
def RecipientOutcome.Carries (o : RecipientOutcome) (a : Response) : Prop := o.code = a.code ∧ o.message = a.message

namespace Session

variable {σ : Type} (peer : Peer σ) (policy : RecipientPolicy) (q : Request) (p : σ)

/-- The session opened, the sender and the recipient in place `i` were answered positively, nothing broke before
the message, and the message was answered positively. -/
def Delivers (i : Nat) : Prop :=
  openFailure? peer q p = none ∧ accepts (mailReply peer q p) ∧
    (∃ a, own? peer policy q p i = some a ∧ accepts a) ∧
    earlyBreak? peer policy q p = none ∧ accepts (payloadReply peer q p)

/-- What is said of the recipient in place `i` of the request. -/
structure Explained (i : Nat) (o : RecipientOutcome) : Prop where
  delivered : o.disposition = .delivered ↔ Delivers peer policy q p i
  /-- A delivered recipient shows the answer to the message. -/
  receipt : o.disposition = .delivered → ∃ a, payloadReply peer q p = .ok a ∧ o.Carries a
  /-- A recipient whose name was refused shows that refusal. -/
  rejected : ∀ a, own? peer policy q p i = some (.ok a) → ¬ a.isPositive → o.Carries a
  /-- After a break, any other one shows its reason. -/
  broken : ∀ b, break? peer policy q p = some b →
    (∀ a, own? peer policy q p i = some (.ok a) → a.isPositive) → o.Carries b
  /-- Without a break, a recipient fails by a refusal: of its name, of the sender or of the message. -/
  unbroken : break? peer policy q p = none → o.disposition ≠ .delivered → ∃ a, ¬ a.isPositive ∧ o.Carries a ∧
    (own? peer policy q p i = some (.ok a) ∨ mailReply peer q p = .ok a ∨
      (∃ w, own? peer policy q p i = some w ∧ accepts w) ∧ payloadReply peer q p = .ok a)
  /-- A recipient that fails may be tried again unless the code says otherwise. -/
  classified : o.disposition ≠ .delivered →
    o.disposition = if policy.isRetryable o.code then .retryable else .permanent

variable {peer policy q p} {i : Nat} {a : Response} {r : Recipient}

theorem disposition_refuse : (refuse policy a r).disposition ≠ .delivered := by
  show (if policy.isRetryable a.code then Disposition.retryable else .permanent) ≠ .delivered
  split <;> decide

/-- A recipient that fails with `a`. -/
theorem explained_refuse (lacks : ¬ Delivers peer policy q p i)
    (rejected : ∀ x, own? peer policy q p i = some (.ok x) → ¬ x.isPositive → x = a)
    (broken : ∀ b, break? peer policy q p = some b →
      (∀ x, own? peer policy q p i = some (.ok x) → x.isPositive) → b = a)
    (unbroken : break? peer policy q p = none → ¬ a.isPositive ∧
      (own? peer policy q p i = some (.ok a) ∨ mailReply peer q p = .ok a ∨
        (∃ w, own? peer policy q p i = some w ∧ accepts w) ∧ payloadReply peer q p = .ok a)) :
    Explained peer policy q p i (refuse policy a r) where
  delivered := ⟨fun same => absurd same disposition_refuse, fun all => absurd all lacks⟩
  receipt same := absurd same disposition_refuse
  rejected x asked negative := rejected x asked negative ▸ ⟨rfl, rfl⟩
  broken b breaks spared := broken b breaks spared ▸ ⟨rfl, rfl⟩
  unbroken whole _ := by
    obtain ⟨negative, cause⟩ := unbroken whole
    exact ⟨a, negative, ⟨rfl, rfl⟩, cause⟩
  classified _ := rfl

/-- Where nobody is named, nobody is refused. -/
theorem spared_of_not_names (h : ¬ getsToNames peer q p) :
    ∀ x, own? peer policy q p i = some (.ok x) → x.isPositive := by
  intro x asked
  rw [own?, callees, if_neg h] at asked
  cases asked

/-- Where a recipient was accepted and nothing broke, the message is handed over. -/
theorem handsOver_of_accepted (h : earlyBreak? peer policy q p = none)
    (accepted : ∃ w, own? peer policy q p i = some w ∧ accepts w) : handsOver peer policy q p := by
  obtain ⟨w, asked, positive⟩ := accepted
  obtain ⟨n, hn, reply⟩ := Option.map_eq_some_iff.1 asked
  rw [handsOver_of_unbroken h, List.any_eq_true]
  exact ⟨n, List.mem_of_getElem? hn, reply ▸ positive⟩

/-- The reason of a break by a refusal is the refusal. -/
theorem eq_of_replyBreak? {b : Response} (h : replyBreak? policy (.ok a) = some b) : b = a := by
  rw [replyBreak?] at h
  split at h
  · cases h
  · split at h
    · exact (Option.some.inj h).symm
    · cases h

/-- An answer that is not positive decides all the recipients that it is about. -/
theorem explained_of_reply {reply : Reply} (lacks : ¬ Delivers peer policy q p i)
    (spared : ∀ x, own? peer policy q p i = some (.ok x) → x.isPositive)
    (breaks : break? peer policy q p = replyBreak? policy reply) (negative : ¬ accepts reply)
    (cause : ∀ a, reply = .ok a → mailReply peer q p = .ok a ∨
      (∃ w, own? peer policy q p i = some w ∧ accepts w) ∧ payloadReply peer q p = .ok a) :
    Explained peer policy q p i (endingOf policy reply r) := by
  cases reply with
  | error f =>
    refine explained_refuse lacks (fun x asked no => absurd (spared x asked) no) (fun b hb _ => ?_) fun whole => ?_
    · exact Option.some.inj (hb.symm.trans breaks)
    · cases whole.symm.trans breaks
  | ok a =>
    rw [endingOf_negative negative]
    refine explained_refuse lacks (fun x asked no => absurd (spared x asked) no) (fun b hb _ => ?_) fun _ => ?_
    · exact eq_of_replyBreak? (breaks.symm.trans hb)
    · exact ⟨negative, .inr (cause a rfl)⟩

/-- Where the recipients are not named, all end alike. -/
theorem explained_of_early {b : Response} (early : earlyBreak? peer policy q p = some b)
    (spared : ∀ x, own? peer policy q p i = some (.ok x) → x.isPositive) :
    Explained peer policy q p i (refuse policy b r) := by
  refine explained_refuse ?_ (fun x asked no => absurd (spared x asked) no) (fun c hc _ => ?_) fun whole => ?_
  · rintro ⟨-, -, -, none, -⟩
    cases none.symm.trans early
  · exact Option.some.inj (hc.symm.trans (break?_of_early early))
  · cases whole.symm.trans (break?_of_early early)

/-- An accepted recipient. -/
theorem explained_of_accepted (names : getsToNames peer q p) (asked : own? peer policy q p i = some (.ok a))
    (positive : a.isPositive) : Explained peer policy q p i (acceptedEnding peer policy q p r) := by
  obtain ⟨opened, sender⟩ := getsToNames_iff.1 names
  have spared : ∀ x, own? peer policy q p i = some (.ok x) → x.isPositive := by
    intro x hx
    cases asked.symm.trans hx
    exact positive
  rw [acceptedEnding]
  cases early : earlyBreak? peer policy q p with
  | some b => exact explained_of_early early spared
  | none =>
    have accepted : ∃ w, own? peer policy q p i = some w ∧ accepts w := ⟨_, asked, positive⟩
    have breaks := break?_of_handsOver early (handsOver_of_accepted early accepted)
    by_cases message : accepts (payloadReply peer q p)
    · -- everything was answered positively
      cases reply : payloadReply peer q p with
      | error f =>
        rw [reply] at message
        cases message
      | ok x =>
        rw [reply] at message breaks
        have yes : x.isPositive := message
        have whole : break? peer policy q p = none := by rw [breaks, replyBreak?, if_pos yes]
        dsimp only
        rw [endingOf_positive yes]
        refine ⟨⟨fun _ => ?_, fun _ => rfl⟩, fun _ => ⟨x, reply, rfl, rfl⟩, ?_, ?_, ?_, fun no => absurd rfl no⟩
        · exact ⟨opened, sender, accepted, early, reply ▸ message⟩
        · exact fun y hy no => absurd (spared y hy) no
        · intro b hb
          cases whole.symm.trans hb
        · exact fun _ no => absurd rfl no
    · refine explained_of_reply ?_ spared breaks message fun x hx => .inr ⟨accepted, hx⟩
      rintro ⟨-, -, -, -, all⟩
      exact message all

/-- What is said of a recipient is explained by the answers. -/
theorem explained_of_outcomes {o : RecipientOutcome} (ho : (outcomes peer policy q p)[i]? = some o) :
    Explained peer policy q p i o := by
  rw [outcomes] at ho
  cases opened : openFailure? peer q p with
  | some e =>
    rw [opened] at ho
    obtain ⟨r, -, rfl⟩ := Option.map_eq_some_iff.1 (List.getElem?_map.symm.trans ho)
    have silent : ¬ getsToNames peer q p := by
      intro names
      cases opened.symm.trans (getsToNames_iff.1 names).1
    have early : earlyBreak? peer policy q p = some ⟨e.code.getD policy.sessionFailureCode, e.message⟩ := by
      rw [earlyBreak?, opened]
    exact explained_of_early early (spared_of_not_names silent)
  | none =>
    rw [opened] at ho
    dsimp only at ho
    by_cases sender : accepts (mailReply peer q p)
    · rw [if_pos sender] at ho
      have names : getsToNames peer q p := getsToNames_iff.2 ⟨opened, sender⟩
      obtain ⟨n, hn⟩ : ∃ n, (meetings peer q p)[i]? = some n := by
        have inside := (List.getElem?_eq_some_iff.1 ho).1
        rw [length_fates] at inside
        exact ⟨_, List.getElem?_eq_getElem inside⟩
      have ends := ends_of_fates hn ho
      rw [← callees_of_names names, ← own?] at ends
      cases ends with
      | accepted a asked positive ends => exact ends ▸ explained_of_accepted names asked positive
      | refused a asked negative ends =>
        subst ends
        refine explained_refuse ?_ (fun x hx _ => ?_) (fun b _ spared => ?_) fun _ => ⟨negative, .inl asked⟩
        · rintro ⟨-, -, ⟨w, hw, positive⟩, -⟩
          cases asked.symm.trans hw
          exact negative positive
        · cases asked.symm.trans hx
          rfl
        · exact absurd (spared a asked) negative
      | passed b unanswered breaks ends =>
        subst ends
        have early : earlyBreak? peer policy q p = some b := (earlyBreak_of_names names).trans breaks
        exact explained_of_early early fun x hx => absurd hx (unanswered x)
    · rw [if_neg sender] at ho
      obtain ⟨r, -, rfl⟩ := Option.map_eq_some_iff.1 (List.getElem?_map.symm.trans ho)
      have silent : ¬ getsToNames peer q p := fun names => sender (getsToNames_iff.1 names).2
      refine explained_of_reply ?_ (spared_of_not_names silent) ?_ sender fun a ha => .inl ha
      · rintro ⟨-, all, -⟩
        exact sender all
      · rw [break?, earlyBreak?, opened, handsOver_of_not_names silent]
        dsimp only
        rw [if_neg sender]
        cases replyBreak? policy (mailReply peer q p) <;> rfl

/-- The recipients are those of the request, in its order. -/
theorem recipients_outcomes : (outcomes peer policy q p).map (·.recipient) = q.recipients := by
  have reply : ∀ (a : Reply) (r : Recipient), (endingOf policy a r).recipient = r := by
    intro a r
    cases a with
    | error f => rfl
    | ok a =>
      by_cases positive : a.isPositive
      · rw [endingOf_positive positive]
      · rw [endingOf_negative positive]
        rfl
  have accepted : ∀ r, (acceptedEnding peer policy q p r).recipient = r := by
    intro r
    rw [acceptedEnding]
    cases earlyBreak? peer policy q p with
    | some b => rfl
    | none => exact reply _ r
  rw [outcomes]
  split
  · rw [List.map_map]
    exact List.map_id _
  · split
    · rw [recipients_fates accepted, meetings, recipients_namings]
    · rw [List.map_map]
      exact List.map_id'' (reply _) q.recipients

/-- Where the session breaks, nobody is delivered. -/
theorem break?_of_delivers (h : Delivers peer policy q p i) : break? peer policy q p = none := by
  obtain ⟨opened, sender, accepted, early, message⟩ := h
  rw [break?_of_handsOver early (handsOver_of_accepted early accepted)]
  cases h : replyBreak? policy (payloadReply peer q p) with
  | none => rfl
  | some b =>
    rw [accepts_of_break h] at message
    cases message

/-- Any session answers for each of the recipients once, as it was requested; what it says of each is explained by
the answers of the peer; it failed exactly where it broke; and where it failed, nobody is delivered. -/
theorem explained_run (peer : Peer σ) (policy : RecipientPolicy) (q : Request) (p : σ) :
    (∃ os : List RecipientOutcome, os.Perm (run peer policy q p).outcome.recipients ∧
      os.map (·.recipient) = q.recipients ∧
      ∀ i o, os[i]? = some o → Explained peer policy q p i o) ∧
    (run peer policy q p).outcome.sessionFailure = (break? peer policy q p).map (·.code) ∧
    ((run peer policy q p).outcome.sessionFailure ≠ none →
      ∀ o ∈ (run peer policy q p).outcome.recipients, o.disposition ≠ .delivered) := by
  obtain ⟨-, failure, decided⟩ := came_run peer policy q p
  refine ⟨⟨_, decided.symm, recipients_outcomes, fun i o => explained_of_outcomes⟩, failure, ?_⟩
  intro failed o ho delivered
  obtain ⟨i, hi⟩ := List.mem_iff_getElem?.1 (decided.mem_iff.1 ho)
  have delivers := (explained_of_outcomes hi).delivered.1 delivered
  refine failed ?_
  show (run peer policy q p).failure = none
  rw [failure, break?_of_delivers delivers, Option.map_none]

end Session

end Postroom
