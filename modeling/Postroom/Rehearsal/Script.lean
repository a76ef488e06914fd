import Postroom.Session.Conversation
import Postroom.Table

/-!
# Scripts

A script says beforehand how the other sides of an office behave: what each mail server answers to
each step, and what befalls the sends of each batch. Answers are used up one by one; where there is
none left, or an entry is empty, all goes well.

* `Answers.next`: the next answer under a key.
* `Script`: all answers. `Script.peer`: the mail servers of a script.
-/

namespace Postroom

/-- Lists of answers by key. -/
abbrev Answers (α : Type) := Table String (List (Option α))

/-- The next answer under a key, if there is one, and what is left. -/
def Answers.next {α : Type} (a : Answers α) (key : String) : Option α × Answers α :=
  match a.find? key with
  | some (answer :: rest) => (answer, a.insert key rest)
  | _ => (none, a)

/-- The answer to one step. -/
structure ScriptedReply where
  reply : Reply
  /-- The session does not hold any longer. -/
  invalidates : Bool := false

/-- How the other sides behave. -/
structure Script where
  /-- By domain: why a session does not open, or whether it opens without holding. -/
  opening : Answers (Except OpenFailure Bool) := .empty
  /-- By domain. -/
  mail : Answers ScriptedReply := .empty
  /-- By the address of the recipient. -/
  rcpt : Answers ScriptedReply := .empty
  /-- By domain. -/
  payload : Answers ScriptedReply := .empty
  /-- By batch: how many milliseconds pass before the session begins. -/
  delays : Table String Nat := .empty
  /-- The batches whose sends wait until they are let go on. -/
  holds : List String := []
  /-- All sends wait. -/
  holdsAll : Bool := false
  /-- The batches whose workers die. -/
  panics : List String := []
  /-- By batch: the fault with which a send ends instead of a session. -/
  sendFaults : Answers Fault := .empty

namespace Script

/-- The answer where the script has none. -/
def fallback : ScriptedReply := { reply := .ok ⟨250, "OK"⟩ }

def isHeld (s : Script) (id : String) : Bool := s.holdsAll || s.holds.contains id

/-- The mail servers of a script during one session. -/
structure PeerState where
  script : Script
  /-- The domain to which the session was opened. -/
  domain : String := ""
  valid : Bool := true

/-- A step answered by `answer`. -/
def PeerState.answered (p : PeerState) (answer : Option ScriptedReply) : Reply × PeerState :=
  let a := answer.getD fallback
  (a.reply, { p with valid := p.valid && !a.invalidates })

/-- The mail servers of a script. -/
def peer : Peer PeerState where
  openSession domain _ p :=
    let (answer, opening) := p.script.opening.next domain.name
    let p := { p with script := { p.script with opening := opening }, domain := domain.name }
    match answer with
    | some (.error failure) => (.error failure, p)
    | some (.ok invalid) => (.ok (), { p with valid := !invalid })
    | none => (.ok (), p)
  isValid p := p.valid
  mailFrom _ p :=
    let (answer, mail) := p.script.mail.next p.domain
    PeerState.answered { p with script := { p.script with mail := mail } } answer
  rcptTo address p :=
    let (answer, rcpt) := p.script.rcpt.next address
    PeerState.answered { p with script := { p.script with rcpt := rcpt } } answer
  payload _ p :=
    let (answer, payload) := p.script.payload.next p.domain
    PeerState.answered { p with script := { p.script with payload := payload } } answer
  reset p := p
  close p := p

end Script

end Postroom
