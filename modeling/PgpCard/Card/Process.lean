import PgpCard.Card.KeyUse
import PgpCard.Card.Objects
import PgpCard.Card.Passwords

/-!
# Processing frames

A frame is parsed, a stale memory is reloaded, and the command goes through four stages:

1. SELECT and INVALIDATE are answered at once;
2. the chain keeps a segment or hands on a whole command;
3. a terminated card refuses everything but ACTIVATE;
4. the command is carried out, or more of an earlier response is sent.

Every frame has one answer.  A failed write marks the memory as stale, and the next command
starts with a reload.

* `Card.process` is one frame in and one frame out.
* `Card.respond` is the same for a command that is parsed already.
-/

set_option autoImplicit false

namespace PgpCard.Card

variable {σ : Type} [Backend σ]

/-- The version that GET VERSION reports. -/
def version : Bytes := [0x01, 0x00, 0x12]

/-- Carries a command out; the result is the data of its response. -/
def dispatch (env : Environment) (cmd : Command) : Attempt CardError (Card σ) Bytes :=
  match cmd.instruction with
  | .verify => verify cmd
  | .changeReferenceData => changeReferenceData cmd
  | .resetRetryCounter => resetRetryCounter cmd
  | .performSecurityOperation => performSecurityOperation cmd
  | .internalAuthenticate => internalAuthenticate cmd
  | .generateKeyPair => generateKeyPair env cmd
  | .getChallenge => pure (env.draw (cmd.le.getD 0).toNat)
  | .getData => getData cmd
  | .putData => putData cmd
  | .importKey => importKey cmd
  | .terminate => terminate
  | .activate => activate
  | .getVersion => pure version
  | .setRetries => setRetries cmd
  | .select | .invalidate | .getResponse | .unsupported _ =>
    throw (.instructionNotSupported cmd.ins)

/-- The card with another part of a response to send. -/
def withOutgoing (card : Card σ) (outgoing : Outgoing) : Card σ :=
  { card with memory := { card.memory with outgoing } }

/-- The card whose memory has to be reloaded before it is used again. -/
def markStale (card : Card σ) (stale : Bool) : Card σ :=
  { card with memory := { card.memory with stale } }

/-- Answers a whole command. -/
def execute (env : Environment) (cmd : Command) (card : Card σ) : Response × Card σ :=
  if cmd.instruction = .getResponse then
    if card.memory.terminated then (.error .conditionsNotSatisfied, card)
    else
      let (response, outgoing) := card.memory.outgoing.next
      (response, card.withOutgoing outgoing)
  else
    let card := card.withOutgoing .empty
    if card.memory.terminated ∧ cmd.instruction ≠ .activate then
      (.error .conditionsNotSatisfied, card)
    else
      match dispatch env cmd card with
      | .ok data card =>
        let (response, outgoing) := Outgoing.send data
        (response, card.withOutgoing outgoing)
      | .error e card => (.error e.status, if e.isStorage then card.markStale true else card)

/-- SELECT ends what is verified of PW1, the chain and the response in progress. -/
def select (card : Card σ) : Card σ :=
  { card with memory := { card.memory with
      security := card.memory.security.revokePw1
      chain := card.memory.chain.reset
      outgoing := .empty } }

/-- INVALIDATE ends everything that is verified. -/
def invalidate (card : Card σ) : Card σ :=
  { card with memory := { card.memory with security := card.memory.security.revokeAll } }

/-- Passes a command through the chain and answers it. -/
def receive (env : Environment) (cmd : Command) (card : Card σ) : Response × Card σ :=
  let (step, chain) := card.memory.chain.accept cmd
  let card : Card σ := { card with memory := { card.memory with chain } }
  match step with
  | .awaiting => (.ok, card)
  | .failed e => (.error e.status, card.withOutgoing .empty)
  | .complete cmd => execute env cmd card

/-- Answers a command on a memory that is not stale. -/
def answer (env : Environment) (cmd : Command) (card : Card σ) : Response × Card σ :=
  match cmd.instruction with
  | .select => (.ok, card.select)
  | .invalidate => (.ok, card.invalidate)
  | _ => receive env cmd card

/-- Answers a command. -/
def respond (env : Environment) (cmd : Command) (card : Card σ) : Response × Card σ :=
  if card.memory.stale then
    match reload card with
    | .ok () card => answer env cmd (card.markStale false)
    | .error _ card => (.error .unknown, card)
  else answer env cmd card

/-- One frame in and one frame out. -/
def process (env : Environment) (frame : Bytes) (card : Card σ) : Bytes × Card σ :=
  match Command.ofFrame? frame with
  | .error _ => ((Response.error .wrongLength).toFrame, card)
  | .ok cmd =>
    let (response, card) := respond env cmd card
    (response.toFrame, card)

end PgpCard.Card
