import PgpCard.Apdu.Chain
import PgpCard.Apdu.Outgoing
import PgpCard.DataObject.Stored
import PgpCard.Key.Slots
import PgpCard.Profile
import PgpCard.Secret.Secrets
import PgpCard.Security

/-!
# The card and its memory

A card is what it holds in memory above its store.  Part of the memory is kept in the store as
well and survives a loss of power: `Persistent` is that part.  The rest belongs to the session.

* `Memory.persistent` is the part that survives, `Memory.adopt` starts a new session with it.
* `Card.onSecrets`, `Card.onKeys` and `Card.onObjects` run a computation on one part of the
  memory and the store below.
-/

set_option autoImplicit false

namespace PgpCard

/-- What survives a loss of power. -/
structure Persistent where
  secrets : Secrets
  keys : KeySlots
  objects : DataObjects
  terminated : Bool
  /-- PW1 stays verified after a key was used. -/
  lasting : Bool
  deriving DecidableEq, Repr

/-- Everything that a card holds in memory. -/
structure Memory where
  profile : Profile
  secrets : Secrets := .factory
  security : Security := .initial
  keys : KeySlots := .factory
  objects : DataObjects := {}
  chain : CommandChain := .idle CommandChain.cardCapacity
  outgoing : Outgoing := .empty
  /-- The card refuses all commands until it is activated. -/
  terminated : Bool := false
  /-- A write has failed, and memory may be ahead of the store. -/
  stale : Bool := false
  deriving DecidableEq, Repr

namespace Memory

/-- The part that survives a loss of power. -/
def persistent (memory : Memory) : Persistent where
  secrets := memory.secrets
  keys := memory.keys
  objects := memory.objects
  terminated := memory.terminated
  lasting := memory.security.lasting

/-- The memory in a new session. -/
def adopt (persistent : Persistent) (memory : Memory) : Memory :=
  { memory with
    secrets := persistent.secrets
    security := Security.initial.setLasting persistent.lasting
    keys := persistent.keys
    objects := persistent.objects
    chain := memory.chain.reset
    outgoing := .empty
    terminated := persistent.terminated }

end Memory

/-- A card: its memory above its store. -/
abbrev Card (σ : Type) := Kept Memory σ

namespace Card

variable {σ ε α : Type}

/-- Runs a computation on the secrets. -/
def onSecrets (act : Attempt ε (Kept Secrets σ) α) : Attempt ε (Card σ) α :=
  Kept.onPart (·.secrets) (fun secrets memory => { memory with secrets }) act

/-- Runs a computation on the key slots. -/
def onKeys (act : Attempt ε (Kept KeySlots σ) α) : Attempt ε (Card σ) α :=
  Kept.onPart (·.keys) (fun keys memory => { memory with keys }) act

/-- Runs a computation on the stored data objects. -/
def onObjects (act : Attempt ε (Kept DataObjects σ) α) : Attempt ε (Card σ) α :=
  Kept.onPart (·.objects) (fun objects memory => { memory with objects }) act

/-- Changes what is verified. -/
def adjustSecurity (change : Security → Security) : Attempt ε (Card σ) Unit :=
  Kept.adjust fun memory => { memory with security := change memory.security }

/-- Fails unless a condition is satisfied. -/
def require (condition : Condition) (otherwise : CardError) : Attempt CardError (Card σ) Unit := do
  let memory ← Kept.held
  if !memory.security.holds condition then
    throw otherwise

end Card

end PgpCard
