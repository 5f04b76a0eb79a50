import PgpCard.Bytes
import PgpCard.Key.SlotId
import PgpCard.Secret.Id
import PgpCard.Store.Error

/-!
# Stores

A store keeps numbers of one or two bytes under keys, and byte strings under names.  What was
never written reads as absent.

* `Attempt ε s α` is a computation on a state `s` that may fail with an `ε`; the state reached is
  kept either way.
* `Backend` is the class of stores.
* `Kept β σ` is something held in memory above a store, with the operations that run on one of
  the two parts.
-/

set_option autoImplicit false

namespace PgpCard

/-- A computation on a state that may fail.  The state reached is kept either way. -/
abbrev Attempt (ε s α : Type) := EStateM ε s α

namespace Attempt

variable {ε ε' s α : Type}

/-- Runs a computation and hands out its failure as a value. -/
def outcome (act : Attempt ε s α) : Attempt ε' s (Except ε α) := fun state =>
  match act state with
  | .ok a state => .ok (.ok a) state
  | .error e state => .ok (.error e) state

/-- Runs a computation whose failure does not matter. -/
def ignored (act : Attempt ε s α) : Attempt ε' s Unit := fun state =>
  match act state with
  | .ok _ state | .error _ state => .ok () state

/-- Runs a computation and reports its failure in another way. -/
def mapError (wrap : ε → ε') (act : Attempt ε s α) : Attempt ε' s α := fun state =>
  match act state with
  | .ok a state => .ok a state
  | .error e state => .error (wrap e) state

/-- The state that a computation reaches, whether it fails or not. -/
def reach (act : Attempt ε s α) (state : s) : s :=
  match act state with
  | .ok _ state | .error _ state => state

/-- Fails where a value says so. -/
def ofExcept (result : Except ε α) : Attempt ε s α :=
  match result with
  | .ok a => pure a
  | .error e => throw e

end Attempt

/-- A sensitive step, announced so that a store may keep a trail of such steps among its
writes. -/
inductive Audit
  /-- A candidate is compared with the stored digest of a secret. -/
  | compared (secret : SecretId)
  /-- The private key of a slot is used. -/
  | keyUsed (slot : SlotId)
  deriving DecidableEq, Repr

/-- A store. -/
class Backend (σ : Type) where
  readByte : String → Attempt StoreError σ (Option UInt8)
  writeByte : String → UInt8 → Attempt StoreError σ Unit
  readWord : String → Attempt StoreError σ (Option UInt16)
  writeWord : String → UInt16 → Attempt StoreError σ Unit
  readBlob : String → Attempt StoreError σ (Option Bytes)
  writeBlob : String → Bytes → Attempt StoreError σ Unit
  /-- Takes note of a sensitive step; a store without a trail does nothing. -/
  note : Audit → σ → σ := fun _ store => store

/-- Something held in memory above a store. -/
structure Kept (β σ : Type) where
  memory : β
  store : σ
  deriving DecidableEq, Repr

namespace Kept

variable {β γ σ ε ε' α : Type}

/-- Runs a store operation below what is held in memory. -/
def onStore (act : Attempt ε σ α) : Attempt ε (Kept β σ) α := fun kept =>
  match act kept.store with
  | .ok a store => .ok a { kept with store }
  | .error e store => .error e { kept with store }

/-- Runs a computation on one part of what is held in memory. -/
def onPart (part : β → γ) (put : γ → β → β) (act : Attempt ε (Kept γ σ) α) :
    Attempt ε (Kept β σ) α := fun kept =>
  match act ⟨part kept.memory, kept.store⟩ with
  | .ok a inner => .ok a ⟨put inner.memory kept.memory, inner.store⟩
  | .error e inner => .error e ⟨put inner.memory kept.memory, inner.store⟩

/-- What is held in memory. -/
def held : Attempt ε (Kept β σ) β := fun kept => .ok kept.memory kept

/-- Changes what is held in memory. -/
def adjust (change : β → β) : Attempt ε (Kept β σ) Unit := fun kept =>
  .ok () { kept with memory := change kept.memory }

/-- Announces a sensitive step to the store. -/
def note [Backend σ] (audit : Audit) : Attempt ε (Kept β σ) Unit := fun kept =>
  .ok () { kept with store := Backend.note audit kept.store }

end Kept

end PgpCard
