import PgpCard.Card.Memory

/-!
# Opening, reloading and resetting a card

A store that was set up for a card carries a mark.  The mark is written last, so that a store
without it is set up from the beginning.

* `Card.makeFactory` gives memory and store the state of a new card.
* `Card.load` reads what survives a loss of power, `Card.reload` starts a new session with it.
* `Card.openOn` opens a card on a store.
-/

set_option autoImplicit false

namespace PgpCard.Card

/-- The mark of a store that was set up. -/
def readyKey : String := "initialized"

def terminatedKey : String := "terminated"
def pw1StatusKey : String := "pw1_status"
def layoutKey : String := "layout"

/-- The layout in which records are written. -/
def layoutVersion : UInt16 := 1

/-- The names of all byte strings that a card keeps. -/
def recordNames : List String :=
  SecretId.all.map SecretId.recordName ++ SlotId.all.map SlotId.recordName
    ++ [KeySlots.counterName, DataObjects.recordName]

/-- The keys of all numbers that a card keeps. -/
def scalarKeys : List String := [pw1StatusKey, terminatedKey, layoutKey, readyKey]

variable {σ : Type} [Backend σ]

/-- Gives memory and store the state of a new card. -/
def makeFactory : Attempt StoreError (Card σ) Unit := do
  onSecrets Secrets.makeFactory
  onKeys KeySlots.makeFactory
  onObjects DataObjects.makeFactory
  Kept.onStore (Backend.writeByte pw1StatusKey 0)
  Kept.onStore (Backend.writeByte terminatedKey 0)
  Kept.onStore (Backend.writeWord layoutKey layoutVersion)
  Kept.onStore (Backend.writeByte readyKey 1)
  Kept.adjust fun memory => { memory with
    security := .initial
    terminated := false
    chain := memory.chain.reset
    outgoing := .empty }

/-- Reads what survives a loss of power. -/
def load : Attempt StoreError σ Persistent := do
  let layout ← Backend.readWord layoutKey
  if layout ≠ some layoutVersion then
    throw (.corrupt layoutKey (.unsupportedLayout layout))
  let secrets ← Secrets.load
  let keys ← KeySlots.load
  let objects ← DataObjects.load
  let terminated ← Backend.readByte terminatedKey
  let status ← Backend.readByte pw1StatusKey
  return {
    secrets, keys, objects
    terminated := terminated == some 1
    lasting := status == some 1 }

/-- Starts a new session with what the store holds. -/
def reload : Attempt StoreError (Card σ) Unit := do
  let persistent ← Kept.onStore load
  Kept.adjust (Memory.adopt persistent)

/-- Opens a card on a store and sets the store up if it was not. -/
def openOn (profile : Profile) : Attempt StoreError σ Memory := do
  let mark ← Backend.readByte readyKey
  fun store =>
    match (if mark = some 1 then reload else makeFactory) (⟨{ profile }, store⟩ : Card σ) with
    | .ok () card => .ok card.memory card.store
    | .error e card => .error e card.store

end PgpCard.Card
