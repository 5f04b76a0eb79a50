import PgpCard.Store.Backend

/-!
# A store with hidden keys

A key that is hidden reads as absent until it is written again, as a number or as a byte string.
The store below keeps what it holds under the key.
-/

set_option autoImplicit false

namespace PgpCard

/-- A store some of whose keys are hidden. -/
structure VeiledStore (σ : Type) where
  inner : σ
  /-- The keys that read as absent. -/
  hidden : List String := []
  /-- The keys under which a number was written. -/
  scalarKeys : List String := []
  /-- The names under which a byte string was written. -/
  blobNames : List String := []

namespace VeiledStore

variable {σ α : Type}

/-- Hides a key. -/
def hide (store : VeiledStore σ) (key : String) : VeiledStore σ :=
  { store with hidden := key :: store.hidden }

/-- Shows a key again. -/
def reveal (store : VeiledStore σ) (key : String) : VeiledStore σ :=
  { store with hidden := store.hidden.filter (· != key) }

/-- Reads a key unless it is hidden. -/
def read (key : String) (act : Attempt StoreError σ (Option α)) :
    Attempt StoreError (VeiledStore σ) (Option α) := fun store =>
  if store.hidden.contains key then .ok none store
  else match act store.inner with
    | .ok a inner => .ok a { store with inner }
    | .error e inner => .error e { store with inner }

/-- Writes a key, which is no longer hidden if that succeeds. -/
def write (key : String) (act : Attempt StoreError σ Unit)
    (record : VeiledStore σ → VeiledStore σ) : Attempt StoreError (VeiledStore σ) Unit :=
  fun store =>
    match act store.inner with
    | .ok () inner => .ok () (record { store.reveal key with inner })
    | .error e inner => .error e { store with inner }

/-- Remembers a key under which a number was written. -/
def rememberScalar (key : String) (store : VeiledStore σ) : VeiledStore σ :=
  { store with scalarKeys := store.scalarKeys.insert key }

/-- Remembers a name under which a byte string was written. -/
def rememberBlob (name : String) (store : VeiledStore σ) : VeiledStore σ :=
  { store with blobNames := store.blobNames.insert name }

instance [Backend σ] : Backend (VeiledStore σ) where
  readByte key := read key (Backend.readByte key)
  writeByte key value := write key (Backend.writeByte key value) (rememberScalar key)
  readWord key := read key (Backend.readWord key)
  writeWord key value := write key (Backend.writeWord key value) (rememberScalar key)
  readBlob name := read name (Backend.readBlob name)
  writeBlob name data := write name (Backend.writeBlob name data) (rememberBlob name)
  note audit := fun store => { store with inner := Backend.note audit store.inner }

/-- The keys that hold a number and are not hidden. -/
def visibleScalars (store : VeiledStore σ) : List String :=
  store.scalarKeys.filter (!store.hidden.contains ·)

/-- The names that hold a byte string and are not hidden. -/
def visibleBlobs (store : VeiledStore σ) : List String :=
  store.blobNames.filter (!store.hidden.contains ·)

end VeiledStore

end PgpCard
