import PgpCard.Store.Backend
import PgpCard.Store.Table

/-!
# A store in memory

Numbers are kept on two bytes whatever width they are written at.  One that does not fit in a
byte cannot be read as a byte.
-/

set_option autoImplicit false

namespace PgpCard

/-- A store that lasts as long as the program. -/
structure MemoryStore where
  scalars : Table UInt16 := {}
  blobs : Table Bytes := {}
  deriving DecidableEq, Repr

namespace MemoryStore

/-- Nothing stored. -/
def empty : MemoryStore := {}

/-- The number under a key, if it fits in a byte. -/
def byte? (store : MemoryStore) (key : String) : Except StoreError (Option UInt8) :=
  match store.scalars.find? key with
  | none => .ok none
  | some value =>
    if 0xFF < value.toNat then .error (.width key value.toNat 8) else .ok (some value.toUInt8)

/-- The store with a new number under a key. -/
def putScalar (store : MemoryStore) (key : String) (value : UInt16) : MemoryStore :=
  { store with scalars := store.scalars.insert key value }

/-- The store with a new byte string under a name. -/
def putBlob (store : MemoryStore) (name : String) (data : Bytes) : MemoryStore :=
  { store with blobs := store.blobs.insert name data }

instance : Backend MemoryStore where
  readByte key := fun store =>
    match store.byte? key with
    | .ok value => .ok value store
    | .error e => .error e store
  writeByte key value := fun store => .ok () (store.putScalar key value.toUInt16)
  readWord key := fun store => .ok (store.scalars.find? key) store
  writeWord key value := fun store => .ok () (store.putScalar key value)
  readBlob name := fun store => .ok (store.blobs.find? name) store
  writeBlob name data := fun store => .ok () (store.putBlob name data)

end MemoryStore

end PgpCard
