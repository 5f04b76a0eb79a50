import PgpCard.Store.Directory
import PgpCard.Store.Memory

/-!
# One store or the other

A card runs on a store in memory or on a store in a directory, as its settings say.
-/

set_option autoImplicit false

namespace PgpCard

/-- A store of one of two kinds. -/
inductive ChosenStore
  | memory (store : MemoryStore)
  | directory (store : DirectoryStore)

namespace ChosenStore

variable {α : Type}

/-- Runs the operation for the kind of store at hand. -/
def run (onMemory : Attempt StoreError MemoryStore α)
    (onDirectory : Attempt StoreError DirectoryStore α) : Attempt StoreError ChosenStore α
  | .memory store =>
    match onMemory store with
    | .ok a store => .ok a (.memory store)
    | .error e store => .error e (.memory store)
  | .directory store =>
    match onDirectory store with
    | .ok a store => .ok a (.directory store)
    | .error e store => .error e (.directory store)

instance : Backend ChosenStore where
  readByte key := run (Backend.readByte key) (Backend.readByte key)
  writeByte key value := run (Backend.writeByte key value) (Backend.writeByte key value)
  readWord key := run (Backend.readWord key) (Backend.readWord key)
  writeWord key value := run (Backend.writeWord key value) (Backend.writeWord key value)
  readBlob name := run (Backend.readBlob name) (Backend.readBlob name)
  writeBlob name data := run (Backend.writeBlob name data) (Backend.writeBlob name data)

end ChosenStore

end PgpCard
