import PgpCard.Record.Codec
import PgpCard.Store.Backend

/-!
# Records in a store

A record is one byte string under its name, so that every change of a record is one write.
-/

set_option autoImplicit false

namespace PgpCard.Store

variable {σ α : Type} [Backend σ] [Recorded α]

/-- The record under a name, if there is one. -/
def loadRecord (name : String) : Attempt StoreError σ (Option α) := do
  match ← Backend.readBlob name with
  | none => return none
  | some text =>
    match Record.decode? text with
    | none => throw (.corrupt name .malformed)
    | some record => return some record

/-- The record under a name, which must be there. -/
def requireRecord (name : String) : Attempt StoreError σ α := do
  match ← loadRecord name with
  | none => throw (.corrupt name .missing)
  | some record => return record

/-- Writes a record under a name. -/
def saveRecord (name : String) (record : α) : Attempt StoreError σ Unit :=
  Backend.writeBlob name (Record.encode record)

end PgpCard.Store
