import PgpCard.Rsa.Error

/-!
# What can go wrong with a store
-/

set_option autoImplicit false

namespace PgpCard

/-- Why a stored record cannot be used. -/
inductive Corruption
  /-- The text is no record of the expected form. -/
  | malformed
  /-- Nothing is stored under the name. -/
  | missing
  /-- The store was written for another record layout, or for none. -/
  | unsupportedLayout (found : Option UInt16)
  /-- The signature counter is not stored on three bytes. -/
  | counterLength (found : Nat)
  /-- The stored components are no valid key. -/
  | invalidKey (error : Rsa.Error)
  deriving DecidableEq, Repr

/-- The reason in words. -/
def Corruption.message : Corruption → String
  | .malformed => "malformed record"
  | .missing => "missing"
  | .unsupportedLayout none => "unsupported layout None"
  | .unsupportedLayout (some found) => s!"unsupported layout Some({found})"
  | .counterLength found => s!"expected 3 bytes, found {found}"
  | .invalidKey error => error.message

/-- A store that refuses a read or a write. -/
inductive StoreError
  /-- The medium failed at a place, named by the path below the store. -/
  | medium (place : List String)
  /-- A record is there but cannot be used. -/
  | corrupt (name : String) (reason : Corruption)
  /-- A scalar does not fit in the width it is read at. -/
  | width (key : String) (value bits : Nat)
  deriving DecidableEq, Repr

/-- The failure in words. -/
def StoreError.message : StoreError → String
  | .medium place => "I/O error on " ++ "/".intercalate place
  | .corrupt name reason => s!"corrupt record {name}: {reason.message}"
  | .width key value bits =>
    s!"scalar {key} holds {value}, which does not fit in {bits} bits"

end PgpCard
