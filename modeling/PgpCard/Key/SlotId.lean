import PgpCard.Bytes

/-!
# The three key slots

The card holds one key for signatures, one for decryption and one for authentication.  A
command names a slot by the tag of its control reference template.
-/

set_option autoImplicit false

namespace PgpCard

/-- A key slot of the card. -/
inductive SlotId
  | signature
  | decryption
  | authentication
  deriving DecidableEq, Repr

namespace SlotId

/-- The slots in the order in which they are shown and stored. -/
def all : List SlotId := [signature, decryption, authentication]

/-- The name of a slot's record in the store. -/
def recordName : SlotId → String
  | signature => "key_sig"
  | decryption => "key_dec"
  | authentication => "key_aut"

/-- The slot that the tag of a control reference template names. -/
def ofTag? (tag : Nat) : Option SlotId :=
  if tag = 0xB6 then some signature
  else if tag = 0xB8 then some decryption
  else if tag = 0xA4 then some authentication
  else none

end SlotId

end PgpCard
